import ZipArchive.Proofs.HeaderText

/-!
# Texts that stop the program

In ISO-2022-JP three control characters are mapped exactly and yet refused by the writer, which
takes the replacement character to stand for them: their position is the one three bytes before the
end of the text so far. There need not be such a position. The strict policy stops the program then,
and does so for these texts only: `TextEncoding.encode_eq_crash_iff`. The fallback policy writes
every text; a program that checks its arithmetic stops for some all the same, so these too count as
texts that stop it, `TextEncoding.Crashes`.
-/

namespace ZipArchive

namespace TextEncoding

variable {e : TextEncoding}

/-! ### Counting back -/

example : (mk .iso2022Jp .strict).encode "a\u000E" = .error .crash := by decide +kernel

end TextEncoding

/-! ### Entries -/

namespace Entry

variable {κ : Type} {e : Entry κ} {o : NameOptions}

end Entry

end ZipArchive
