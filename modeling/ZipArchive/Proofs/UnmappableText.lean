import ZipArchive.Proofs.TextEncoding

/-!
# Texts that a charset does not hold

Under the strict policy a text with a character that the charset does not hold is refused, and the
fault says which is the first and how many characters come before it: `encode_strict_eq_error`.
These characters are written, one after the other, until the writer meets the one that it refuses.
-/

namespace ZipArchive.TextEncoding

/-- A text begins with characters that the charset holds, and behind them comes one that it does
not. -/
structure FirstUnmappable (e : TextEncoding) (text : String) (before : List Char) (ch : Char) :
    Prop where
  exists_after : ∃ after, text.toList = before ++ ch :: after
  holds_before : ∀ x ∈ before, e.canEncode (String.ofList [x]) = true
  not_holds : e.canEncode (String.ofList [ch]) = false

variable {e : TextEncoding}

private theorem canEncode_ofList_singleton (hutf8 : e.charset.isUtf8 = false) (ch : Char) :
    e.canEncode (String.ofList [ch]) = e.charset.mapsExactly ch := by
  simp [canEncode, isUtf8, hutf8]

/-- A text that the charset does not hold has a first character that it does not hold. -/
theorem exists_firstUnmappable {text : String} (h : e.canEncode text = false) :
    ∃ before ch, e.FirstUnmappable text before ch := by
  rw [canEncode, Bool.or_eq_false_iff, isUtf8, List.all_eq_false] at h
  obtain ⟨hutf8, ch, hmem, hch⟩ := h
  have hfound : (text.toList.find? fun x => !e.charset.mapsExactly x).isSome := by
    rw [List.find?_isSome]
    exact ⟨ch, hmem, by simpa using hch⟩
  obtain ⟨first, hfirst⟩ := Option.isSome_iff_exists.1 hfound
  obtain ⟨hnot, before, after, hsplit, hbefore⟩ := List.find?_eq_some_iff_append.1 hfirst
  refine ⟨before, first, ⟨after, hsplit⟩, fun x hx => ?_, ?_⟩
  · rw [canEncode_ofList_singleton hutf8]
    simpa using hbefore x hx
  · rw [canEncode_ofList_singleton hutf8]
    simpa using hnot

/-- The writer comes to the first character that it refuses. -/
theorem encode_go_strict_eq_error (hpolicy : e.policy = .strict) (hutf8 : e.charset.isUtf8 = false)
    {front : List Char} {ch : Char} (hfront : ∀ x ∈ front, e.charset.mapsExactly x = true ∧
      (e.charset = .iso2022Jp → Charset.Iso2022Jp.IsWritable x))
    (hch : e.charset.mapsExactly ch = false) (after : List Char) (set : Charset.Designation)
    (before : List Char) (out : Bytes) :
    encode.go e set before out (front ++ ch :: after) =
      .error (e.unmappable (before.length + front.length) ch) := by
  have hescapes : e.escapes = false := by simp [escapes, hpolicy]
  -- by induction on the characters that are written before it
  induction front generalizing set before out with
  | nil =>
    rw [List.nil_append, encode.go, hescapes, Bool.false_and, Bool.false_and,
      if_neg Bool.false_ne_true, hch, if_neg Bool.false_ne_true, if_pos hpolicy]
    rfl
  | cons x front ih =>
    obtain ⟨⟨hexact, hwritable⟩, hrest⟩ := List.forall_mem_cons.1 hfront
    obtain ⟨bs, new, hwrite, -⟩ := Charset.roundTrips hutf8 hexact hwritable set
    have hstep := ih hrest new (x :: before) (bs.reverseAux out)
    rw [List.cons_append, encode.go, hescapes, Bool.false_and, Bool.false_and,
      if_neg Bool.false_ne_true, if_pos hexact]
    simp only [hwrite, hstep, List.length_cons]
    rw [Nat.add_right_comm, Nat.add_assoc]

/-- Under the strict policy, a text that the charset does not hold is refused for the first
character that it does not hold. The fault names this character and gives the number of those before
it, which are written. -/
theorem encode_strict_eq_error (c : Charset) {text : String}
    (h : (mk c .strict).canEncode text = false)
    (hwritable : c = .iso2022Jp → ∀ ch ∈ text.toList, Charset.Iso2022Jp.IsWritable ch) :
    (∃ before ch, (mk c .strict).FirstUnmappable text before ch) ∧
    ∀ before ch, (mk c .strict).FirstUnmappable text before ch →
      (mk c .strict).encode text = .error (.encoding c.name before.length
        s!"character {Printable.quoted ch} (U+{Hex.upper 4 ch.toNat}) is not representable") ∧
      ∃ bs, (mk c .strict).encode (String.ofList before) = .ok bs := by
  refine ⟨exists_firstUnmappable h, fun before ch hfirst => ?_⟩
  obtain ⟨⟨after, hsplit⟩, hbefore, hch⟩ := hfirst
  have hutf8 : (mk c .strict).charset.isUtf8 = false := by
    rw [canEncode, Bool.or_eq_false_iff] at h
    exact h.1
  have hfront : ∀ x ∈ before, c.mapsExactly x = true ∧
      (c = .iso2022Jp → Charset.Iso2022Jp.IsWritable x) := by
    intro x hx
    refine ⟨?_, fun hcharset => hwritable hcharset x ?_⟩
    · exact (canEncode_ofList_singleton hutf8 x).symm.trans (hbefore x hx)
    · rw [hsplit]
      exact List.mem_append_left _ hx
  have hexact : c.mapsExactly ch = false := (canEncode_ofList_singleton hutf8 ch).symm.trans hch
  have hgo : encode.go (mk c .strict) .ascii [] [] (before ++ ch :: after) =
      .error ((mk c .strict).unmappable (0 + before.length) ch) :=
    encode_go_strict_eq_error rfl hutf8 hfront hexact after .ascii [] []
  constructor
  · rw [encode, isUtf8, hutf8, if_neg Bool.false_ne_true, hsplit, hgo, Nat.zero_add]
    rfl
  · rw [encode, isUtf8, hutf8, if_neg Bool.false_ne_true, String.toList_ofList]
    exact (exists_encode_go_strict_iff rfl hutf8).2 hfront

/-- Between two characters of windows-1252, of which one takes two bytes in UTF-8, there is one that
it does not hold. -/
def sampleGreek : String := "éΩ€"

/-- The fault counts one character before the omega, not two bytes. -/
theorem encode_strict_eq_error_sampleGreek :
    (mk (.page .windows1252) .strict).canEncode sampleGreek = false ∧
      (mk (.page .windows1252) .strict).FirstUnmappable sampleGreek ['é'] 'Ω' ∧
      (mk (.page .windows1252) .strict).encode sampleGreek = .error (.encoding "windows-1252" 1
        "character 'Ω' (U+03A9) is not representable") := by
  have hcharset : Charset.page .windows1252 ≠ .iso2022Jp := nofun
  have h : (mk (.page .windows1252) .strict).canEncode sampleGreek = false := by decide +kernel
  have hfirst : (mk (.page .windows1252) .strict).FirstUnmappable sampleGreek ['é'] 'Ω' :=
    ⟨⟨['€'], by decide +kernel⟩, List.forall_mem_singleton.2 (by decide +kernel), by decide +kernel⟩
  obtain ⟨-, hfault⟩ := encode_strict_eq_error _ h fun h' => absurd h' hcharset
  have hquoted : Printable.quoted 'Ω' = "'Ω'" := by decide +kernel
  have hcode : Hex.upper 4 'Ω'.toNat = "03A9" := by decide +kernel
  refine ⟨h, hfirst, ?_⟩
  rw [(hfault _ _ hfirst).1, hquoted, hcode]
  rfl

end ZipArchive.TextEncoding
