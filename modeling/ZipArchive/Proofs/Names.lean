import ZipArchive.Proofs.HeaderText

/-!
# What encoding the text of an entry changes

Encoding name and comment sets the flag for UTF-8 and may add records with the UTF-8 form, and
leaves everything else of the entry as it is: `Entry.agreesButText_of_encodeText`.
-/

namespace ZipArchive

open Extra (FieldList Record)

variable {κ : Type} [Record κ]

/-- The second entry differs from the first in the flag for UTF-8 and in its extra fields at most,
and among these left-over bytes stay last. -/
def Entry.AgreesButText (e e' : Entry κ) : Prop :=
  ∃ utf8Names extra, e' = { e with flags := { e.flags with utf8Names }, extra } ∧
    (e.extra.LeftoverLast → FieldList.LeftoverLast extra)

theorem Entry.agreesButText_of_encodeText {e e' : Entry κ} {o : NameOptions} {text : EncodedText}
    (h : e.encodeText o = (.ok text, e')) : e.AgreesButText e' := by
  obtain ⟨-, -, rfl⟩ := of_encodeText_eq_ok h
  refine ⟨_, _, rfl, fun hlast => ?_⟩
  refine List.foldlRecOn _ _ hlast fun fields hfields f hf => hfields.add ?_
  rcases of_mem_textRecords hf with rfl | rfl
  · rfl
  · rfl

end ZipArchive
