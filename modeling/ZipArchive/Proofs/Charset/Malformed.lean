import ZipArchive.Proofs.Charset.Iso2022Jp
import ZipArchive.Proofs.Charset.Stateless
import ZipArchive.Proofs.Charset.Utf8

/-!
# The first malformed unit

Bytes that are cut off behind a unit still read as this unit, unless it is malformed,
`severable_read`: in ISO-2022-JP because an escape sequence can only be spoilt by bytes behind it,
and elsewhere because nothing behind a unit matters. So the bytes before the first malformed unit
read as a text on their own, and lossy decoding gives this text with a replacement character behind
it, `of_decode_eq_error`.
-/

namespace ZipArchive.Charset

/-! ### Bytes cut off -/

/-- What is read behind the first byte of a unit is the same when the bytes are cut off behind the
unit, unless it is malformed; and all of the unit is there. -/
def Severable (f : Bytes → Reading) : Prop :=
  ∀ rest, (f rest).text?.isSome → ∃ k ≤ rest.length, (f rest).size = k + 1 ∧
    ∀ n ≥ k, f (rest.take n) = f rest

private theorem Settled.severable {f : Bytes → Reading} (h : Settled 1 f) : Severable f := by
  intro rest hrest
  obtain ⟨-, own, behind, rfl, hsize, hmore⟩ := h rest hrest
  refine ⟨own.length, by rw [List.length_append]; exact Nat.le_add_right _ _, hsize, fun n hn => ?_⟩
  rw [List.take_append, List.take_of_length_le hn, hmore]

namespace Utf8

/-- Continuation bytes are read one after the other. -/
theorem settled_continuation (n size : Nat) (low high : UInt8) (more : Nat) :
    Settled size (continuation n size low high more) := by
  induction more generalizing n size low high with
  | zero => exact .of_const (fun rest => by rw [continuation]) rfl rfl
  | succ more ih => exact .of_cons rfl fun t => .ite (ih _ _ _ _) (.of_malformed fun _ => rfl)

private theorem settled_read (b : UInt8) : Settled 1 (read b) := by
  have hmalformed : Settled 1 fun _ => .malformed 1 := .of_malformed fun _ => rfl
  have hmore : ∀ {n low high more}, Settled 1 (continuation n 1 low high more) :=
    settled_continuation _ 1 _ _ _
  -- one condition after the other, each on the first byte alone
  exact .ite (.of_const (fun _ => rfl) rfl rfl) <| .ite hmalformed <| .ite hmore <| .ite hmore <|
    .ite hmore <| .ite hmore <| .ite hmore <| .ite hmore <| .ite hmore hmalformed

end Utf8

namespace Iso2022Jp

private theorem startsWithEscape_append {bs : Bytes} (h : startsWithEscape bs = true)
    (more : Bytes) : startsWithEscape (bs ++ more) = true := by
  unfold startsWithEscape at h
  split at h
  case h_1 => exact h
  case h_2 => cases h

/-- Bytes do not come to start with an escape sequence by being cut off. -/
theorem startsWithEscape_take {bs : Bytes} (h : startsWithEscape bs = false) (n : Nat) :
    startsWithEscape (bs.take n) = false := by
  cases htake : startsWithEscape (bs.take n) with
  | false => rfl
  | true =>
    have hall := startsWithEscape_append htake (bs.drop n)
    rw [List.take_append_drop, h] at hall
    cases hall

private theorem severable_readEscape (set : Designation) : Severable (readEscape set) := by
  intro rest hrest
  match rest, hrest with
  | [], hrest => cases hrest
  | [_], hrest => cases hrest
  | x :: y :: behind, hrest =>
    cases hnew : designated? x y with
    | none =>
      simp only [readEscape, hnew] at hrest
      cases hrest
    | some new =>
      cases hbehind : startsWithEscape behind with
      | true =>
        simp only [readEscape, hnew, hbehind, if_true] at hrest
        cases hrest
      | false =>
        refine ⟨2, Nat.le_add_left 2 _, by simp only [readEscape, hnew], fun n hn => ?_⟩
        obtain ⟨m, rfl⟩ := Nat.exists_eq_add_of_le' hn
        simp only [List.take_succ_cons, readEscape, hnew, hbehind, startsWithEscape_take hbehind]

/-- A character of JIS X 0208 has a second byte. -/
theorem exists_of_readKanji {b : UInt8} {rest : Bytes} (h : (readKanji b rest).text?.isSome) :
    ∃ t behind, rest = t :: behind ∧ (readKanji b rest).size = 2 := by
  unfold readKanji at h ⊢
  split at h
  case h_2 => cases h
  case h_1 t behind hrow =>
    refine ⟨t, behind, rfl, ?_⟩
    split at h
    case isTrue => cases h
    case isFalse ht =>
      rw [if_neg ht]
      split at h
      case h_1 => rfl
      case h_2 => cases h

private theorem severable_readKanji (b : UInt8) : Severable (readKanji b) := by
  intro rest hrest
  obtain ⟨t, behind, rfl, hsize⟩ := exists_of_readKanji hrest
  refine ⟨1, Nat.le_add_left 1 _, hsize, fun n hn => ?_⟩
  obtain ⟨m, rfl⟩ := Nat.exists_eq_add_of_le' hn
  rw [List.take_succ_cons, readKanji_eq b t (behind.take m), readKanji_eq b t behind]

private theorem size_readSingle (set : Designation) (b : UInt8) : (readSingle set b).size = 1 := by
  unfold readSingle
  repeat' split
  all_goals rfl

private theorem severable_read (set : Designation) (b : UInt8) : Severable (read set b) := by
  by_cases hb : b = 0x1B
  · have hescape : read set b = readEscape set := funext fun rest => if_pos hb
    exact hescape ▸ severable_readEscape set
  · cases set with
    | kanji =>
      intro rest hrest
      simp only [read, hb, if_false] at hrest ⊢
      obtain ⟨k, hk, hsize, hcut⟩ := severable_readKanji b rest hrest
      exact ⟨k, hk, hsize, fun n hn => by rw [hcut n hn]⟩
    | _ =>
      intro rest _
      simp only [read, hb, if_false]
      exact ⟨0, Nat.zero_le _, size_readSingle _ b, fun _ _ => trivial⟩

end Iso2022Jp

variable {c : Charset} {set : Designation}

private theorem severable_read (c : Charset) (set : Designation) (b : UInt8) :
    Severable (c.read set b) := by
  cases hstateless : c.isStateless with
  | true => exact (settled_read hstateless set b).severable
  | false =>
    cases c with
    | utf8 => exact (Utf8.settled_read b).severable
    | iso2022Jp => exact Iso2022Jp.severable_read set b
    | _ => cases hstateless

/-! ### The first malformed unit -/

/-- The bytes before the first malformed unit read as a text. -/
theorem exists_reads_take {bs : Bytes} {offset position size : Nat}
    (h : firstMalformed? offset (readings.go c set bs []) = some (position, size)) :
    ∃ p text behind, position = offset + p ∧ p < bs.length ∧ c.Reads set (bs.take p) text ∧
      (readings.go c set bs []).flatMap Reading.replaced = text ++ '\uFFFD' :: behind := by
  -- by induction on the number of bytes, since a unit may take several
  induction hlength : bs.length using Nat.strongRecOn generalizing set bs offset with
  | ind n ih =>
    cases bs with
    | nil =>
      rw [readings.go] at h
      cases h
    | cons b rest =>
      rw [readings_go_cons, firstMalformed?] at h
      rw [readings_go_cons, List.flatMap_cons, Reading.replaced]
      cases hread : (c.read set b rest).text? with
      | none =>
        rw [hread] at h
        cases h
        exact ⟨0, [], _, rfl, hlength ▸ Nat.succ_pos _, reads_nil_iff.2 rfl, rfl⟩
      | some front =>
        obtain ⟨k, hk, hsize, hcut⟩ := severable_read c set b rest (by rw [hread]; rfl)
        have hdrop : (rest.drop k).length + k = rest.length := by
          rw [List.length_drop, Nat.sub_add_cancel hk]
        rw [hread, hsize, Nat.add_sub_cancel] at h
        rw [hsize, Nat.add_sub_cancel]
        obtain ⟨p, back, behind, rfl, hp, hback, hlossy⟩ :=
          ih _ (by rw [← hlength, List.length_cons]; omega) h rfl
        refine ⟨p + k + 1, front ++ back, behind, by omega, ?_, ?_, ?_⟩
        · rw [← hlength, List.length_cons]
          omega
        · have hread' := hcut (p + k) (Nat.le_add_left k p)
          rw [List.take_succ_cons, reads_cons_iff, hread', hsize]
          refine ⟨front, back, hread, ?_, rfl⟩
          rwa [Nat.add_sub_cancel, List.drop_take, Nat.add_sub_cancel]
        · rw [hlossy, Option.getD_some, List.append_assoc]

/-- The bytes before the first malformed unit decode, and lossy decoding gives their text with a
replacement character behind it. -/
theorem of_decode_eq_error {bs : Bytes} {position size : Nat}
    (h : c.decode bs = .error (position, size)) :
    position < bs.length ∧ ∃ text behind, c.decode (bs.take position) = .ok text ∧
      c.decodeLossy bs = text ++ '\uFFFD' :: behind := by
  cases hbad : firstMalformed? 0 (c.readings bs) with
  | none =>
    simp only [decode, hbad] at h
    cases h
  | some bad =>
    simp only [decode, hbad] at h
    cases h
    obtain ⟨p, text, behind, hposition, hp, htext, hlossy⟩ := exists_reads_take hbad
    rw [Nat.zero_add] at hposition
    subst hposition
    exact ⟨hp, text, behind, decode_eq_ok_iff.2 htext, hlossy⟩

end ZipArchive.Charset
