import ZipArchive.Proofs.Charset.Reads

/-!
# Characters in ISO-2022-JP

An escape sequence reads as nothing in front of anything but another one, and the bytes of a
character never start with one. So each character that is mapped exactly reads back whatever set is
designated before it, `roundTrips`, and the sequence at the end of a text adds nothing,
`reads_close`. The control characters that are never written are left out, `IsWritable`.
-/

namespace ZipArchive.Charset.Iso2022Jp

/-- Whether a character is none of the two shift controls and the escape character. -/
def IsWritable (ch : Char) : Prop :=
  ch ≠ '\u000E' ∧ ch ≠ '\u000F' ∧ ch ≠ '\u001B'

instance (ch : Char) : Decidable (IsWritable ch) :=
  inferInstanceAs (Decidable (ch ≠ '\u000E' ∧ ch ≠ '\u000F' ∧ ch ≠ '\u001B'))

variable {set new : Designation}

/-! ### Escape sequences -/

/-- An escape sequence that the writer uses designates its set, unless another follows. -/
theorem readEscape_escape (set new : Designation) (rest : Bytes) :
    ∃ tail, escape new = 0x1B :: tail ∧ readEscape set (tail ++ rest) =
      { size := 3, text? := if startsWithEscape rest then none else some [], after := new } := by
  cases new
  all_goals exact ⟨_, rfl, rfl⟩

private theorem startsWithEscape_cons {b : UInt8} (hb : b ≠ 0x1B) (rest : Bytes) :
    startsWithEscape (b :: rest) = false := by
  unfold startsWithEscape
  split
  case h_1 heq => exact absurd (List.cons.inj heq).1 hb
  case h_2 => rfl

/-- An escape sequence adds nothing to the text behind it, but must not stand before another. -/
theorem reads_escape_iff {rest : Bytes} {text : List Char} :
    iso2022Jp.Reads set (escape new ++ rest) text ↔
      startsWithEscape rest = false ∧ iso2022Jp.Reads new rest text := by
  obtain ⟨tail, htail, hread⟩ := readEscape_escape set new rest
  have hread' : iso2022Jp.read set 0x1B (tail ++ rest) =
      { size := 3, text? := if startsWithEscape rest then none else some [], after := new } := hread
  have hdrop : (tail ++ rest).drop 2 = rest := by
    have hlength : tail.length = 2 := by
      have hall := congrArg List.length htail
      cases new <;> simpa [escape] using hall.symm
    exact hlength ▸ List.drop_left
  rw [htail, List.cons_append, reads_cons_iff, hread']
  simp only [hdrop]
  cases startsWithEscape rest with
  | true => simp
  | false => simp

/-- What ends a text adds nothing to it. -/
theorem reads_close (set : Designation) : iso2022Jp.Reads set (iso2022Jp.close set) [] := by
  simp only [Charset.close, close]
  split
  · exact reads_nil_iff.2 rfl
  · have hnil : iso2022Jp.Reads set (escape .ascii ++ []) [] :=
      reads_escape_iff.2 ⟨rfl, reads_nil_iff.2 rfl⟩
    rwa [List.append_nil] at hnil

/-! ### Characters -/

/-- Bytes stand for a character in a set: they start with no escape character, and read as the
character in front of any text. -/
def StandsFor (new : Designation) (bs : Bytes) (ch : Char) : Prop :=
  (∃ b tail, bs = b :: tail ∧ b ≠ 0x1B) ∧
    ∀ rest text, iso2022Jp.Reads new rest text → iso2022Jp.Reads new (bs ++ rest) (ch :: text)

private theorem standsFor_single {b : UInt8} {ch : Char} (hb : b ≠ 0x1B) (hnew : new ≠ .kanji)
    (hread : readSingle new b = .char ch 1) : StandsFor new [b] ch := by
  refine ⟨⟨b, [], rfl, hb⟩, fun rest text hrest => ?_⟩
  have hread' : iso2022Jp.read new b rest = { Reading.char ch 1 with after := new } := by
    simp only [Charset.read, Iso2022Jp.read, hb, if_false, ← hread]
  rw [List.singleton_append, reads_cons_iff, hread']
  exact ⟨[ch], text, rfl, hrest, rfl⟩

private theorem standsFor_ascii {ch : Char} (hch : ch.toNat < 0x80) (hwritable : IsWritable ch)
    (hnew : new = .ascii ∨ new = .roman ∧ ch.toNat ≠ 0x5C ∧ ch.toNat ≠ 0x7E) :
    StandsFor new [UInt8.ofNat ch.toNat] ch := by
  have hbyte := toNat_ofNat_of_ascii hch
  have hne : ∀ b : UInt8, ch.toNat ≠ b.toNat → UInt8.ofNat ch.toNat ≠ b :=
    fun b hb heq => hb (by rw [← heq, hbyte])
  have hcode : ∀ x : Char, ch ≠ x → ch.toNat ≠ x.toNat := fun x hx heq => hx (Char.toNat_inj.1 heq)
  obtain ⟨hout, hin, hescape⟩ := hwritable
  have hout' := hne 0x0E (hcode _ hout)
  have hin' := hne 0x0F (hcode _ hin)
  have hlt : UInt8.ofNat ch.toNat < 0x80 := by
    rw [UInt8.lt_iff_toNat_lt, hbyte]
    exact hch
  refine standsFor_single (hne 0x1B (hcode _ hescape)) ?_ ?_
  · rcases hnew with rfl | ⟨rfl, -, -⟩
    · decide
    · decide
  · rcases hnew with rfl | ⟨rfl, hyen, htilde⟩
    · simp only [readSingle, reduceCtorEq, false_and, if_false]
      rw [if_pos ⟨hlt, hout', hin'⟩, hbyte, Char.ofNat_toNat]
    · simp only [readSingle, true_and]
      rw [if_neg (hne 0x5C hyen), if_neg (hne 0x7E htilde),
        if_pos ⟨hlt, hout', hin'⟩, hbyte, Char.ofNat_toNat]

private theorem designated?_escape (x : UInt8) : designated? x 0x1B = none := by
  unfold designated?
  split <;> first | rfl | contradiction

/-- What two bytes mean in JIS X 0208 does not depend on what follows. -/
theorem readKanji_eq (b t : UInt8) (rest : Bytes) : readKanji b (t :: rest) = readKanji b [t] := by
  unfold readKanji
  cases within? 0x21 0x7E b with
  | none => rfl
  | some row => rfl

/-- Two bytes that read as a character between the sequences of the writer stand for it. -/
theorem standsFor_kanji {b t : UInt8} {ch : Char}
    (h : iso2022Jp.Reads .ascii (escape .kanji ++ [b, t] ++ escape .ascii) [ch]) :
    StandsFor .kanji [b, t] ch := by
  rw [List.append_assoc, reads_escape_iff] at h
  have hbytes : iso2022Jp.Reads .kanji (b :: t :: 0x1B :: [0x28, 0x42]) [ch] := h.2
  obtain ⟨front, back, hfront, -, htext⟩ := reads_cons_iff.1 hbytes
  by_cases hb : b = 0x1B
  · -- the second byte and the escape character behind it designate nothing
    subst hb
    simp only [Charset.read, Iso2022Jp.read, if_true, readEscape, designated?_escape] at hfront
    cases hfront
  have hread : ∀ rest, iso2022Jp.read .kanji b (t :: rest) =
      { readKanji b [t] with after := .kanji } := by
    intro rest
    rw [← readKanji_eq b t rest]
    simp only [Charset.read, Iso2022Jp.read, hb, if_false]
  have hchar : readKanji b [t] = .char ch 2 := by
    rw [hread] at hfront
    simp only [readKanji] at hfront ⊢
    cases hrow : within? 0x21 0x7E b with
    | none => simp [hrow, Reading.malformed] at hfront
    | some row =>
      by_cases ht : t = 0x1B
      · simp [hrow, ht, Reading.malformed] at hfront
      cases hcell : (within? 0x21 0x7E t).bind fun cell =>
          Index.jis0208.char? (row * 94 + cell) with
      | none => simp [hrow, ht, hcell, Reading.malformed] at hfront
      | some found =>
        simp only [hrow, ht, hcell, if_false, Reading.char, Option.some.injEq] at hfront ⊢
        subst hfront
        rw [(List.cons.inj htext).1]
  refine ⟨⟨b, [t], rfl, hb⟩, fun rest text hrest => ?_⟩
  rw [List.cons_append, List.singleton_append, reads_cons_iff, hread, hchar]
  exact ⟨[ch], text, rfl, hrest, rfl⟩

/-- A character of JIS X 0208 that is mapped exactly. -/
theorem standsFor_of_pointer? {ch : Char} {p : Nat} (hexact : iso2022Jp.mapsExactly ch = true)
    (hch : ¬ch.toNat < 0x80) (hyen : ch ≠ '¥') (hoverline : ch ≠ '‾')
    (hp : Index.jis0208.pointer? (canonical ch) = some p) :
    StandsFor .kanji [UInt8.ofNat (p / 94 + 0x21), UInt8.ofNat (p % 94 + 0x21)] ch := by
  have hwrite : iso2022Jp.write .ascii ch =
      some (escape .kanji ++ [UInt8.ofNat (p / 94 + 0x21), UInt8.ofNat (p % 94 + 0x21)],
        .kanji) := by
    simp [Charset.write, Iso2022Jp.write, place?, hch, hyen, hoverline, hp]
  have hclose : iso2022Jp.close .kanji = escape .ascii := rfl
  simp only [mapsExactly, isUtf8, hch, decide_false, Bool.or_self, Bool.false_or, hwrite,
    hclose] at hexact
  split at hexact
  case h_1 decoded hdecode =>
    obtain rfl := of_decide_eq_true hexact
    exact standsFor_kanji (decode_eq_ok_iff.1 hdecode)
  case h_2 => cases hexact

/-- The characters that are never written. -/
theorem isWritable_of_write {ch : Char} {written : Bytes × Designation}
    (h : iso2022Jp.write set ch = some written) : IsWritable ch := by
  refine ⟨?_, ?_, ?_⟩
  all_goals
    rintro rfl
    cases h

/-- What is mapped exactly and is written at all has bytes that stand for it. -/
theorem exists_place?_eq {ch : Char} (hexact : iso2022Jp.mapsExactly ch = true)
    (hwritable : IsWritable ch) (set : Designation) :
    ∃ new bs, place? set ch = some (new, bs) ∧ StandsFor new bs ch := by
  by_cases hch : ch.toNat < 0x80
  · have hrefused : ¬(ch.toNat = 0x0E ∨ ch.toNat = 0x0F ∨ ch.toNat = 0x1B) := by
      obtain ⟨hout, hin, hescape⟩ := hwritable
      rintro (h | h | h)
      · exact hout (Char.toNat_inj.1 h)
      · exact hin (Char.toNat_inj.1 h)
      · exact hescape (Char.toNat_inj.1 h)
    simp only [place?, hch, hrefused, if_true, if_false]
    split
    case isTrue hroman =>
      exact ⟨_, _, rfl, standsFor_ascii hch hwritable (.inr ⟨rfl, hroman.2⟩)⟩
    case isFalse => exact ⟨_, _, rfl, standsFor_ascii hch hwritable (.inl rfl)⟩
  by_cases hyen : ch = '¥'
  · subst hyen
    exact ⟨.roman, [0x5C], rfl, standsFor_single (by decide) (by decide) rfl⟩
  by_cases hoverline : ch = '‾'
  · subst hoverline
    exact ⟨.roman, [0x7E], rfl, standsFor_single (by decide) (by decide) rfl⟩
  simp only [place?, hch, hyen, hoverline, if_false]
  cases hp : Index.jis0208.pointer? (canonical ch) with
  | none =>
    have hwrite : iso2022Jp.write .ascii ch = none := by
      simp [Charset.write, Iso2022Jp.write, place?, hch, hyen, hoverline, hp]
    simp [mapsExactly, isUtf8, hch, hwrite] at hexact
  | some p => exact ⟨_, _, rfl, standsFor_of_pointer? hexact hch hyen hoverline hp⟩

/-- What is mapped exactly and is written at all reads back. -/
theorem roundTrips {ch : Char} (hexact : iso2022Jp.mapsExactly ch = true)
    (hwritable : IsWritable ch) : iso2022Jp.RoundTrips ch := by
  intro set
  obtain ⟨new, bs, hplace, ⟨b, tail, rfl, hb⟩, hbs⟩ := exists_place?_eq hexact hwritable set
  refine ⟨_, new, by rw [Charset.write, Iso2022Jp.write, hplace]; rfl, fun rest text hrest => ?_⟩
  split
  case isTrue hnew =>
    subst hnew
    exact hbs rest text hrest
  case isFalse =>
    rw [List.append_assoc]
    exact reads_escape_iff.2 ⟨startsWithEscape_cons hb _, hbs rest text hrest⟩

end ZipArchive.Charset.Iso2022Jp
