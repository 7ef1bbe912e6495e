import ZipArchive.Charset.Basic

/-!
# Bytes that read as a text

`Charset.Reads c set bs text` says that the bytes `bs`, read while `set` is designated, form units
without a malformed one among them, and that these stand for `text`. It is taken apart one unit at a
time by `reads_cons_iff`. Strict decoding succeeds exactly on such bytes, `decode_eq_ok_iff`, and
lossy decoding gives their text, `decodeLossy_of_reads`.
-/

namespace ZipArchive.Charset

variable {c : Charset} {set : Designation}

/-- The bytes form units without a malformed one, which stand for the text. -/
def Reads (c : Charset) (set : Designation) (bs : Bytes) (text : List Char) : Prop :=
  (∀ r ∈ readings.go c set bs [], r.text?.isSome) ∧
    (readings.go c set bs []).flatMap Reading.replaced = text

private theorem readings_go_append (c : Charset) (set : Designation) (bs : Bytes)
    (acc acc' : List Reading) :
    readings.go c set bs (acc ++ acc') = acc'.reverse ++ readings.go c set bs acc := by
  induction set, bs, acc using readings.go.induct c with
  | case1 set acc => simp [readings.go]
  | case2 set acc b rest r ih =>
    rw [readings.go, readings.go, ← List.cons_append]
    exact ih

private theorem readings_go_eq (c : Charset) (set : Designation) (bs : Bytes) (acc : List Reading) :
    readings.go c set bs acc = acc.reverse ++ readings.go c set bs [] :=
  readings_go_append c set bs [] acc

/-- The units of bytes are the first of them and those behind it. -/
theorem readings_go_cons (c : Charset) (set : Designation) (b : UInt8) (rest : Bytes) :
    readings.go c set (b :: rest) [] = c.read set b rest ::
      readings.go c (c.read set b rest).after (rest.drop ((c.read set b rest).size - 1)) [] := by
  rw [readings.go, readings_go_eq, List.reverse_singleton, List.singleton_append]

theorem reads_nil_iff {text : List Char} : c.Reads set [] text ↔ text = [] := by
  rw [Reads, readings.go]
  constructor
  · rintro ⟨-, rfl⟩
    rfl
  · rintro rfl
    exact ⟨fun r hr => absurd hr (by simp), rfl⟩

theorem reads_cons_iff {b : UInt8} {rest : Bytes} {text : List Char} :
    c.Reads set (b :: rest) text ↔
      ∃ front back, (c.read set b rest).text? = some front ∧
        c.Reads (c.read set b rest).after (rest.drop ((c.read set b rest).size - 1)) back ∧
        text = front ++ back := by
  rw [Reads, readings_go_cons, List.flatMap_cons, List.forall_mem_cons]
  constructor
  · rintro ⟨⟨hread, hrest⟩, rfl⟩
    obtain ⟨front, hfront⟩ := Option.isSome_iff_exists.1 hread
    exact ⟨front, _, hfront, ⟨hrest, rfl⟩, by rw [Reading.replaced, hfront, Option.getD_some]⟩
  · rintro ⟨front, back, hfront, ⟨hrest, rfl⟩, rfl⟩
    exact ⟨⟨by rw [hfront]; rfl, hrest⟩, by rw [Reading.replaced, hfront, Option.getD_some]⟩

/-! ### Decoding -/

private theorem firstMalformed?_eq_none_iff {offset : Nat} {rs : List Reading} :
    firstMalformed? offset rs = none ↔ ∀ r ∈ rs, r.text?.isSome := by
  induction rs generalizing offset with
  | nil => simp [firstMalformed?]
  | cons r rs ih =>
    rw [firstMalformed?, List.forall_mem_cons]
    cases hr : r.text? with
    | none => simp
    | some text => simpa using ih

/-- Strict decoding succeeds exactly on bytes that read as a text. -/
theorem decode_eq_ok_iff {bs : Bytes} {text : List Char} :
    c.decode bs = .ok text ↔ c.Reads .ascii bs text := by
  have hformed := @firstMalformed?_eq_none_iff 0 (c.readings bs)
  simp only [decode]
  cases hbad : firstMalformed? 0 (c.readings bs) with
  | none =>
    rw [Except.ok.injEq]
    exact ⟨fun htext => ⟨hformed.1 hbad, htext⟩, fun hreads => hreads.2⟩
  | some bad =>
    refine ⟨fun htext => (nomatch htext), fun hreads => ?_⟩
    rw [hformed.2 hreads.1] at hbad
    cases hbad

/-- Lossy decoding gives the text of bytes that read as one. -/
theorem decodeLossy_of_reads {bs : Bytes} {text : List Char} (h : c.Reads .ascii bs text) :
    c.decodeLossy bs = text :=
  h.2

/-! ### Characters that read back -/

/-- Whatever set is designated, the character is written, and its bytes read as this character in
front of any text. -/
def RoundTrips (c : Charset) (ch : Char) : Prop :=
  ∀ set, ∃ bs new, c.write set ch = some (bs, new) ∧
    ∀ rest text, c.Reads new rest text → c.Reads set (bs ++ rest) (ch :: text)

/-- The byte of an ASCII character. -/
theorem toNat_ofNat_of_ascii {ch : Char} (h : ch.toNat < 0x80) :
    (UInt8.ofNat ch.toNat).toNat = ch.toNat :=
  UInt8.toNat_ofNat_of_lt' (Nat.lt_trans h (by decide))

end ZipArchive.Charset
