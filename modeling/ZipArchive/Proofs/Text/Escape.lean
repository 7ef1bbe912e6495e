import Mathlib.Data.List.Forall2
import ZipArchive.Proofs.Text.Hex
import ZipArchive.Text.Escape

/-!
# Laws of escapes

`Escape.protect` writes a text with escapes for the characters that a charset does not hold, and for
each percent sign that starts what looks like an escape. Reading the escapes back gives the text
again, whatever it is: `unescape_protect`. Two facts carry this. The escapes of adjacent characters
form one run of code units, which falls apart into these characters again, `ofUnits_flatMap_units`.
And a percent sign that is left as it is does not come to look like an escape by what is written
behind it, since a character that is not written as it is gives way to a percent sign,
`eq_cons_of_protect_eq_cons`.
-/

namespace ZipArchive.Escape

/-! ### Code units -/

/-- The code point of a character is not that of half a pair. -/
theorem toNat_cases (c : Char) :
    c.toNat < 0xD800 ∨ 0xDFFF < c.toNat ∧ c.toNat < 0x110000 :=
  c.valid

private theorem units_lt (c : Char) : ∀ u ∈ units c, u < 0x10000 := by
  have hvalid := toNat_cases c
  intro u hu
  simp only [units] at hu
  split at hu
  · rw [List.mem_singleton.1 hu]
    assumption
  · simp only [List.mem_cons, List.not_mem_nil, or_false] at hu
    omega

/-- A code unit that is not half of a pair is read as a character of its own. -/
theorem ofUnits_cons {u : Nat} (h : isHigh u = false) (h' : isLow u = false) (rest : List Nat) :
    ofUnits (u :: rest) = Char.ofNat u :: ofUnits rest := by
  cases rest with
  | nil => simp [ofUnits, h, h']
  | cons v rest => simp [ofUnits, h, h']

/-- The code units of a character are read as this character, whatever follows them. -/
theorem ofUnits_units_append (c : Char) (rest : List Nat) :
    ofUnits (units c ++ rest) = c :: ofUnits rest := by
  have hvalid := toNat_cases c
  simp only [units]
  by_cases hc : c.toNat < 0x10000
  · rw [if_pos hc, List.singleton_append, ofUnits_cons, Char.ofNat_toNat]
    · simp only [isHigh, Bool.and_eq_false_iff, decide_eq_false_iff_not]
      omega
    · simp only [isLow, Bool.and_eq_false_iff, decide_eq_false_iff_not]
      omega
  · have hhigh : isHigh (0xD800 + (c.toNat - 0x10000) / 1024) = true := by
      simp only [isHigh, Bool.and_eq_true, decide_eq_true_eq]
      omega
    have hlow : isLow (0xDC00 + (c.toNat - 0x10000) % 1024) = true := by
      simp only [isLow, Bool.and_eq_true, decide_eq_true_eq]
      omega
    have hpair : 0x10000 + (0xD800 + (c.toNat - 0x10000) / 1024 - 0xD800) * 1024 +
        (0xDC00 + (c.toNat - 0x10000) % 1024 - 0xDC00) = c.toNat := by
      omega
    rw [if_neg hc, List.cons_append, List.singleton_append, ofUnits, hhigh, hlow, Bool.and_self,
      if_pos rfl, hpair, Char.ofNat_toNat]

/-- The code units of a text are read as this text. -/
theorem ofUnits_flatMap_units (text : List Char) : ofUnits (text.flatMap units) = text := by
  induction text with
  | nil => rfl
  | cons c text ih => rw [List.flatMap_cons, ofUnits_units_append, ih]

/-! ### Escapes -/

/-- A text is an escape of a code unit: a percent sign, a capital `U` and the four hexadecimal
digits of the unit, each of them in either case. -/
def IsEscape (text : List Char) (u : Nat) : Prop :=
  u < 0x10000 ∧ ∃ a b c d, text = ['%', 'U', a, b, c, d] ∧ Hex.IsDigit a (u / 4096) ∧
    Hex.IsDigit b (u / 256 % 16) ∧ Hex.IsDigit c (u / 16 % 16) ∧ Hex.IsDigit d (u % 16)

private theorem isEscape_ofUnit {u : Nat} (h : u < 0x10000) : IsEscape (ofUnit u) u :=
  ⟨h, _, _, _, _, by rw [ofUnit, Hex.toList_upper h], .inr rfl, .inr rfl, .inr rfl, .inr rfl⟩

/-- An escape of a code unit is read as this code unit. -/
theorem unit?_append {escape : List Char} {u : Nat} (h : IsEscape escape u) (rest : List Char) :
    unit? (escape ++ rest) = some u := by
  obtain ⟨hu, a, b, c, d, rfl, ha, hb, hc, hd⟩ := h
  have hdigit : ∀ {ch : Char} {n : Nat}, n < 16 → Hex.IsDigit ch n → Hex.digit? ch = some n :=
    fun hn hch => Hex.digit?_eq_some_iff.2 ⟨hn, hch⟩
  simp only [List.cons_append, List.nil_append, unit?, hdigit (by omega) ha, hdigit (by omega) hb,
    hdigit (by omega) hc, hdigit (by omega) hd]
  simp only [Option.bind_eq_bind, Option.bind_some, Option.pure_def, Option.some.injEq]
  omega

/-- What is read as a code unit is an escape of it. -/
theorem exists_isEscape {text : List Char} {u : Nat} (h : unit? text = some u) :
    ∃ escape rest, text = escape ++ rest ∧ IsEscape escape u := by
  unfold unit? at h
  split at h
  case h_2 => cases h
  case h_1 a b c d rest =>
    simp only [Option.bind_eq_bind, Option.bind_eq_some_iff, Option.pure_def, Option.some.injEq,
      Hex.digit?_eq_some_iff] at h
    obtain ⟨x, ⟨hx, ha⟩, y, ⟨hy, hb⟩, z, ⟨hz, hc⟩, w, ⟨hw, hd⟩, rfl⟩ := h
    refine ⟨['%', 'U', a, b, c, d], rest, rfl, by omega, a, b, c, d, rfl, ?_⟩
    have hfirst : (x * 4096 + y * 256 + z * 16 + w) / 4096 = x := by omega
    have hsecond : (x * 4096 + y * 256 + z * 16 + w) / 256 % 16 = y := by omega
    have hthird : (x * 4096 + y * 256 + z * 16 + w) / 16 % 16 = z := by omega
    have hfourth : (x * 4096 + y * 256 + z * 16 + w) % 16 = w := by omega
    rw [hfirst, hsecond, hthird, hfourth]
    exact ⟨ha, hb, hc, hd⟩

/-- A text starts with an escape only by its first six characters, of which only the first is a
percent sign. -/
theorem exists_of_unit?_eq_some {text : List Char} {u : Nat} (h : unit? text = some u) :
    ∃ a b c d rest, text = '%' :: 'U' :: a :: b :: c :: d :: rest ∧
      (a ≠ '%' ∧ b ≠ '%' ∧ c ≠ '%' ∧ d ≠ '%') ∧
      ∀ rest', unit? ('%' :: 'U' :: a :: b :: c :: d :: rest') = some u := by
  obtain ⟨escape, rest, rfl, hescape⟩ := exists_isEscape h
  have hall := unit?_append hescape
  obtain ⟨hu, a, b, c, d, rfl, ha, hb, hc, hd⟩ := hescape
  -- a percent sign is no digit
  have hdigit : ∀ n < 16, ∀ ch, Hex.IsDigit ch n → ch ≠ '%' := by
    rintro n hn ch hch rfl
    exact nomatch (Hex.digit?_eq_some_iff.2 ⟨hn, hch⟩ : Hex.digit? '%' = some n)
  exact ⟨a, b, c, d, rest, rfl, ⟨hdigit _ (by omega) _ ha, hdigit _ (by omega) _ hb,
    hdigit _ (by omega) _ hc, hdigit _ (by omega) _ hd⟩, hall⟩

/-- Escapes consist of ASCII characters, none of them for control. -/
theorem printable_of_mem_ofChar {c x : Char} (h : x ∈ ofChar c) :
    0x20 ≤ x.toNat ∧ x.toNat < 0x80 := by
  obtain ⟨u, hu, hx⟩ := List.mem_flatMap.1 h
  have hlt := units_lt c u hu
  simp only [ofUnit, Hex.toList_upper hlt, List.mem_cons, List.not_mem_nil, or_false] at hx
  rcases hx with rfl | rfl | rfl | rfl | rfl | rfl
  · decide
  · decide
  · exact Hex.upperDigit_printable _ (by omega)
  · exact Hex.upperDigit_printable _ (by omega)
  · exact Hex.upperDigit_printable _ (by omega)
  · exact Hex.upperDigit_printable _ (by omega)

private theorem exists_ofChar_eq_cons (c : Char) : ∃ rest, ofChar c = '%' :: rest := by
  have hunits : ∃ u us, units c = u :: us := by
    rw [units]
    split
    · exact ⟨_, [], rfl⟩
    · exact ⟨_, _, rfl⟩
  obtain ⟨u, us, hus⟩ := hunits
  exact ⟨_, by rw [ofChar, hus, List.flatMap_cons, ofUnit, List.cons_append]⟩

/-- Escapes lengthen the run before them by their code units. -/
theorem unescape_go_escapes {escapes : List (List Char)} {us : List Nat}
    (h : List.Forall₂ IsEscape escapes us) (text : List Char) (run : List Nat) (out : List Char) :
    unescape.go (escapes.flatten ++ text) run out = unescape.go text (us.reverse ++ run) out := by
  induction h generalizing run with
  | nil => rfl
  | @cons escape u escapes us hescape _ ih =>
    have hunit := unit?_append hescape (escapes.flatten ++ text)
    obtain ⟨-, a, b, c, d, rfl, -⟩ := hescape
    rw [List.flatten_cons, List.append_assoc]
    simp only [List.cons_append, List.nil_append] at hunit ⊢
    rw [unescape.go, hunit]
    simp only [List.drop_succ_cons, List.drop_zero]
    rw [ih, List.reverse_cons, List.append_assoc, List.singleton_append]

/-- A character is written as a run of escapes, one of each of its code units. -/
theorem forall₂_isEscape_units (c : Char) :
    List.Forall₂ IsEscape ((units c).map ofUnit) (units c) :=
  List.forall₂_map_left_iff.2 (List.forall₂_same.2 fun u hu => isEscape_ofUnit (units_lt c u hu))

/-! ### Protected texts -/

/-- Whether a character is written as an escape before `rest`: it is not held, or starts what looks
like an escape. -/
def isEscaped (holds : Char → Bool) (c : Char) (rest : List Char) : Bool :=
  c = '%' && (unit? (c :: rest)).isSome || !holds c

/-- A text with escapes for the characters that are not held, and for each percent sign that starts
what looks like an escape. -/
def protect (holds : Char → Bool) : List Char → List Char
  | [] => []
  | c :: rest => (if isEscaped holds c rest then ofChar c else [c]) ++ protect holds rest

variable {holds : Char → Bool}

/-- A character of a protected text that is not a percent sign stands for itself. -/
theorem eq_cons_of_protect_eq_cons {text ys : List Char} {x : Char} (hx : x ≠ '%')
    (h : protect holds text = x :: ys) : ∃ rest, text = x :: rest ∧ protect holds rest = ys := by
  cases text with
  | nil => cases h
  | cons c rest =>
    rw [protect] at h
    split at h
    · obtain ⟨more, hmore⟩ := exists_ofChar_eq_cons c
      rw [hmore] at h
      exact absurd (List.cons.inj h).1.symm hx
    · obtain ⟨rfl, rfl⟩ := List.cons.inj h
      exact ⟨rest, rfl, rfl⟩

/-- What is written behind a percent sign does not make it the start of an escape. -/
theorem unit?_cons_protect {rest : List Char} (h : unit? ('%' :: rest) = none) :
    unit? ('%' :: protect holds rest) = none := by
  cases hunit : unit? ('%' :: protect holds rest) with
  | none => rfl
  | some u =>
    -- of the six characters of an escape all but the first would stand in the text itself
    obtain ⟨a, b, c, d, more, heq, ⟨ha, hb, hc, hd⟩, hall⟩ := exists_of_unit?_eq_some hunit
    obtain ⟨_, rfl, h₁⟩ := eq_cons_of_protect_eq_cons (by decide) (List.cons.inj heq).2
    obtain ⟨_, rfl, h₂⟩ := eq_cons_of_protect_eq_cons ha h₁
    obtain ⟨_, rfl, h₃⟩ := eq_cons_of_protect_eq_cons hb h₂
    obtain ⟨_, rfl, h₄⟩ := eq_cons_of_protect_eq_cons hc h₃
    obtain ⟨_, rfl, -⟩ := eq_cons_of_protect_eq_cons hd h₄
    rw [hall] at h
    cases h

/-- A character that is written as it is starts no escape. -/
theorem unit?_cons_of_not_isEscaped {c : Char} {rest : List Char}
    (h : isEscaped holds c rest = false) : unit? (c :: protect holds rest) = none := by
  by_cases hc : c = '%'
  · subst hc
    refine unit?_cons_protect ?_
    simp only [isEscaped, decide_true, Bool.true_and, Bool.or_eq_false_iff,
      Option.isSome_eq_false_iff, Option.isNone_iff_eq_none] at h
    exact h.1
  · cases hunit : unit? (c :: protect holds rest) with
    | none => rfl
    | some u =>
      obtain ⟨_, _, _, _, _, heq, -⟩ := exists_of_unit?_eq_some hunit
      exact absurd (List.cons.inj heq).1 hc

private theorem unescape_go_protect (text before : List Char) (out : List Char) :
    unescape.go (protect holds text) (before.flatMap units).reverse out =
      out.reverse ++ before ++ text := by
  -- `before` are the characters of the escapes directly before
  induction text generalizing before out with
  | nil => rw [protect, unescape.go, List.reverse_reverse, ofUnits_flatMap_units, List.append_nil]
  | cons c rest ih =>
    rw [protect]
    cases hescaped : isEscaped holds c rest with
    | true =>
      have hrun : (units c).reverse ++ (before.flatMap units).reverse =
          ((before ++ [c]).flatMap units).reverse := by
        rw [List.flatMap_append, List.flatMap_singleton, List.reverse_append]
      rw [if_pos rfl, ofChar, List.flatMap_def,
        unescape_go_escapes (forall₂_isEscape_units c), hrun, ih]
      simp only [List.append_assoc, List.singleton_append]
    | false =>
      rw [if_neg Bool.false_ne_true, List.singleton_append, unescape.go,
        unit?_cons_of_not_isEscaped hescaped]
      have hrest := ih [] (c :: before.reverseAux out)
      rw [List.reverse_reverse, ofUnits_flatMap_units]
      simp only [List.flatMap_nil, List.reverse_nil] at hrest
      rw [hrest, List.reverseAux_eq]
      simp

/-- Reading the escapes of a protected text gives the text. -/
theorem unescape_protect (holds : Char → Bool) (text : List Char) :
    unescape (protect holds text) = text :=
  unescape_go_protect text [] []

-- the percent sign alone starts no escape, though one follows it
example : protect (fun c => c.toNat < 0x80) ['%', 'é'] = ['%', '%', 'U', '0', '0', 'E', '9'] := by
  decide +kernel

end ZipArchive.Escape
