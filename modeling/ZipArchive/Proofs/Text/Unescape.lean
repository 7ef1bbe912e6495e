import ZipArchive.Proofs.Forall2
import ZipArchive.Proofs.Text.Escape

/-!
# Runs of escapes

What reading the escapes of a text makes of it, told by what stands in the text instead of by the
loop that goes through it. `Utf16 us text` says which text code units stand for, and
`Unescaped text out` that `out` is `text` with each run of adjacent escapes, taken as far as it
goes, replaced by the text of its code units. There is always such a text, `exists_unescaped`, and
it is the one that the loop gives: `unescaped_iff`.
-/

namespace ZipArchive.Escape

/-! ### Code units -/

/-- Code units stand for a text: in turn, they are those of one of its characters, or half of a pair
without the other half, which stands for a replacement character. -/
inductive Utf16 : List Nat → List Char → Prop
  | nil : Utf16 [] []
  | char {us : List Nat} {text : List Char} (c : Char) (hrest : Utf16 us text) :
      Utf16 (units c ++ us) (c :: text)
  | high {u : Nat} {us : List Nat} {text : List Char} (hu : isHigh u = true)
      (hlone : ∀ v ∈ us.head?, isLow v = false) (hrest : Utf16 us text) :
      Utf16 (u :: us) ('\uFFFD' :: text)
  | low {u : Nat} {us : List Nat} {text : List Char} (hu : isLow u = true)
      (hrest : Utf16 us text) : Utf16 (u :: us) ('\uFFFD' :: text)

private theorem isHigh_eq_true_iff {u : Nat} : isHigh u = true ↔ 0xD800 ≤ u ∧ u < 0xDC00 := by
  simp [isHigh]

private theorem isLow_eq_true_iff {u : Nat} : isLow u = true ↔ 0xDC00 ≤ u ∧ u < 0xE000 := by
  simp [isLow]

/-- Half of a pair is read as a replacement character if the other half does not follow. -/
theorem ofUnits_cons_of_lone {u : Nat} {us : List Nat} (hu : (isHigh u || isLow u) = true)
    (hlone : ∀ v ∈ us.head?, (isHigh u && isLow v) = false) :
    ofUnits (u :: us) = '\uFFFD' :: ofUnits us := by
  cases us with
  | nil =>
    have hread : ofUnits [u] = [if isHigh u || isLow u then '\uFFFD' else Char.ofNat u] := rfl
    rw [hread, if_pos hu, ofUnits]
  | cons v us =>
    rw [ofUnits, hlone v rfl, if_neg Bool.false_ne_true, if_pos hu]

private theorem ofUnits_eq_of_utf16 {us : List Nat} {text : List Char} (h : Utf16 us text) :
    ofUnits us = text := by
  induction h with
  | nil => rfl
  | char c _ ih => rw [ofUnits_units_append, ih]
  | @high u us text hu hlone _ ih =>
    rw [ofUnits_cons_of_lone (by rw [hu, Bool.true_or]), ih]
    intro v hv
    rw [hlone v hv, Bool.and_false]
  | @low u us text hu _ ih =>
    have hhigh : isHigh u = false := by
      rw [isLow_eq_true_iff] at hu
      simp only [isHigh, Bool.and_eq_false_iff, decide_eq_false_iff_not]
      omega
    rw [ofUnits_cons_of_lone (by rw [hu, Bool.or_true]), ih]
    intro v _
    rw [hhigh, Bool.false_and]

/-- The number of a character is its code point. -/
theorem toNat_ofNat {n : Nat} (h : n < 0xD800 ∨ 0xDFFF < n ∧ n < 0x110000) :
    (Char.ofNat n).toNat = n := by
  rw [Char.ofNat, dif_pos h]
  rfl

/-- A code unit that is not half of a pair is that of a character. -/
theorem units_ofNat {u : Nat} (hu : u < 0x10000) (h : isHigh u = false) (h' : isLow u = false) :
    units (Char.ofNat u) = [u] := by
  have hvalid : u < 0xD800 ∨ 0xDFFF < u ∧ u < 0x110000 := by
    simp only [isHigh, isLow, Bool.and_eq_false_iff, decide_eq_false_iff_not] at h h'
    omega
  rw [units, toNat_ofNat hvalid, if_pos hu]

/-- The two halves of a pair are those of a character. -/
theorem units_ofNat_pair {u v : Nat} (hu : isHigh u = true) (hv : isLow v = true) :
    units (Char.ofNat (0x10000 + (u - 0xD800) * 1024 + (v - 0xDC00))) = [u, v] := by
  rw [isHigh_eq_true_iff] at hu
  rw [isLow_eq_true_iff] at hv
  rw [units, toNat_ofNat (by omega), if_neg (by omega), List.cons.injEq, List.cons.injEq]
  exact ⟨by omega, by omega, rfl⟩

/-- A code unit in front of others that does not make a pair with the next. -/
theorem utf16_cons {u : Nat} {us : List Nat} (hu : u < 0x10000)
    (hpair : ∀ v ∈ us.head?, (isHigh u && isLow v) = false) (hrest : Utf16 us (ofUnits us)) :
    Utf16 (u :: us) (ofUnits (u :: us)) := by
  cases hlow : isLow u with
  | true =>
    rw [ofUnits_cons_of_lone (by rw [hlow, Bool.or_true]) hpair]
    exact .low hlow hrest
  | false =>
    cases hhigh : isHigh u with
    | true =>
      rw [ofUnits_cons_of_lone (by rw [hhigh, Bool.true_or]) hpair]
      refine .high hhigh (fun v hv => ?_) hrest
      have hv' := hpair v hv
      rwa [hhigh, Bool.true_and] at hv'
    | false =>
      have hchar := Utf16.char (Char.ofNat u) hrest
      rwa [units_ofNat hu hhigh hlow, List.singleton_append, ← ofUnits_cons hhigh hlow] at hchar

/-- Code units stand for the text that they are read as. -/
theorem utf16_ofUnits {us : List Nat} (h : ∀ u ∈ us, u < 0x10000) : Utf16 us (ofUnits us) := by
  induction us using ofUnits.induct with
  | case1 => exact .nil
  | case2 u => exact utf16_cons (h u (List.mem_cons_self ..)) (fun v hv => nomatch hv) .nil
  | case3 u v rest hpair ih =>
    rw [Bool.and_eq_true] at hpair
    have hrest := ih fun w hw => h w (List.mem_cons_of_mem _ (List.mem_cons_of_mem _ hw))
    have hchar := Utf16.char (Char.ofNat (0x10000 + (u - 0xD800) * 1024 + (v - 0xDC00))) hrest
    rw [units_ofNat_pair hpair.1 hpair.2] at hchar
    rwa [ofUnits, hpair.1, hpair.2, Bool.and_self, if_pos rfl]
  | case4 u v rest hpair ih =>
    refine utf16_cons (h u (List.mem_cons_self ..)) (fun w hw => ?_)
      (ih fun w hw => h w (List.mem_cons_of_mem _ hw))
    rw [← Option.some.inj hw]
    exact Bool.eq_false_iff.2 hpair

/-! ### Runs -/

/-- A text starts with an escape. -/
def StartsEscape (text : List Char) : Prop :=
  ∃ escape rest u, text = escape ++ rest ∧ IsEscape escape u

private theorem unit?_eq_none_iff {text : List Char} : unit? text = none ↔ ¬StartsEscape text := by
  constructor
  · rintro h ⟨escape, rest, u, rfl, hescape⟩
    rw [unit?_append hescape] at h
    cases h
  · intro h
    cases hunit : unit? text with
    | none => rfl
    | some u =>
      obtain ⟨escape, rest, htext, hescape⟩ := exists_isEscape hunit
      exact absurd ⟨escape, rest, u, htext, hescape⟩ h

/-- Each run of adjacent escapes, as far as it goes, is replaced by the text of its code units, and
every other character stays. -/
inductive Unescaped : List Char → List Char → Prop
  | nil : Unescaped [] []
  | char {c : Char} {rest out : List Char} (hchar : ¬StartsEscape (c :: rest))
      (hrest : Unescaped rest out) : Unescaped (c :: rest) (c :: out)
  | run {escapes : List (List Char)} {us : List Nat} {text rest out : List Char}
      (hne : escapes ≠ []) (hescapes : List.Forall₂ IsEscape escapes us)
      (hend : ¬StartsEscape rest) (htext : Utf16 us text) (hrest : Unescaped rest out) :
      Unescaped (escapes.flatten ++ rest) (text ++ out)

private theorem IsEscape.length_eq {escape : List Char} {u : Nat} (h : IsEscape escape u) :
    escape.length = 6 := by
  obtain ⟨-, a, b, c, d, rfl, -⟩ := h
  rfl

/-- Where no escape starts, the run before is over. -/
theorem unescape_go_of_not_startsEscape {text : List Char} (h : ¬StartsEscape text)
    (run : List Nat) (out : List Char) :
    unescape.go text run out = unescape.go text [] ((ofUnits run.reverse).reverse ++ out) := by
  cases text with
  | nil =>
    rw [unescape.go, unescape.go, List.reverse_append, List.reverse_reverse, List.reverse_nil,
      ofUnits, List.append_nil]
  | cons c rest =>
    rw [unescape.go, unescape.go, unit?_eq_none_iff.2 h]
    simp only [List.reverseAux_eq, List.reverse_nil, ofUnits, List.nil_append]

private theorem unescape_go_of_unescaped {text text' : List Char} (h : Unescaped text text')
    (out : List Char) : unescape.go text [] out = out.reverse ++ text' := by
  induction h generalizing out with
  | nil => rw [unescape.go, List.reverse_nil, ofUnits]
  | @char c rest text' hchar _ ih =>
    rw [unescape.go, unit?_eq_none_iff.2 hchar]
    simp only [List.reverse_nil, ofUnits, List.reverseAux_nil]
    rw [ih, List.reverse_cons, List.append_assoc, List.singleton_append]
  | @run escapes us text rest text' _ hescapes hend htext _ ih =>
    rw [unescape_go_escapes hescapes, List.append_nil, unescape_go_of_not_startsEscape hend, ih,
      List.reverse_reverse, ofUnits_eq_of_utf16 htext, List.reverse_append, List.reverse_reverse,
      List.append_assoc]

/-- A text begins with a run of escapes, be it none, that goes as far as it can. -/
theorem exists_run (text : List Char) :
    ∃ escapes us rest, text = escapes.flatten ++ rest ∧ List.Forall₂ IsEscape escapes us ∧
      ¬StartsEscape rest := by
  -- by induction on the number of characters, of which each escape takes six
  induction hlength : text.length using Nat.strongRecOn generalizing text with
  | ind n ih =>
    by_cases hstart : StartsEscape text
    · obtain ⟨escape, behind, u, rfl, hescape⟩ := hstart
      have hshorter : behind.length < n := by
        rw [← hlength, List.length_append, hescape.length_eq]
        omega
      obtain ⟨escapes, us, rest, rfl, hescapes, hend⟩ := ih _ hshorter behind rfl
      exact ⟨escape :: escapes, u :: us, rest, by rw [List.flatten_cons, List.append_assoc],
        .cons hescape hescapes, hend⟩
    · exact ⟨[], [], text, rfl, .nil, hstart⟩

private theorem exists_unescaped (text : List Char) : ∃ out, Unescaped text out := by
  induction hlength : text.length using Nat.strongRecOn generalizing text with
  | ind n ih =>
    obtain ⟨escapes, us, rest, rfl, hescapes, hend⟩ := exists_run text
    cases hescapes with
    | nil =>
      cases rest with
      | nil => exact ⟨[], .nil⟩
      | cons c rest =>
        obtain ⟨out, hout⟩ := ih rest.length (by rw [← hlength]; exact Nat.lt_succ_self _) rest rfl
        exact ⟨c :: out, .char hend hout⟩
    | @cons escape u escapes us hescape hescapes =>
      have hshorter : rest.length < n := by
        rw [← hlength, List.flatten_cons, List.length_append, List.length_append, hescape.length_eq]
        omega
      have hlt : ∀ v ∈ u :: us, v < 0x10000 := by
        intro v hv
        obtain ⟨_, -, hv⟩ := exists_of_mem_forall₂ (.cons hescape hescapes) hv
        exact hv.1
      obtain ⟨out, hout⟩ := ih _ hshorter rest rfl
      exact ⟨_, .run (List.cons_ne_nil _ _) (.cons hescape hescapes) hend (utf16_ofUnits hlt) hout⟩

/-- Reading the escapes of a text replaces its runs of them, and does nothing else. -/
theorem unescaped_iff {text out : List Char} : Unescaped text out ↔ unescape text = out := by
  have hunique : ∀ {out'}, Unescaped text out' → unescape text = out' := fun h =>
    unescape_go_of_unescaped h []
  refine ⟨hunique, fun h => ?_⟩
  obtain ⟨out', hout⟩ := exists_unescaped text
  rwa [← h, hunique hout]

-- a small `u` starts no escape, and the run has a pair between halves that make none
example : unescape "%uD83D%Ude00%Ud83D%UD83D%UDE00%UDE00%U00e9%U".toList =
    "%uD83D\uFFFD\uFFFD😀\uFFFDé%U".toList := by
  decide +kernel

end ZipArchive.Escape
