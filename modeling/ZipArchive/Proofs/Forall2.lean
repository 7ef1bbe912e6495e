import Mathlib.Data.List.Forall2

/-!
# Lists in step

Two lists are in step if their elements are related pair by pair, `List.Forall₂`. What holds of each
pair holds along the lists: equal values are equal lists of values, `map_eq_of_forall₂`, and lists
that are in step with a third one are in step with each other, `forall₂_comp`.
-/

namespace ZipArchive

variable {α β γ : Type} {R : α → β → Prop} {as : List α} {bs : List β}

theorem map_eq_of_forall₂ {p : α → γ} {q : β → γ} (h : List.Forall₂ (fun a b => q b = p a) as bs) :
    bs.map q = as.map p := by
  induction h with
  | nil => rfl
  | cons hab _ ih => rw [List.map_cons, List.map_cons, hab, ih]

theorem forall₂_comp {S : β → γ → Prop} {T : α → γ → Prop}
    (hcomp : ∀ a b c, R a b → S b c → T a c) {cs : List γ}
    (hR : List.Forall₂ R as bs) (hS : List.Forall₂ S bs cs) : List.Forall₂ T as cs := by
  induction hR generalizing cs with
  | nil =>
    cases hS
    exact .nil
  | cons hab _ ih =>
    obtain ⟨c, cs, hbc, hbcs, rfl⟩ := List.forall₂_cons_left_iff.1 hS
    exact .cons (hcomp _ _ _ hab hbc) (ih hbcs)

theorem exists_of_mem_forall₂ (h : List.Forall₂ R as bs) {b : β} (hb : b ∈ bs) :
    ∃ a ∈ as, R a b := by
  induction h with
  | nil => cases hb
  | @cons a _ as _ hab _ ih =>
    rcases List.mem_cons.1 hb with rfl | hb
    · exact ⟨a, List.mem_cons_self .., hab⟩
    · obtain ⟨a, ha, hab⟩ := ih hb
      exact ⟨a, List.mem_cons_of_mem _ ha, hab⟩

theorem exists_of_forall₂_append {more : List α} (h : List.Forall₂ R (as ++ more) bs) :
    ∃ front back, bs = front ++ back ∧ List.Forall₂ R as front ∧ List.Forall₂ R more back := by
  induction as generalizing bs with
  | nil => exact ⟨[], bs, rfl, .nil, h⟩
  | cons a as ih =>
    obtain ⟨b, bs, hab, hrest, rfl⟩ := List.forall₂_cons_left_iff.1 h
    obtain ⟨front, back, rfl, hfront, hback⟩ := ih hrest
    exact ⟨b :: front, back, rfl, .cons hab hfront, hback⟩

end ZipArchive
