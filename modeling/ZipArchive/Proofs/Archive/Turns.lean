import ZipArchive.Archive.Writer
import ZipArchive.Proofs.Overwrite
import ZipArchive.Proofs.Sink.Lawful

/-!
# What steps of a writer leave in a lawful sink

`Writing.Turns m start before after r` says what the steps `m` do on any lawful sink: run where the
bytes `before` were the last appended, from position `start` on, they leave `after` in their place
and come to `r`. Nothing is said of bytes appended earlier, which stay as they are. There is one
rule for each way to put steps together, and `Turns.shift` puts steps that only append behind any
other bytes.
-/

namespace ZipArchive.Writing

variable {τ α β : Type}

/-- Runs steps on a sink. -/
def outcome (m : Writing τ α) (s : τ) : Outcome τ α :=
  StateT.run (ExceptT.run m) s

theorem outcome_bind_ok {m : Writing τ α} {f : α → Writing τ β} {s t : τ} {a : α}
    (h : m.outcome s = (.ok a, t)) : (m >>= f).outcome s = (f a).outcome t := by
  simp only [outcome] at h ⊢
  rw [ExceptT.run_bind, StateT.run_bind, h]
  rfl

theorem outcome_bind_error {m : Writing τ α} {f : α → Writing τ β} {s t : τ} {e : Fault}
    (h : m.outcome s = (.error e, t)) : (m >>= f).outcome s = (.error e, t) := by
  simp only [outcome] at h ⊢
  rw [ExceptT.run_bind, StateT.run_bind, h]
  rfl

/-- Steps put together come to a result when both do. -/
theorem outcome_bind_eq_ok_iff {m : Writing τ α} {f : α → Writing τ β} {s u : τ} {b : β} :
    (m >>= f).outcome s = (.ok b, u) ↔
      ∃ a t, m.outcome s = (.ok a, t) ∧ (f a).outcome t = (.ok b, u) := by
  constructor
  · intro h
    rcases hm : m.outcome s with ⟨e | a, t⟩
    · rw [outcome_bind_error hm] at h
      cases h
    · rw [outcome_bind_ok hm] at h
      exact ⟨a, t, rfl, h⟩
  · rintro ⟨a, t, hm, hf⟩
    rw [outcome_bind_ok hm, hf]

/-- What may fail without touching the sink leaves it to the steps behind. -/
theorem outcome_lift_bind_eq_ok_iff {x : Except Fault α} {f : α → Writing τ β} {s u : τ} {b : β} :
    (liftM x >>= f : Writing τ β).outcome s = (.ok b, u) ↔
      ∃ a, x = .ok a ∧ (f a).outcome s = (.ok b, u) := by
  rw [outcome_bind_eq_ok_iff]
  constructor
  · rintro ⟨a, t, hx, hf⟩
    obtain rfl : s = t := congrArg Prod.snd hx
    exact ⟨a, congrArg Prod.fst hx, hf⟩
  · rintro ⟨a, rfl, hf⟩
    exact ⟨a, s, rfl, hf⟩

theorem discard_eq_bind (m : Writing τ α) :
    (discard m : Writing τ Unit) = m >>= fun _ => pure () := by
  rw [bind_pure_comp]
  rfl

theorem outcome_discard_eq_ok_iff {m : Writing τ α} {s t : τ} :
    (discard m : Writing τ Unit).outcome s = (.ok (), t) ↔ ∃ a, m.outcome s = (.ok a, t) := by
  rw [discard_eq_bind, outcome_bind_eq_ok_iff]
  constructor
  · rintro ⟨a, u, hm, hpure⟩
    obtain rfl : u = t := congrArg Prod.snd hpure
    exact ⟨a, hm⟩
  · rintro ⟨a, hm⟩
    exact ⟨a, t, hm, rfl⟩

variable [Sink τ] [LawfulSink τ]

/-- Run where `before` was appended last, from position `start` on, the steps leave `after` in its
place and come to `r`. -/
def Turns (m : Writing τ α) (start : Nat) (before after : Bytes) (r : Except Fault α) : Prop :=
  ∀ (s : τ) (base : Nat) (bs : Bytes), LawfulSink.Holds s base (bs ++ before) →
    base + bs.length = start →
    ∃ t, m.outcome s = (r, t) ∧ LawfulSink.Holds t base (bs ++ after)

namespace Turns

variable {start : Nat} {before between after : Bytes} {r : Except Fault β} {a : α} {e : Fault}

theorem bind {m : Writing τ α} {f : α → Writing τ β} (h : m.Turns start before between (.ok a))
    (h' : (f a).Turns start between after r) : (m >>= f).Turns start before after r := by
  intro s base bs hs hstart
  obtain ⟨t, ht, hholds⟩ := h s base bs hs hstart
  obtain ⟨u, hu, hholds'⟩ := h' t base bs hholds hstart
  exact ⟨u, by rw [outcome_bind_ok ht, hu], hholds'⟩

/-- A fault ends the steps. -/
theorem bind_error {m : Writing τ α} {f : α → Writing τ β}
    (h : m.Turns start before after (.error e)) :
    (m >>= f).Turns start before after (.error e) := by
  intro s base bs hs hstart
  obtain ⟨t, ht, hholds⟩ := h s base bs hs hstart
  exact ⟨t, outcome_bind_error ht, hholds⟩

theorem pure (a : α) (start : Nat) (bs : Bytes) :
    (Pure.pure a : Writing τ α).Turns start bs bs (.ok a) :=
  fun s _ _ hs _ => ⟨s, rfl, hs⟩

/-- What may fail without touching the sink. -/
theorem lift (x : Except Fault α) (start : Nat) (bs : Bytes) :
    (liftM x : Writing τ α).Turns start bs bs x :=
  fun s _ _ hs _ => ⟨s, rfl, hs⟩

theorem append (data : Bytes) (start : Nat) (bs : Bytes) :
    (Writing.append data : Writing τ Nat).Turns start bs (bs ++ data)
      (.ok (start + bs.length)) := by
  intro s base bs' hs hstart
  obtain ⟨t, ht, hholds⟩ := LawfulSink.append_eq data hs
  refine ⟨t, ?_, by rwa [List.append_assoc] at hholds⟩
  rw [List.length_append, ← Nat.add_assoc, hstart] at ht
  exact ht

theorem discard {m : Writing τ α} (h : m.Turns start before after (.ok a)) :
    (Functor.discard m).Turns start before after (.ok ()) := by
  intro s base bs hs hstart
  obtain ⟨t, ht, hholds⟩ := h s base bs hs hstart
  refine ⟨t, ?_, hholds⟩
  rw [discard_eq_bind, outcome_bind_ok ht]
  rfl

theorem position (start : Nat) (bs : Bytes) :
    (Writing.position : Writing τ Nat).Turns start bs bs (.ok (start + bs.length)) := by
  intro s base bs' hs hstart
  refine ⟨s, ?_, hs⟩
  have hpos := LawfulSink.position_eq hs
  rw [List.length_append, ← Nat.add_assoc, hstart] at hpos
  rw [← hpos]
  rfl

/-- A patch replaces as many bytes of those that were appended. -/
theorem patch {position : Nat} {new : Bytes} (front old back : Bytes)
    (hposition : position = start + front.length) (hbefore : before = front ++ old ++ back)
    (hafter : after = front ++ new ++ back) (hlen : new.length = old.length) :
    (Writing.patch position new : Writing τ Unit).Turns start before after (.ok ()) := by
  subst hposition hbefore hafter
  intro s base bs hs hstart
  subst hstart
  simp only [List.append_assoc] at hs
  rw [← List.append_assoc, ← List.append_assoc] at hs
  obtain ⟨t, ht, hholds⟩ := LawfulSink.patch_eq hs hlen
  refine ⟨t, ?_, by simpa only [List.append_assoc] using hholds⟩
  rw [List.length_append, ← Nat.add_assoc] at ht
  exact ht

theorem forM_nil {γ : Type} (f : γ → Writing τ Unit) (start : Nat) (bs : Bytes) :
    (([] : List γ).forM f).Turns start bs bs (.ok ()) :=
  pure () start bs

theorem forM_cons {γ : Type} {f : γ → Writing τ Unit} {x : γ} {xs : List γ}
    (h : (f x).Turns start before between (.ok ()))
    (h' : (xs.forM f).Turns start between after (.ok ())) :
    ((x :: xs).forM f).Turns start before after (.ok ()) :=
  h.bind (f := fun _ => xs.forM f) h'

/-- Patches write over the first of the bytes that were appended. -/
theorem patchAll {front after : Bytes} {filling : List (Nat × Bytes)} (start : Nat) (back : Bytes)
    (h : front.overwriteAll filling = .ok after) :
    ((filling.map fun p => (start + p.1, p.2)).forM fun (position, bs) =>
      Writing.patch position bs : Writing τ Unit).Turns start (front ++ back) (after ++ back)
      (.ok ()) := by
  induction filling generalizing front with
  | nil =>
    obtain rfl := Except.ok.inj h
    exact forM_nil _ _ _
  | cons p filling ih =>
    obtain ⟨mid, hp, hrest⟩ := Bytes.overwriteAll_cons_eq_ok_iff.1 h
    obtain ⟨before, old, behind, rfl, hoffset, hlen, rfl⟩ := Bytes.exists_append_of_overwrite hp
    have hpatch := patch (τ := τ) before old (behind ++ back)
      (congrArg (start + ·) hoffset.symm) rfl rfl hlen
    simp only [← List.append_assoc] at hpatch
    exact forM_cons hpatch (ih hrest)

/-- Steps that only append do so behind any bytes. -/
theorem shift {m : Writing τ β} {out : Bytes} (h : m.Turns (start + before.length) [] out r) :
    m.Turns start before (before ++ out) r := by
  intro s base bs hs hstart
  subst hstart
  obtain ⟨t, ht, hholds⟩ := h s base (bs ++ before) (by simpa using hs)
    (by rw [List.length_append, Nat.add_assoc])
  exact ⟨t, ht, by simpa only [List.append_assoc] using hholds⟩

/-- Steps run on a sink that holds `bs`. -/
theorem run {m : Writing τ β} {s : τ} {base : Nat} {bs out : Bytes}
    (h : m.Turns (base + bs.length) [] out r) (hs : LawfulSink.Holds s base bs) :
    ∃ t, m.outcome s = (r, t) ∧ LawfulSink.Holds t base (bs ++ out) :=
  h s base bs (by simpa using hs) rfl

end Turns

end ZipArchive.Writing
