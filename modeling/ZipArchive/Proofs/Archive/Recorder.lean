import ZipArchive.Proofs.Archive.Turns
import ZipArchive.Proofs.Sink.Calls

/-!
# What steps of a writer ask of a sink

A `Recorder` passes every call on to a sink and keeps a record of it with its answer.
`Writing.Records` says what steps note when they come to a result: on the recorder of any sink they
do the same as on the sink itself. There is one rule for each way to put steps together, as for
`Writing.Turns`.
-/

namespace ZipArchive

/-- A sink with a record of the calls made on it and of their answers, the first call first. -/
structure Recorder (τ : Type) where
  /-- The sink. -/
  sink : τ
  /-- The calls made on it. -/
  record : List (Sink.Call × Sink.Answer) := []

namespace Recorder

variable {τ : Type}

/-- The recorder behind a call: what the call comes to, the sink that it leaves, and a note. -/
def noted {α : Type} (r : Recorder τ) (call : Sink.Call) (answer : α → Option Nat)
    (o : Outcome τ α) : Outcome (Recorder τ) α :=
  (o.1, { sink := o.2, record := r.record ++ [(call, answer <$> o.1)] })

instance [Sink τ] : Sink (Recorder τ) where
  position r := Sink.position r.sink
  append r data := r.noted (.append data) some (Sink.append r.sink data)
  patch r position data :=
    r.noted (.patch position data) (fun _ => none) (Sink.patch r.sink position data)
  flush r := r.noted .flush (fun _ => none) (Sink.flush r.sink)

end Recorder

namespace Writing

variable {τ α β : Type} {s t u : τ} {a : α} {b : β}
  {calls calls' : List (Sink.Call × Sink.Answer)}

/-- Started on the recorder of `s`, the steps come to `a` and leave the recorder of `t`, and have
noted `calls` behind the calls made before. -/
def Records (m : Writing (Recorder τ) α) (s : τ) (a : α) (t : τ)
    (calls : List (Sink.Call × Sink.Answer)) : Prop :=
  ∀ record, m.outcome ⟨s, record⟩ = (.ok a, ⟨t, record ++ calls⟩)

namespace Records

theorem bind {m : Writing (Recorder τ) α} {f : α → Writing (Recorder τ) β}
    (h : m.Records s a t calls) (h' : (f a).Records t b u calls') :
    (m >>= f).Records s b u (calls ++ calls') := by
  intro record
  rw [outcome_bind_ok (h record), h', List.append_assoc]

private theorem pure (a : α) (s : τ) : (Pure.pure a : Writing (Recorder τ) α).Records s a s [] := by
  intro record
  rw [List.append_nil]
  rfl

/-- What does not touch the sink is not noted. -/
theorem lift {x : Except Fault α} (h : x = .ok a) (s : τ) :
    (liftM x : Writing (Recorder τ) α).Records s a s [] := by
  subst h
  exact pure a s

private theorem discard {m : Writing (Recorder τ) α} (h : m.Records s a t calls) :
    (Functor.discard m).Records s () t calls := by
  have hbind := h.bind (f := fun _ => Pure.pure ()) (pure () t)
  rwa [← discard_eq_bind, List.append_nil] at hbind

variable [Sink τ]

theorem append {data : Bytes} {start : Nat} (h : Sink.append s data = (.ok start, t)) :
    (Writing.append data : Writing (Recorder τ) Nat).Records s start t
      [(.append data, .ok (some start))] := by
  intro record
  show Recorder.noted ⟨s, record⟩ (.append data) some (Sink.append s data) = _
  rw [h]
  rfl

private theorem patch {position : Nat} {data : Bytes}
    (h : Sink.patch s position data = (.ok (), t)) :
    (Writing.patch position data : Writing (Recorder τ) Unit).Records s () t
      [(.patch position data, .ok none)] := by
  intro record
  show Recorder.noted ⟨s, record⟩ (.patch position data) _ (Sink.patch s position data) = _
  rw [h]
  rfl

/-- Pieces of data are appended one after the other, and nothing else is done. -/
theorem exists_appendAll {pieces : List Bytes}
    (h : (pieces.forM fun piece => Functor.discard (Writing.append piece) :
      Writing τ Unit).outcome s = (.ok (), t)) :
    ∃ calls, (pieces.forM fun piece => Functor.discard (Writing.append piece) :
        Writing (Recorder τ) Unit).Records s () t calls ∧
      ∀ c ∈ calls, ∃ piece ∈ pieces, ∃ position, c = (.append piece, .ok (some position)) := by
  induction pieces generalizing s with
  | nil =>
    obtain rfl : s = t := congrArg Prod.snd h
    exact ⟨[], pure () s, by simp⟩
  | cons piece pieces ih =>
    obtain ⟨⟨⟩, u, hpiece, hpieces⟩ := outcome_bind_eq_ok_iff.1 h
    obtain ⟨position, happend⟩ := outcome_discard_eq_ok_iff.1 hpiece
    obtain ⟨calls, hcalls, hall⟩ := ih hpieces
    refine ⟨_, (append happend).discard.bind
      (f := fun _ => pieces.forM fun piece => Functor.discard (Writing.append piece)) hcalls, ?_⟩
    rintro c (_ | ⟨_, hc⟩)
    · exact ⟨piece, List.mem_cons_self .., position, rfl⟩
    · obtain ⟨piece', hmem, hc⟩ := hall c hc
      exact ⟨piece', List.mem_cons_of_mem _ hmem, hc⟩

/-- Patches are made one after the other. -/
theorem patchAll {ps : List (Nat × Bytes)}
    (h : (ps.forM fun (position, bs) => Writing.patch position bs : Writing τ Unit).outcome s =
      (.ok (), t)) :
    (ps.forM fun (position, bs) => Writing.patch position bs :
      Writing (Recorder τ) Unit).Records s () t (ps.map fun p => (.patch p.1 p.2, .ok none)) := by
  induction ps generalizing s with
  | nil =>
    obtain rfl : s = t := congrArg Prod.snd h
    exact pure () s
  | cons p ps ih =>
    obtain ⟨⟨⟩, u, hp, hps⟩ := outcome_bind_eq_ok_iff.1 h
    exact (patch hp).bind
      (f := fun _ => ps.forM fun (position, bs) => Writing.patch position bs) (ih hps)

end Records

end Writing

end ZipArchive
