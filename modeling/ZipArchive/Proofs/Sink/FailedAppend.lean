import ZipArchive.Proofs.Sink.FixedSize

/-!
# Appends that fail

An append for which a file of fixed size has no room leaves the position of the sink and the bytes
appended as they were. But it leaves the cursor at the end of the file, behind the bytes that it
stored, and not where the next append is to go. So a sink after a failed append is the sink before
with no room left, `FixedSink.spent`. That shows in a call that would have moved the cursor: an
append of any bytes fails from then on, even if there would have been room for them. A patch in
range puts the cursor back, and after it nothing is left of the failed append. What comes before
either of them makes no difference. So the calls after a failed append are answered as if it had
not been made just if the first of them that moves the cursor is no append for which there was room:
`FixedSink.calls_spent_iff`, and for a file `SeekableSink.calls_eraseIdx_iff`.
-/

namespace ZipArchive

/-! ### Calls one after the other -/

namespace Sink

variable {σ : Type} [Sink σ]

private theorem calls_append (s : σ) (cs ds : List Call) :
    calls s (cs ++ ds) =
      ((calls s cs).1 ++ (calls (calls s cs).2 ds).1, (calls (calls s cs).2 ds).2) := by
  induction cs generalizing s with
  | nil => rfl
  | cons c cs ih =>
    rw [List.cons_append, calls, calls, ih]
    rfl

/-- Every call is answered. -/
theorem length_calls (s : σ) (cs : List Call) : (calls s cs).1.length = cs.length := by
  induction cs generalizing s with
  | nil => rfl
  | cons c cs ih => rw [calls, List.length_cons, List.length_cons, ih]

/-- The answers to all calls but one are those without it just if the calls behind it are answered
as without it. -/
theorem calls_eraseIdx_eq_iff {s between : σ} {before : List Call}
    (hbetween : (calls s before).2 = between) (c : Call) (after : List Call) :
    (calls s (before ++ c :: after)).1.eraseIdx before.length = (calls s (before ++ after)).1 ↔
      (calls (call between c).2 after).1 = (calls between after).1 := by
  rw [calls_append, calls_append, hbetween,
    List.eraseIdx_append_of_length_le (Nat.le_of_eq (length_calls ..)), length_calls, Nat.sub_self,
    calls, List.eraseIdx_cons_zero]
  exact List.append_right_inj _

/-- Whether the call moves the cursor of a sink to which `limit` bytes were appended: an append of
any bytes does, and a patch of bytes before the limit. -/
def Call.settles (limit : Nat) : Call → Bool
  | append data => !data.isEmpty
  | patch position data => position + data.length ≤ limit
  | flush => false

end Sink

open Sink (Call)

/-! ### A sink with no room left -/

namespace FixedSink

variable {v : FixedSink} {data : Bytes} {position : Nat} {c : Call}

/-- The sink with the cursor at the end of the file. -/
def spent (v : FixedSink) : FixedSink := { v with room := 0 }

/-- A call that does not move the cursor is answered whatever room there is, and changes nothing. -/
theorem exists_call_eq (hc : c.settles v.bytes.length = false) :
    ∃ answer, Sink.call v c = (answer, v) ∧ Sink.call v.spent c = (answer, v.spent) := by
  cases c with
  | append data =>
    obtain rfl : data = [] := by simpa [Call.settles] using hc
    have happend : ∀ w : FixedSink, w.append [] = (.ok w.bytes.length, w) := by
      intro w
      rw [append_of_le (Nat.zero_le _), List.append_nil]
      rfl
    refine ⟨.ok (some v.bytes.length), ?_, ?_⟩
    · exact congrArg (fun o => (some <$> o.1, o.2)) (happend v)
    · exact congrArg (fun o => (some <$> o.1, o.2)) (happend v.spent)
  | patch position data =>
    have hexceeds : v.bytes.length < position + data.length := by simpa [Call.settles] using hc
    refine ⟨.error (.outOfBounds position data.length v.bytes.length), ?_, ?_⟩
    · exact congrArg (fun o => ((fun _ => none) <$> o.1, o.2)) (patch_of_lt hexceeds)
    · exact congrArg (fun o => ((fun _ => none) <$> o.1, o.2)) (patch_of_lt (v := v.spent) hexceeds)
  | flush => exact ⟨.ok none, rfl, rfl⟩

/-- A patch in range puts the cursor back. -/
theorem call_patch_spent (h : position + data.length ≤ v.bytes.length) :
    Sink.call v.spent (.patch position data) = Sink.call v (.patch position data) := by
  have hpatch : v.spent.patch position data = v.patch position data := by
    rw [patch_of_le h, patch_of_le (v := v.spent) h]
    rfl
  exact congrArg (fun o => ((fun _ => none) <$> o.1, o.2)) hpatch

/-- An append for which there was no room fails either way. -/
theorem call_append_spent (h : v.room < data.length) :
    Sink.call v.spent (.append data) = Sink.call v (.append data) := by
  have happend : v.spent.append data = v.append data := by
    rw [append_of_lt h, append_of_lt (v := v.spent) (Nat.zero_lt_of_lt h)]
    rfl
  exact congrArg (fun o => (some <$> o.1, o.2)) happend

/-- An append for which there was room fails when there is none left. -/
theorem call_append_spent_ne (hdata : data ≠ []) (h : data.length ≤ v.room) :
    (Sink.call v.spent (.append data)).1 ≠ (Sink.call v (.append data)).1 := by
  have hspent : v.spent.append data = (.error .truncatedWrite, v.spent) :=
    append_of_lt (v := v.spent) (List.length_pos_iff.2 hdata)
  intro hsame
  have hresults : (some <$> (v.spent.append data).1 : Sink.Answer) = some <$> (v.append data).1 :=
    hsame
  rw [hspent, append_of_le h] at hresults
  cases hresults

/-- The calls after a failed append are answered as without it just if the first of them that moves
the cursor is no append for which there was room. -/
theorem calls_spent_iff (v : FixedSink) (after : List Call) :
    ((Sink.calls v.spent after).1 = (Sink.calls v after).1 ∧
        (Sink.calls v.spent after).2.bytes = (Sink.calls v after).2.bytes) ↔
      ∀ next, after.find? (Call.settles v.bytes.length) = some (.append next) →
        v.room < next.length := by
  induction after with
  | nil => simp [Sink.calls, spent]
  | cons c after ih =>
    cases hc : c.settles v.bytes.length with
    | false =>
      -- the call changes neither sink, so that it is up to the calls behind it
      obtain ⟨answer, hcall, hspent⟩ := exists_call_eq hc
      rw [List.find?_cons_of_neg (by simp [hc]), ← ih]
      simp only [Sink.calls, hcall, hspent, List.cons.injEq, true_and]
    | true =>
      rw [List.find?_cons_of_pos hc]
      have hsame : Sink.call v.spent c = Sink.call v c →
          (Sink.calls v.spent (c :: after)).1 = (Sink.calls v (c :: after)).1 ∧
            (Sink.calls v.spent (c :: after)).2.bytes = (Sink.calls v (c :: after)).2.bytes := by
        intro h
        simp only [Sink.calls, h, and_self]
      cases c with
      | append data =>
        by_cases hexceeds : v.room < data.length
        · refine iff_of_true (hsame (call_append_spent hexceeds)) ?_
          rintro next ⟨⟩
          exact hexceeds
        · have hdata : data ≠ [] := by simpa [Call.settles] using hc
          refine iff_of_false (fun h => ?_) fun h => hexceeds (h data rfl)
          exact call_append_spent_ne hdata (Nat.not_lt.1 hexceeds) (List.cons.inj h.1).1
      | patch position data =>
        refine iff_of_true (hsame (call_patch_spent (of_decide_eq_true hc))) ?_
        rintro next ⟨⟩
      | flush => cases hc

end FixedSink

/-! ### Files -/

namespace SeekableSink

/-- The bytes appended, as they stand in the file. -/
def appended (s : SeekableSink) : Bytes :=
  (s.file.bytes.drop s.origin).take s.position

/-- The number of bytes of the file behind the cursor. -/
def room (s : SeekableSink) : Nat :=
  s.file.contents.size - s.file.cursor

private theorem Shadows.appended_eq {s : SeekableSink} {v : FixedSink} (h : Shadows s v) :
    s.appended = v.bytes := by
  rw [appended, h.position_eq]
  exact h.stands

/-- Calls to two sinks come to the same just if they do for what the sinks amount to. -/
theorem Shadows.calls_agree_iff {s t : SeekableSink} {v w : FixedSink} (hs : Shadows s v)
    (ht : Shadows t w) (cs : List Call) :
    ((Sink.calls s cs).1 = (Sink.calls t cs).1 ∧
        (Sink.calls s cs).2.position = (Sink.calls t cs).2.position ∧
        (Sink.calls s cs).2.appended = (Sink.calls t cs).2.appended) ↔
      (Sink.calls v cs).1 = (Sink.calls w cs).1 ∧
        (Sink.calls v cs).2.bytes = (Sink.calls w cs).2.bytes := by
  obtain ⟨hanswers, hend⟩ := hs.calls cs
  obtain ⟨hanswers', hend'⟩ := ht.calls cs
  rw [hanswers, hanswers', hend.position_eq, hend'.position_eq, hend.appended_eq,
    hend'.appended_eq]
  constructor
  · rintro ⟨hsame, -, hbytes⟩
    exact ⟨hsame, hbytes⟩
  · rintro ⟨hsame, hbytes⟩
    exact ⟨hsame, congrArg List.length hbytes, hbytes⟩

/-- An append that fails on a file of fixed size, after any calls, leaves the position and the bytes
appended as they were. All other calls are answered as if it had not been made, and lead to the same
position and the same bytes, just if the first call after it that moves the cursor is no append for
which there was room. -/
theorem calls_eraseIdx_iff {contents : Array UInt8} {cursor : Nat} {before : List Call}
    {data : Bytes} {s : SeekableSink} {e : Fault}
    (hs : (Sink.calls (ofFile { contents, cursor, growable := false }) before).2 = s)
    (hfail : (s.append data).1 = .error e) (after : List Call) :
    let all := Sink.calls (ofFile { contents, cursor, growable := false })
      (before ++ .append data :: after)
    let others := Sink.calls (ofFile { contents, cursor, growable := false }) (before ++ after)
    ((s.append data).2.position = s.position ∧ (s.append data).2.appended = s.appended) ∧
    ((all.1.eraseIdx before.length = others.1 ∧ all.2.position = others.2.position ∧
        all.2.appended = others.2.appended) ↔
      ∀ next, after.find? (Call.settles s.position) = some (.append next) →
        s.room < next.length) := by
  intro all others
  obtain ⟨v, hbefore⟩ : ∃ v, Shadows s v :=
    ⟨_, hs ▸ ((shadows_ofFile contents cursor).calls before).2⟩
  have hexceeds : v.room < data.length := by
    refine Nat.not_le.1 fun hfits => ?_
    rw [(hbefore.append_of_le hfits).1, FixedSink.append_of_le hfits] at hfail
    cases hfail
  have hspent : Shadows (s.append data).2 v.spent := by
    have hnext := (hbefore.append_of_lt hexceeds).2
    rwa [FixedSink.append_of_lt hexceeds] at hnext
  refine ⟨⟨hspent.position_eq.trans hbefore.position_eq.symm,
    hspent.appended_eq.trans hbefore.appended_eq.symm⟩, ?_⟩
  -- the calls before the failed append lead to the same sink, so that it is up to those after it
  have hall : all.2 = (Sink.calls (s.append data).2 after).2 := by
    simp only [all, Sink.calls_append, hs]
    rfl
  have hothers : others.2 = (Sink.calls s after).2 := by
    simp only [others, Sink.calls_append, hs]
  have hroom : s.room = v.room := hbefore.room_eq
  rw [Sink.calls_eraseIdx_eq_iff hs, hall, hothers, hroom, hbefore.position_eq,
    ← FixedSink.calls_spent_iff]
  exact hspent.calls_agree_iff hbefore after

/-- A sink over a file of four bytes. -/
def sampleSink : SeekableSink :=
  ofFile { contents := #[0, 0, 0, 0], cursor := 0, growable := false }

/-- Three bytes are appended, and then two for which there is no room. After a patch it does not
matter that they were. -/
theorem calls_eraseIdx_iff_samplePatched :
    let all := Sink.calls sampleSink [.append [1, 2, 3], .append [4, 5], .patch 0 [9], .append [6]]
    let others := Sink.calls sampleSink [.append [1, 2, 3], .patch 0 [9], .append [6]]
    all.1.eraseIdx 1 = others.1 ∧ all.2.position = others.2.position ∧
      all.2.appended = others.2.appended ∧
      others.1 = [.ok (some 0), .ok none, .ok (some 3)] ∧ others.2.appended = [9, 2, 3, 6] := by
  have hs : (Sink.calls sampleSink [.append [1, 2, 3]]).2 =
      (Sink.calls sampleSink [.append [1, 2, 3]]).2 := rfl
  have hfail : ((Sink.calls sampleSink [.append [1, 2, 3]]).2.append [4, 5]).1 =
      .error .truncatedWrite := by decide +kernel
  obtain ⟨-, hiff⟩ := calls_eraseIdx_iff hs hfail [.patch 0 [9], .append [6]]
  have hfirst : [Call.patch 0 [9], .append [6]].find?
      (Call.settles (Sink.calls sampleSink [.append [1, 2, 3]]).2.position) =
        some (.patch 0 [9]) := by decide +kernel
  obtain ⟨hanswers, hposition, hbytes⟩ := hiff.2 fun next hnext => by
    rw [hfirst] at hnext
    cases hnext
  exact ⟨hanswers, hposition, hbytes, by decide +kernel, by decide +kernel⟩

/-- Without a patch the next byte cannot be appended, though there is room for it. -/
theorem calls_sampleFull :
    (Sink.calls sampleSink [.append [1, 2, 3], .append [4, 5], .append [6]]).1 =
        [.ok (some 0), .error .truncatedWrite, .error .truncatedWrite] ∧
      (Sink.calls sampleSink [.append [1, 2, 3], .append [6]]).1 = [.ok (some 0), .ok (some 3)] ∧
      (Sink.calls sampleSink [.append [1, 2, 3], .append [4, 5], .append [6]]).2.appended =
        [1, 2, 3] ∧
      (Sink.calls sampleSink [.append [1, 2, 3], .append [6]]).2.appended = [1, 2, 3, 6] := by
  refine ⟨?_, ?_, ?_, ?_⟩
  all_goals decide +kernel

end SeekableSink

end ZipArchive
