import Mathlib.Data.List.Basic
import ZipArchive.Proofs.Archive.Compression

/-!
# The calls of a compressor

A payload is handed to a compressor in a row of calls, `Codec.calls`: each chunk until it is taken
or the compressor says that it is done, and nothing at the end until it is done. If this comes to
its end, all of the payload was offered, and what was put out is the compressed data, in order:
`Codec.compressPayload_calls`. A call that takes nothing and puts nothing out, though there is input
for it or none is to follow, makes the data break off.

What a call leaves of its input is offered again in the next one, unless the compressor says that
it is done. Then it is dropped, `Compressor.Call.dropped`, and counts for the checksum and the size
all the same.
-/

namespace ZipArchive

/-! ### Calls -/

namespace Compressor

/-- A call of a compressor and its answer. -/
structure Call where
  /-- The input that is offered. -/
  input : Bytes
  /-- Whether no input follows. -/
  finish : Bool
  /-- The answer. -/
  step : Step
deriving DecidableEq, Repr

namespace Call

/-- The input that is taken. -/
def taken (c : Call) : Bytes := c.input.take c.step.consumed

/-- The input that is left. -/
def left (c : Call) : Bytes := c.input.drop c.step.consumed

/-- The input that is left and not offered again. -/
def dropped (c : Call) : Bytes :=
  if c.step.status = .done then c.left else []

/-- No more calls are made for the input: the compressor is done, or took all and wants more. -/
def Ends (c : Call) : Prop :=
  c.step.status = .done ∨ c.step.status = .needsInput ∧ c.finish = false ∧ c.left = []

/-- Nothing is taken and nothing is put out. -/
def Idle (c : Call) : Prop :=
  c.step.consumed = 0 ∧ c.step.output = []

/-- Nothing is taken and nothing is put out, though there is input or none is to follow, and the
compressor is not done. -/
def Stalls (c : Call) : Prop :=
  c.Idle ∧ c.step.status ≠ .done ∧ (c.input ≠ [] ∨ c.finish = true)

instance (c : Call) : Decidable c.Ends := inferInstanceAs (Decidable (_ ∨ _))

instance (c : Call) : Decidable c.Idle := inferInstanceAs (Decidable (_ ∧ _))

instance (c : Call) : Decidable c.Stalls := inferInstanceAs (Decidable (_ ∧ _))

private theorem taken_append_left (c : Call) : c.taken ++ c.left = c.input :=
  List.take_append_drop _ _

/-- A call behind which none follows for its input takes or drops all of it. -/
theorem Ends.taken_append_dropped {c : Call} (h : c.Ends) : c.taken ++ c.dropped = c.input := by
  rw [dropped]
  split
  case isTrue => exact c.taken_append_left
  case isFalse hmore =>
    obtain ⟨-, -, hleft⟩ := h.resolve_left hmore
    rw [← hleft]
    exact c.taken_append_left

theorem dropped_of_not_ends {c : Call} (h : ¬c.Ends) : c.dropped = [] :=
  if_neg fun hdone => h (.inl hdone)

private theorem Ends.not_stalls {c : Call} (h : c.Ends) : ¬c.Stalls := by
  rintro ⟨⟨hconsumed, -⟩, hmore, hinput⟩
  obtain ⟨-, hfinish, hleft⟩ := h.resolve_left hmore
  rw [left, hconsumed, List.drop_zero] at hleft
  rcases hinput with hinput | hinput
  · exact hinput hleft
  · exact Bool.false_ne_true (hfinish.symm.trans hinput)

end Call

/-- The pieces that calls put out. -/
def outputs (run : List Call) : List Bytes :=
  (run.map fun c => c.step.output).filter fun output => !output.isEmpty

private theorem outputs_append (run run' : List Call) :
    outputs (run ++ run') = outputs run ++ outputs run' := by
  rw [outputs, List.map_append, List.filter_append]
  rfl

/-- No byte is put out but in the pieces. -/
theorem flatten_outputs (run : List Call) :
    (outputs run).flatten = run.flatMap fun c => c.step.output := by
  induction run with
  | nil => rfl
  | cons c run ih =>
    rw [List.flatMap_cons, ← ih, outputs, List.map_cons, List.filter_cons]
    cases houtput : c.step.output with
    | nil => rfl
    | cons b output => rfl

/-- All is taken if and only if nothing is dropped. -/
theorem flatMap_taken_eq_iff {run : List Call} {input : Bytes}
    (h : (run.flatMap fun c => c.taken ++ c.dropped) = input) :
    run.flatMap Call.taken = input ↔ ∀ c ∈ run, c.dropped = [] := by
  have hlength : ∀ run : List Call, (run.flatMap fun c => c.taken ++ c.dropped).length =
      (run.flatMap Call.taken).length + (run.flatMap Call.dropped).length := by
    intro run
    induction run with
    | nil => rfl
    | cons c run ih =>
      simp only [List.flatMap_cons, List.length_append, ih]
      omega
  constructor
  · intro htaken
    have hnone := hlength run
    rw [h, htaken, Nat.left_eq_add, List.length_eq_zero_iff] at hnone
    exact List.flatMap_eq_nil_iff.1 hnone
  · intro hnone
    rw [← h, List.flatMap_def, List.flatMap_def]
    refine congrArg List.flatten (List.map_congr_left fun c hc => ?_)
    rw [hnone c hc, List.append_nil]

end Compressor

open Compressor (Call outputs)

/-- What a compressor is offered when chunks of a reader are compressed: each chunk, and nothing
when it is asked to finish, unless the reader ends with a fault. -/
def Reader.inputs (r : Reader) (chunkSize : Nat) : List (Bytes × Bool) :=
  (r.chunks chunkSize).1.map (·, false) ++
    match (r.chunks chunkSize).2 with
    | .ok () => [([], true)]
    | .error _ => []

namespace Codec

variable {σ : Type}

/-- The first calls of a compressor, `n` of them at most, that is offered inputs from the state `s`
on, each with whether no other follows. -/
def calls (codec : Codec σ) (room : Nat) : Nat → σ → List (Bytes × Bool) → List Call
  | 0, _, _ => []
  | _ + 1, _, [] => []
  | n + 1, s, (input, finish) :: behind =>
    match codec.compress s input room finish with
    | .error _ => []
    | .ok (step, s) =>
      let c : Call := { input, finish, step }
      c ::
        if c.Ends then codec.calls room n s behind
        else if c.Idle then []
        else codec.calls room n s ((c.left, finish) :: behind)

variable {codec : Codec σ} {room : Nat}

@[simp] theorem calls_nil (n : Nat) (s : σ) : codec.calls room n s [] = [] := by
  cases n with
  | zero => rfl
  | succ n => rfl

/-! ### One input -/

/-- The calls take or drop the input, none of them stalls, and the pieces `before` become `after`,
the last one first. -/
structure Accounts (run : List Call) (input : Bytes) (before after : List Bytes) : Prop where
  input_eq : (run.flatMap fun c => c.taken ++ c.dropped) = input
  pieces_eq : after = (outputs run).reverse ++ before
  not_stalls : ∀ c ∈ run, ¬c.Stalls

private theorem Accounts.nil (pieces : List Bytes) : Accounts [] [] pieces pieces :=
  ⟨rfl, rfl, by simp⟩

private theorem Accounts.append {run run' : List Call} {input input' : Bytes}
    {before between after : List Bytes} (h : Accounts run input before between)
    (h' : Accounts run' input' between after) :
    Accounts (run ++ run') (input ++ input') before after where
  input_eq := by rw [List.flatMap_append, h.input_eq, h'.input_eq]
  pieces_eq := by
    rw [h'.pieces_eq, h.pieces_eq, Compressor.outputs_append, List.reverse_append,
      List.append_assoc]
  not_stalls c hc := (List.mem_append.1 hc).elim (h.not_stalls c) (h'.not_stalls c)

/-- One step of feeding is one call. -/
theorem feed_succ (finish : Bool) (n : Nat) (s : σ) (input : Bytes) (pieces : List Bytes) :
    codec.feed room finish (n + 1) s input pieces =
      match codec.compress s input room finish with
      | .error e => (pieces, .error e)
      | .ok (step, s') =>
        let c : Call := { input, finish, step }
        let pieces := (outputs [c]).reverse ++ pieces
        if c.Ends then (pieces, .ok s')
        else if c.Idle then (pieces, .error noProgress)
        else codec.feed room finish n s' c.left pieces := by
  rw [feed]
  rcases codec.compress s input room finish with e | ⟨step, s'⟩
  · rfl
  have hpieces : (if step.output.isEmpty then pieces else step.output :: pieces) =
      (outputs [{ input, finish, step }]).reverse ++ pieces := by
    rcases step with ⟨consumed, _ | ⟨b, output⟩, status⟩
    · rfl
    · rfl
  dsimp only
  rw [hpieces, ← ite_or]
  refine if_congr ?_ rfl (if_congr ?_ rfl rfl)
  · rw [Call.Ends, Call.left, List.isEmpty_iff, Bool.not_eq_true']
  · rw [Call.Idle, List.isEmpty_iff]

/-- A call that is not the last one for its input accounts for what it takes. -/
theorem Accounts.cons {c : Call} (hends : ¬c.Ends) (hidle : ¬c.Idle) {run : List Call}
    {before after : List Bytes}
    (h : Accounts run c.left ((outputs [c]).reverse ++ before) after) :
    Accounts (c :: run) c.input before after := by
  refine ⟨?_, ?_, ?_⟩
  · rw [List.flatMap_cons, h.input_eq, Call.dropped_of_not_ends hends, List.append_nil,
      c.taken_append_left]
  · have houtputs : outputs (c :: run) = outputs [c] ++ outputs run :=
      Compressor.outputs_append [c] run
    rw [h.pieces_eq, houtputs, List.reverse_append, List.append_assoc]
  · exact List.forall_mem_cons.2 ⟨fun hstalls => hidle hstalls.1, h.not_stalls⟩

private theorem Accounts.last {c : Call} (hends : c.Ends) (before : List Bytes) :
    Accounts [c] c.input before ((outputs [c]).reverse ++ before) where
  input_eq := by rw [List.flatMap_singleton, hends.taken_append_dropped]
  pieces_eq := rfl
  not_stalls := List.forall_mem_singleton.2 hends.not_stalls

/-- Feeding that comes to its end is a row of calls. -/
theorem exists_run_of_feed {finish : Bool} {limit : Nat} {s t : σ} {input : Bytes}
    {before after : List Bytes}
    (h : codec.feed room finish limit s input before = (after, .ok t)) :
    ∃ run, Accounts run input before after ∧ ∀ n behind,
      codec.calls room (run.length + n) s ((input, finish) :: behind) =
        run ++ codec.calls room n t behind := by
  -- on the calls that may still be made: the one that ends the input is a row by itself, and any
  -- other one is followed by the row for what it left
  induction limit generalizing s input before with
  | zero => cases h
  | succ limit ih =>
    rw [feed_succ] at h
    cases hcompress : codec.compress s input room finish with
    | error e =>
      rw [hcompress] at h
      cases h
    | ok answer =>
      obtain ⟨step, s'⟩ := answer
      rw [hcompress] at h
      dsimp only at h
      generalize hc : ({ input, finish, step } : Call) = c at h
      have hinput : c.input = input := congrArg Call.input hc.symm
      by_cases hends : c.Ends
      · rw [if_pos hends] at h
        obtain ⟨rfl, ht⟩ := Prod.mk.inj h
        obtain rfl := Except.ok.inj ht
        refine ⟨[c], hinput ▸ .last hends before, fun n behind => ?_⟩
        rw [List.length_singleton, Nat.add_comm, calls, hcompress]
        dsimp only
        rw [hc, if_pos hends]
        rfl
      · rw [if_neg hends] at h
        by_cases hidle : c.Idle
        · rw [if_pos hidle] at h
          cases h
        · rw [if_neg hidle] at h
          obtain ⟨run, hrun, hcalls⟩ := ih h
          refine ⟨c :: run, hinput ▸ .cons hends hidle hrun, fun n behind => ?_⟩
          rw [List.length_cons, Nat.add_right_comm, calls, hcompress]
          dsimp only
          rw [hc, if_neg hends, if_neg hidle, hcalls]
          rfl

/-! ### Chunks -/

/-- Chunks that are fed to the end are a row of calls. -/
theorem exists_run_of_feedAll {s t : σ} {chunks before after : List Bytes}
    (h : codec.feedAll room s before chunks = (after, .ok t)) :
    ∃ run, Accounts run chunks.flatten before after ∧ ∀ n behind,
      codec.calls room (run.length + n) s (chunks.map (·, false) ++ behind) =
        run ++ codec.calls room n t behind := by
  induction chunks generalizing s before with
  | nil =>
    obtain ⟨rfl, ht⟩ := Prod.mk.inj h
    obtain rfl := Except.ok.inj ht
    exact ⟨[], .nil before, fun n behind => by rw [List.length_nil, Nat.zero_add]; rfl⟩
  | cons chunk chunks ih =>
    rw [feedAll] at h
    rcases hfeed : codec.feed room false (callLimit chunk) s chunk before with ⟨between, e | u⟩
    · rw [hfeed] at h
      cases h
    · rw [hfeed] at h
      obtain ⟨run, hrun, hcalls⟩ := exists_run_of_feed hfeed
      obtain ⟨run', hrun', hcalls'⟩ := ih h
      refine ⟨run ++ run', hrun.append hrun', fun n behind => ?_⟩
      rw [List.length_append, Nat.add_assoc, List.map_cons, List.cons_append, hcalls, hcalls',
        List.append_assoc]

/-- Compressing that comes to its end is a row of calls behind which there is none. -/
theorem exists_run_of_compressPayload {chunkSize : Nat} {r : Reader} {d : Digest}
    (h : (codec.compressPayload chunkSize (.ok r)).ending = .ok d) :
    ∃ run, Accounts run r.data [] (codec.compressPayload chunkSize (.ok r)).pieces.reverse ∧
      ∀ n, codec.calls (max chunkSize 1) (run.length + n) codec.start (r.inputs chunkSize) =
        run := by
  have hcourse := course_compressPayload codec chunkSize r
  generalize codec.compressPayload chunkSize (.ok r) = c at h hcourse ⊢
  generalize hending : (r.chunks chunkSize).2 = ending at hcourse
  cases hcourse with
  | failed => cases h
  | unread => cases h
  | unfinished => cases h
  | finished hfed hfinish =>
    obtain ⟨run, hrun, hcalls⟩ := exists_run_of_feedAll hfed
    obtain ⟨run', hrun', hcalls'⟩ := exists_run_of_feed hfinish
    have hwhole := hrun.append hrun'
    rw [Reader.flatten_chunks hending, List.append_nil] at hwhole
    refine ⟨run ++ run', by rwa [List.reverse_reverse], fun n => ?_⟩
    rw [Reader.inputs, hending, List.length_append, Nat.add_assoc, hcalls]
    dsimp only
    rw [hcalls', calls_nil, List.append_nil]

/-! ### Calls that stall -/

/-- One of the calls that are made from the state on for the inputs stalls. -/
def Stalls (codec : Codec σ) (room : Nat) (s : σ) (inputs : List (Bytes × Bool)) : Prop :=
  ∃ n, ∃ c ∈ codec.calls room n s inputs, c.Stalls

private theorem not_stalls_nil (s : σ) : ¬codec.Stalls room s [] := by
  rintro ⟨n, c, hc, -⟩
  rw [calls_nil] at hc
  cases hc

/-- Feeding fails at a call that stalls, unless it is one of those behind it. -/
theorem feed_of_stalls {finish : Bool} (limit : Nat) {s : σ} {input : Bytes}
    {behind : List (Bytes × Bool)} (pieces : List Bytes)
    (h : codec.Stalls room s ((input, finish) :: behind)) :
    match (codec.feed room finish limit s input pieces).2 with
    | .ok t => codec.Stalls room t behind
    | .error e => e = noProgress := by
  -- a call that stalls is idle and does not end its input, so feeding fails at it if it is the first
  -- one, and goes on towards it otherwise
  induction limit generalizing s input pieces with
  | zero => rfl
  | succ limit ih =>
    obtain ⟨n, c, hc, hstalls⟩ := h
    rcases n with _ | n
    · cases hc
    rw [calls] at hc
    rw [feed_succ]
    rcases hcompress : codec.compress s input room finish with e | ⟨step, s'⟩
    · rw [hcompress] at hc
      cases hc
    rw [hcompress] at hc
    dsimp only at hc ⊢
    generalize ({ input, finish, step } : Call) = c' at hc ⊢
    by_cases hends : c'.Ends
    · rw [if_pos hends] at hc ⊢
      rcases List.mem_cons.1 hc with rfl | hc
      · exact absurd hstalls hends.not_stalls
      · exact ⟨n, c, hc, hstalls⟩
    · rw [if_neg hends] at hc ⊢
      by_cases hidle : c'.Idle
      · rw [if_pos hidle]
      · rw [if_neg hidle] at hc ⊢
        rcases List.mem_cons.1 hc with rfl | hc
        · exact absurd hstalls.1 hidle
        · exact ih _ ⟨n, c, hc, hstalls⟩

private theorem feedAll_of_stalls {s : σ} {chunks : List Bytes} {behind : List (Bytes × Bool)}
    (pieces : List Bytes) (h : codec.Stalls room s (chunks.map (·, false) ++ behind)) :
    match (codec.feedAll room s pieces chunks).2 with
    | .ok t => codec.Stalls room t behind
    | .error e => e = noProgress := by
  induction chunks generalizing s pieces with
  | nil => exact h
  | cons chunk chunks ih =>
    have hchunk := feed_of_stalls (callLimit chunk) pieces h
    rw [feedAll]
    rcases hfeed : codec.feed room false (callLimit chunk) s chunk pieces with ⟨between, e | t⟩
    · rw [hfeed] at hchunk
      exact hchunk
    · rw [hfeed] at hchunk
      exact ih between hchunk

/-- Data for which a call stalls breaks off. -/
theorem compressPayload_of_stalls {chunkSize : Nat} {r : Reader}
    (h : codec.Stalls (max chunkSize 1) codec.start (r.inputs chunkSize)) :
    (codec.compressPayload chunkSize (.ok r)).ending = .error noProgress := by
  rw [Reader.inputs] at h
  have hchunks := feedAll_of_stalls [] h
  have hcourse := course_compressPayload codec chunkSize r
  generalize codec.compressPayload chunkSize (.ok r) = c at hcourse ⊢
  generalize (r.chunks chunkSize).2 = ending at hcourse hchunks
  cases hcourse with
  | failed hfed =>
    rw [hfed] at hchunks
    exact congrArg Except.error hchunks
  | unread hfed =>
    rw [hfed] at hchunks
    exact absurd hchunks (not_stalls_nil _)
  | @unfinished fed _ _ _ hfed hfinish =>
    rw [hfed] at hchunks
    have hlast := feed_of_stalls (callLimit []) fed hchunks
    rw [hfinish] at hlast
    exact congrArg Except.error hlast
  | @finished fed _ _ _ hfed hfinish =>
    rw [hfed] at hchunks
    have hlast := feed_of_stalls (callLimit []) fed hchunks
    rw [hfinish] at hlast
    exact absurd hlast (not_stalls_nil _)

/-! ### Payloads -/

/-- What comes of the calls of a compressor. If its data comes to an end, there is a last call. All
of the payload was taken or dropped in turn, so that it was taken as a whole if and only if no call
dropped a part of it; the digest has the checksum and the size of the payload, and the number of
bytes put out; and the pieces are those that were put out, in order. If a call stalls, the data
breaks off. -/
theorem compressPayload_calls (codec : Codec σ) (chunkSize : Nat) (payload : Payload) :
    (∀ d, (codec.compressPayload chunkSize payload).ending = .ok d →
      ∃ r run, payload = .ok r ∧
        (∀ n ≥ run.length, codec.calls (max chunkSize 1) n codec.start (r.inputs chunkSize) = run) ∧
        d.size = r.data.length ∧ d.checksum = crc32 r.data ∧
        d.compressedSize = (run.flatMap fun c => c.step.output).length ∧
        (codec.compressPayload chunkSize payload).pieces = outputs run ∧
        (run.flatMap fun c => c.taken ++ c.dropped) = r.data ∧
        (run.flatMap Call.taken = r.data ↔ ∀ c ∈ run, c.dropped = [])) ∧
    ∀ r, payload = .ok r → ∀ n,
      (∃ c ∈ codec.calls (max chunkSize 1) n codec.start (r.inputs chunkSize), c.Stalls) →
        (codec.compressPayload chunkSize payload).ending = .error noProgress := by
  constructor
  · intro d hd
    obtain ⟨r, rfl, hsum, hsize, hcompressed⟩ := compressPayload_eq_ok hd
    obtain ⟨run, hrun, hcalls⟩ := exists_run_of_compressPayload hd
    have hpieces : (codec.compressPayload chunkSize (.ok r)).pieces = outputs run := by
      rw [← List.reverse_inj, hrun.pieces_eq, List.append_nil]
    refine ⟨r, run, rfl, ?_, hsize, hsum, ?_, hpieces, hrun.input_eq,
      Compressor.flatMap_taken_eq_iff hrun.input_eq⟩
    · intro n hn
      rw [← Nat.add_sub_cancel' hn]
      exact hcalls _
    · rw [hcompressed, hpieces, Compressor.flatten_outputs]
  · rintro r rfl n ⟨c, hc, hstalls⟩
    exact compressPayload_of_stalls ⟨n, c, hc, hstalls⟩

/-- A codec that takes nothing, puts nothing out and wants more room. -/
def stuck : Codec Unit where
  method := .stored
  start := ()
  compress := fun _ _ _ _ => .ok ({ consumed := 0, output := [], status := .needsOutput }, ())

/-- Of three bytes, all are accounted for by the codec that copies; and with the one that is stuck,
the first call stalls. -/
theorem compressPayload_calls_stored :
    (∃ run, (run.flatMap fun c => c.taken ++ c.dropped) = [1, 2, 3] ∧
      (stored.compressPayload 2 (.ofBytes [1, 2, 3])).pieces = outputs run) ∧
    (stuck.compressPayload 2 (.ofBytes [1, 2, 3])).ending = .error noProgress := by
  have hending : (stored.compressPayload 2 (.ofBytes [1, 2, 3])).ending =
      .ok { checksum := crc32 [1, 2, 3], size := 3, compressedSize := 3 } := by decide +kernel
  obtain ⟨r, run, hr, -, -, -, -, hpieces, hinput, -⟩ :=
    (compressPayload_calls stored 2 (.ofBytes [1, 2, 3])).1 _ hending
  obtain rfl := Except.ok.inj hr
  refine ⟨⟨run, hinput, hpieces⟩, ?_⟩
  refine (compressPayload_calls stuck 2 (.ofBytes [1, 2, 3])).2 _ rfl 1 ?_
  decide +kernel

/-- A codec that copies one byte and says that it is done. -/
def hasty : Codec Unit where
  method := .stored
  start := ()
  compress := fun _ input room _ =>
    .ok ({ consumed := min (min input.length 1) room, output := input.take (min 1 room)
           status := .done }, ())

/-- Of three bytes it takes the first. The other two are dropped, and its data comes to an end with
the size and the checksum of all three. -/
theorem calls_hasty :
    (hasty.compressPayload 65536 (.ofBytes [1, 2, 3])).ending =
        .ok { checksum := crc32 [1, 2, 3], size := 3, compressedSize := 1 } ∧
      ∀ n, (hasty.calls 65536 n () ((Reader.ofBytes [1, 2, 3]).inputs 65536)).flatMap Call.taken ≠
        [1, 2, 3] := by
  refine ⟨by decide +kernel, ?_⟩
  have hinputs : (Reader.ofBytes [1, 2, 3]).inputs 65536 = [([1, 2, 3], false), ([], true)] := by
    decide +kernel
  rintro (_ | _ | n)
  · decide
  · rw [hinputs]
    decide
  · rw [hinputs]
    have hcalls : hasty.calls 65536 (n + 2) () [([1, 2, 3], false), ([], true)] =
        hasty.calls 65536 2 () [([1, 2, 3], false), ([], true)] := by
      simp [calls, hasty, Call.Ends]
    rw [hcalls]
    decide

end Codec

end ZipArchive
