import ZipArchive.Sink.Basic

/-!
# Calls on sinks

A `Sink.Call` is one of the operations of a sink with what it is given. `Sink.call` makes a call and
`Sink.calls` makes any number of them, one after the other and also behind one that failed, and
collects what they answer. Two sinks are used in the same way if the same calls are made on them.
-/

namespace ZipArchive.Sink

/-- An operation on a sink, with what it is given. -/
inductive Call where
  /-- Bytes are appended. -/
  | append (data : Bytes)
  /-- Bytes are replaced from a position on. -/
  | patch (position : Nat) (data : Bytes)
  /-- What was written is handed on. -/
  | flush
deriving DecidableEq, Repr

/-- What a call comes to: the position of the bytes that it appended, if it appended any. -/
abbrev Answer := Except Fault (Option Nat)

variable {σ : Type} [Sink σ]

/-- Makes a call. -/
def call (s : σ) : Call → Outcome σ (Option Nat)
  | .append data => (some <$> (append s data).1, (append s data).2)
  | .patch position data =>
    ((fun _ => none) <$> (patch s position data).1, (patch s position data).2)
  | .flush => ((fun _ => none) <$> (flush s).1, (flush s).2)

/-- Makes calls one after the other, whatever each of them comes to. -/
def calls (s : σ) : List Call → List Answer × σ
  | [] => ([], s)
  | c :: cs => ((call s c).1 :: (calls (call s c).2 cs).1, (calls (call s c).2 cs).2)

end ZipArchive.Sink
