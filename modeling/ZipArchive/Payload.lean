import ZipArchive.Bytes.Basic

/-!
# Payloads

The data of an entry comes from a reader. A reader delivers bytes in pieces of its own choosing, may
be interrupted in between, which means no more than that it wants to be asked again, and ends with
the end of the data or with a fault. An answer of no bytes is the end of the data, and a reader that
gave it gives no other when it is asked once more. `Reader.fill` fills a buffer from a reader, and
`Reader.chunks` reads it to the end in buffers of one size. What is read does not depend on the
pieces: `content_fill`.
-/

namespace ZipArchive

/-- What a reader does when it is asked for bytes. -/
inductive Delivery where
  /-- It hands out bytes, at once or in several parts if there is no room for all. No bytes are no
  delivery. They are passed over here, and are not the answer that ends the data, for which the end
  of the list stands. -/
  | bytes (bs : Bytes)
  /-- It wants to be asked again. -/
  | interruption
deriving DecidableEq, Repr

/-- The bytes of a delivery. -/
def Delivery.content : Delivery → Bytes
  | bytes bs => bs
  | interruption => []

/-- A source of bytes. -/
structure Reader where
  /-- What it does, in order. Behind the last delivery it comes to its end, and stays there however
  often it is asked. -/
  deliveries : List Delivery
  /-- The fault with which it ends, if it does not end with the end of the data. -/
  fault? : Option Fault := none

namespace Reader

/-- The bytes of deliveries. -/
def content (ds : List Delivery) : Bytes :=
  ds.flatMap Delivery.content

@[simp] theorem content_bytes (bs : Bytes) (ds : List Delivery) :
    content (.bytes bs :: ds) = bs ++ content ds := rfl

@[simp] theorem content_interruption (ds : List Delivery) :
    content (.interruption :: ds) = content ds := rfl

/-- What filling a buffer came to. -/
structure Fill where
  /-- The bytes in the buffer. -/
  got : Bytes
  /-- Whether nothing more was to be had. -/
  exhausted : Bool
  /-- What the reader does next. -/
  left : List Delivery

/-- Asks a reader for bytes until there is no room left behind those of `acc`, in reverse. -/
def fill.go (room : Nat) (acc : Bytes) : List Delivery → Fill
  | [] => { got := acc.reverse, exhausted := room != 0, left := [] }
  | .interruption :: ds =>
    if room = 0 then { got := acc.reverse, exhausted := false, left := .interruption :: ds }
    else fill.go room acc ds
  | .bytes bs :: ds =>
    if room = 0 then { got := acc.reverse, exhausted := false, left := .bytes bs :: ds }
    else
      match bs.drop room with
      | [] => fill.go (room - bs.length) (bs.reverseAux acc) ds
      | b :: rest =>
        { got := acc.reverse ++ bs.take room, exhausted := false, left := .bytes (b :: rest) :: ds }

/-- Asks a reader for bytes until a buffer with room for `room` of them is full. -/
def fill (room : Nat) (ds : List Delivery) : Fill :=
  fill.go room [] ds

private theorem content_fill_go (room : Nat) (acc : Bytes) (ds : List Delivery) :
    (fill.go room acc ds).got ++ content (fill.go room acc ds).left =
      acc.reverse ++ content ds := by
  induction ds generalizing room acc with
  | nil => rfl
  | cons d ds ih =>
    cases d with
    | interruption =>
      unfold fill.go
      split
      · rfl
      · simpa using ih room acc
    | bytes bs =>
      unfold fill.go
      split
      · rfl
      · split
        · rw [ih]
          simp [List.reverseAux_eq]
        · next b rest h =>
          have hsplit : bs.take room ++ b :: rest = bs := by rw [← h, List.take_append_drop]
          simp only [content_bytes, List.append_assoc]
          rw [← List.append_assoc (bs.take room), hsplit]

/-- Filling a buffer takes bytes off the front of the content and loses none. -/
theorem content_fill (room : Nat) (ds : List Delivery) :
    (fill room ds).got ++ content (fill room ds).left = content ds := by
  simpa [fill] using content_fill_go room [] ds

/-- The buffers of `size` bytes that are filled from deliveries after those of `acc`, in reverse, and
whether the end was reached. A buffer during whose filling a fault comes up is not one of them. -/
def chunks.go (size : Nat) (fault? : Option Fault) (ds : List Delivery) (acc : List Bytes) :
    List Bytes × Except Fault Unit :=
  match if (fill size ds).exhausted then fault? else none with
  | some e => (acc.reverse, .error e)
  | none =>
    if _h : (fill size ds).got = [] then (acc.reverse, .ok ())
    else chunks.go size fault? (fill size ds).left ((fill size ds).got :: acc)
termination_by (content ds).length
decreasing_by
  have hsplit := congrArg List.length (content_fill size ds)
  rw [List.length_append] at hsplit
  have hpos := List.length_pos_iff.2 _h
  omega

/-- The buffers of `size` bytes that a reader fills, all but the last of them being full, and
whether it came to the end. A size of zero counts as one. -/
def chunks (r : Reader) (size : Nat) : List Bytes × Except Fault Unit :=
  chunks.go (max size 1) r.fault? r.deliveries []

/-- All bytes of a reader. -/
def data (r : Reader) : Bytes := content r.deliveries

/-- The number of bytes of a reader, if it comes to the end. -/
def count (r : Reader) : Except Fault Nat :=
  match r.fault? with
  | none => .ok r.data.length
  | some e => .error e

/-- A reader of bytes in memory. -/
def ofBytes (bs : Bytes) : Reader where
  deliveries := [.bytes bs]

end Reader

/-- What opening the data of an entry gives. -/
abbrev Payload := Except Fault Reader

namespace Payload

/-- Data in memory. -/
def ofBytes (bs : Bytes) : Payload := .ok (.ofBytes bs)

/-- No data. -/
def empty : Payload := ofBytes []

end Payload

end ZipArchive
