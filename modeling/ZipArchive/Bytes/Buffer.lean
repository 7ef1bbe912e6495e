import ZipArchive.Bytes.Basic

/-!
# Buffers

A buffer is an array of bytes. `Buffer.span` hands out the bytes of a span as `Bytes.span` does, in
time that depends on the length of the span only, and `Buffer.byte` a single byte.

`Buffer.write` puts bytes into an array at any position: what was there is replaced, the array
grows as far as needed, and a gap between its end and the position is filled with zeros. Writing
at the end, or over bytes that are there, takes no more time than the bytes written call for;
`toList_write` is one equation for all cases.
-/

namespace ZipArchive.Buffer

/-- The bytes of the array from `offset` on, `length` of them. -/
def span (a : Array UInt8) (offset length : Nat) : Except Fault Bytes :=
  if offset + length ≤ a.size then .ok (a.extract offset (offset + length)).toList
  else .error (.bounds offset length (a.size - offset))

/-- The byte of the array at a position. -/
def byte (a : Array UInt8) (position : Nat) : Except Fault UInt8 :=
  match a[position]? with
  | some b => .ok b
  | none => .error (.bounds position 1 (a.size - position))

theorem span_eq_span_toList (a : Array UInt8) (offset length : Nat) :
    span a offset length = Bytes.span a.toList offset length := by
  simp [span, Bytes.span, List.extract_eq_take_drop]

/-- `data` placed at `position` over the bytes `l`, which are first extended by zeros to reach
there. -/
def place (l : Bytes) (position : Nat) (data : Bytes) : Bytes :=
  l.take position ++ List.replicate (position - l.length) 0 ++ data ++
    l.drop (position + data.length)

/-- Replaces the bytes of the array from `position` on, as far as it reaches. -/
def overlay (a : Array UInt8) (position : Nat) : Bytes → Array UInt8
  | [] => a
  | b :: bs => overlay (a.setIfInBounds position b) (position + 1) bs

/-- The array after writing `data` at `position`. -/
def write (a : Array UInt8) (position : Nat) (data : Bytes) : Array UInt8 :=
  if position = a.size then a ++ data
  else if position + data.length ≤ a.size then overlay a position data
  else (place a.toList position data).toArray

private theorem toList_overlay (a : Array UInt8) (position : Nat) (data : Bytes)
    (h : position + data.length ≤ a.size) :
    (overlay a position data).toList = place a.toList position data := by
  induction data generalizing a position with
  | nil => simp_all [overlay, place]
  | cons b bs ih =>
    rw [List.length_cons] at h
    have hlt : position < a.toList.length := by simpa using (by omega : position < a.size)
    have hroom : position - a.toList.length = 0 := by omega
    have hset : (a.setIfInBounds position b).toList = a.toList.set position b := by simp
    have hnext : position + 1 - (a.toList.set position b).length = 0 := by
      rw [List.length_set]; omega
    rw [overlay, ih _ _ (by simpa using (by omega : position + 1 + bs.length ≤ a.size)), hset]
    simp only [place, hroom, hnext, List.replicate_zero, List.append_nil, List.length_cons]
    rw [List.take_succ_eq_append_getElem (by simpa using hlt), List.getElem_set_self,
      List.take_set, List.set_eq_of_length_le (List.length_take_le _ _), List.drop_set,
      if_pos (by omega)]
    simp [Nat.add_assoc, Nat.add_comm 1]

@[simp] theorem toList_write (a : Array UInt8) (position : Nat) (data : Bytes) :
    (write a position data).toList = place a.toList position data := by
  unfold write
  split
  case isTrue h =>
    subst h
    have hdrop : List.drop (a.size + data.length) a.toList = [] :=
      List.drop_eq_nil_of_le (by simp)
    have htake : List.take a.size a.toList = a.toList := List.take_of_length_le (by simp)
    simp [place, hdrop, htake]
  case isFalse =>
    split
    case isTrue h => exact toList_overlay a position data h
    case isFalse => rfl

end ZipArchive.Buffer
