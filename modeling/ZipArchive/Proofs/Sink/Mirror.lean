import ZipArchive.Proofs.Sink.Calls
import ZipArchive.Proofs.Sink.Lawful

/-!
# A file with a sink in memory written into it

A sink over a growable file answers every call as a sink in memory does, and what that one holds
stands in the file from the place on where the cursor was. So says `SeekableSink.Mirrors`, which
holds when the file is wrapped and is kept by every call, `Mirrors.call`. Before and behind that
place the file is as it was, but for zeros in a gap between its end and the cursor, and the cursor
stands behind the last byte appended after every call: `SeekableSink.calls_ofFile`.
-/

namespace ZipArchive

/-! ### Bytes placed twice -/

namespace Buffer

/-- Bytes placed right behind those placed before are placed together with them. -/
theorem place_place_behind (l front back : Bytes) (position : Nat) :
    place (place l position front) (position + front.length) back =
      place l position (front ++ back) := by
  have hlength : (l.take position ++ List.replicate (position - l.length) 0 ++ front).length =
      position + front.length := by
    simp only [List.length_append, List.length_take, List.length_replicate]
    omega
  have hsplit : place l position front =
      (l.take position ++ List.replicate (position - l.length) 0 ++ front) ++
        l.drop (position + front.length) := rfl
  rw [hsplit, ← hlength, place_append, hlength, List.drop_drop, place, List.length_append,
    Nat.add_assoc]
  simp only [List.append_assoc]

/-- Bytes placed inside those placed before change these. -/
theorem place_place_inside (l : Bytes) (position : Nat) {outer inner : Bytes} {offset : Nat}
    (h : offset + inner.length ≤ outer.length) :
    place (place l position outer) (position + offset) inner =
      place l position (place outer offset inner) := by
  obtain ⟨front, rest, rfl, rfl⟩ : ∃ front rest, outer = front ++ rest ∧ front.length = offset :=
    ⟨outer.take offset, outer.drop offset, (List.take_append_drop _ _).symm,
      List.length_take_of_le (by omega)⟩
  rw [List.length_append] at h
  have hlength : (front ++ inner ++ rest.drop inner.length).length = (front ++ rest).length := by
    simp only [List.length_append, List.length_drop]
    omega
  have hfront : (l.take position ++ List.replicate (position - l.length) 0 ++ front).length =
      position + front.length := by
    simp only [List.length_append, List.length_take, List.length_replicate]
    omega
  have hsplit : place l position (front ++ rest) =
      (l.take position ++ List.replicate (position - l.length) 0 ++ front) ++
        (rest ++ l.drop (position + (front ++ rest).length)) := by
    simp only [place, List.append_assoc]
  rw [hsplit, ← hfront, place_append, place_append, place, hlength,
    List.drop_append_of_le_length (by omega)]
  simp only [List.append_assoc]

/-- Outside the bytes placed, a list is as it was, if zeros are read beyond its end. -/
theorem getD_place (l data : Bytes) {position i : Nat}
    (h : i < position ∨ position + data.length ≤ i) :
    (place l position data).getD i 0 = l.getD i 0 := by
  simp only [place, List.getD_eq_getElem?_getD, List.getElem?_append, List.getElem?_take,
    List.getElem?_replicate, List.getElem?_drop, List.length_append, List.length_take,
    List.length_replicate]
  rcases h with hbefore | hbehind
  · grind
  · grind

theorem length_place (l data : Bytes) (position : Nat) :
    (place l position data).length = max l.length (position + data.length) := by
  simp only [place, List.length_append, List.length_take, List.length_replicate, List.length_drop]
  omega

end Buffer

/-! ### Sinks in step -/

namespace SeekableSink

open Sink (Call)

/-- The file of the sink is the file `f` with what the sink in memory holds written into it at the
cursor, or still `f` itself while that is nothing, and the cursor stands behind. -/
structure Mirrors (f : File) (s : SeekableSink) (m : MemorySink) : Prop where
  growable : s.file.growable = true
  origin_eq : s.origin = f.cursor
  position_eq : s.position = m.contents.size
  cursor_eq : s.file.cursor = f.cursor + m.bytes.length
  bytes_eq : s.file.bytes = Buffer.place f.bytes f.cursor m.bytes ∨
    m.bytes = [] ∧ s.file.bytes = f.bytes

namespace Mirrors

variable {f : File} {s : SeekableSink} {m : MemorySink}

private theorem ofFile (h : f.growable = true) : Mirrors f (ofFile f) {} :=
  ⟨h, rfl, rfl, rfl, .inr ⟨rfl, rfl⟩⟩

private theorem position_eq_length (h : Mirrors f s m) : s.position = m.bytes.length :=
  h.position_eq.trans Array.length_toList.symm

/-- What is written behind the last byte appended is written together with the bytes before. -/
theorem place_behind (h : Mirrors f s m) (data : Bytes) :
    Buffer.place s.file.bytes (f.cursor + m.bytes.length) data =
      Buffer.place f.bytes f.cursor (m.bytes ++ data) := by
  rcases h.bytes_eq with hbytes | ⟨hempty, hbytes⟩
  · rw [hbytes, Buffer.place_place_behind]
  · rw [hbytes, hempty, List.length_nil, Nat.add_zero, List.nil_append]

/-- What is written over bytes appended before changes these. -/
theorem place_inside (h : Mirrors f s m) {position : Nat} {data : Bytes}
    (hfits : position + data.length ≤ m.bytes.length) :
    Buffer.place s.file.bytes (f.cursor + position) data =
      Buffer.place f.bytes f.cursor (Buffer.place m.bytes position data) := by
  rcases h.bytes_eq with hbytes | ⟨hempty, hbytes⟩
  · rw [hbytes, Buffer.place_place_inside _ _ hfits]
  · -- nothing was appended, and the only span in range is the empty one at the start
    rw [hempty, List.length_nil] at hfits
    obtain rfl : position = 0 := by omega
    obtain rfl : data = [] := List.length_eq_zero_iff.1 (by omega)
    rw [hbytes, hempty]
    rfl

private theorem append (h : Mirrors f s m) (data : Bytes) :
    (s.append data).1 = (m.append data).1 ∧ Mirrors f (s.append data).2 (m.append data).2 := by
  have happend : s.append data = (.ok s.position,
      { s with file := s.file.store data, position := s.position + data.length }) := by
    rw [SeekableSink.append, File.write_of_growable h.growable]
  rw [happend]
  refine ⟨congrArg Except.ok h.position_eq, h.growable, h.origin_eq, ?_, ?_, .inl ?_⟩
  · have hsize : (m.append data).2.contents.size = m.bytes.length + data.length := by
      rw [← List.length_append, ← MemorySink.bytes_append]
      exact Array.length_toList.symm
    rw [hsize, ← h.position_eq_length]
  · rw [MemorySink.bytes_append, List.length_append, ← Nat.add_assoc, ← h.cursor_eq]
    rfl
  · rw [MemorySink.bytes_append, ← h.place_behind, ← h.cursor_eq]
    exact File.bytes_store _ _

/-- A patch in range. -/
theorem patch_of_le (h : Mirrors f s m) {position : Nat} {data : Bytes}
    (hfits : position + data.length ≤ s.position) :
    (s.patch position data).1 = .ok () ∧
      (s.patch position data).2.file.bytes =
        Buffer.place s.file.bytes (f.cursor + position) data ∧
      (m.patch position data).1 = .ok () ∧
      Mirrors f (s.patch position data).2 (m.patch position data).2 := by
  have hseek : (s.file.seek (s.origin + position)).growable = true := h.growable
  have hpatch : s.patch position data = (.ok (),
      { s with
        file := ((s.file.seek (s.origin + position)).store data).seek
          (s.origin + s.position) }) := by
    simp only [SeekableSink.patch, Sink.patchFault?_eq_none_iff.2 hfits,
      File.write_of_growable hseek]
  have hbytes : (s.patch position data).2.file.bytes =
      Buffer.place s.file.bytes (f.cursor + position) data := by
    rw [hpatch, ← h.origin_eq]
    exact File.bytes_store _ _
  have hmemory : m.patch position data =
      (.ok (), ⟨Buffer.write m.contents position data⟩) := by
    rw [MemorySink.patch, Sink.patchFault?_eq_none_iff.2 (h.position_eq ▸ hfits)]
  rw [h.position_eq_length] at hfits
  have hplaced : (m.patch position data).2.bytes = Buffer.place m.bytes position data := by
    rw [hmemory]
    exact Buffer.toList_write _ _ _
  have hlength : (m.patch position data).2.bytes.length = m.bytes.length := by
    rw [hplaced, Buffer.length_place]
    omega
  refine ⟨by rw [hpatch], hbytes, by rw [hmemory], ?_, ?_, ?_, ?_, .inl ?_⟩
  · rw [hpatch]
    exact h.growable
  · rw [hpatch]
    exact h.origin_eq
  · have hsize : (m.patch position data).2.contents.size = m.bytes.length := by
      rw [← hlength]
      exact Array.length_toList.symm
    rw [hsize, ← h.position_eq_length, hpatch]
  · rw [hlength, ← h.position_eq_length, ← h.origin_eq, hpatch]
    rfl
  · rw [hplaced, hbytes, h.place_inside hfits]

/-- A patch in range makes the file longer only where it ended before the cursor. -/
theorem length_of_patch (h : Mirrors f s m) {position : Nat} {data : Bytes}
    (hfits : position + data.length ≤ s.position) :
    (s.patch position data).2.file.bytes.length = max s.file.bytes.length f.cursor := by
  rw [(h.patch_of_le hfits).2.1, Buffer.length_place]
  rw [h.position_eq_length] at hfits
  rcases h.bytes_eq with hbytes | ⟨hempty, hbytes⟩
  · rw [hbytes, Buffer.length_place]
    omega
  · rw [hempty, List.length_nil] at hfits
    rw [hbytes]
    omega

/-- A patch out of range. -/
theorem patch_of_lt (h : Mirrors f s m) {position : Nat} {data : Bytes}
    (hexceeds : s.position < position + data.length) :
    s.patch position data = (.error (.outOfBounds position data.length s.position), s) ∧
      m.patch position data = (.error (.outOfBounds position data.length s.position), m) := by
  have hfault : Sink.patchFault? position data.length s.position =
      some (.outOfBounds position data.length s.position) := if_neg (by omega)
  constructor
  · rw [SeekableSink.patch, hfault]
  · rw [MemorySink.patch, ← h.position_eq, hfault]

/-- Every call is answered in the same way and keeps the sinks in step. -/
theorem call (h : Mirrors f s m) (c : Call) :
    (Sink.call s c).1 = (Sink.call m c).1 ∧ Mirrors f (Sink.call s c).2 (Sink.call m c).2 := by
  cases c with
  | append data =>
    obtain ⟨hanswer, hnext⟩ := h.append data
    exact ⟨congrArg (some <$> ·) hanswer, hnext⟩
  | patch position data =>
    by_cases hfits : position + data.length ≤ s.position
    · obtain ⟨hanswer, -, hmemory, hnext⟩ := h.patch_of_le hfits
      exact ⟨congrArg ((fun _ => none) <$> ·) (hanswer.trans hmemory.symm), hnext⟩
    · obtain ⟨hfile, hmemory⟩ := h.patch_of_lt (Nat.not_le.1 hfits)
      have hcall : Sink.call s (.patch position data) =
          (.error (.outOfBounds position data.length s.position), s) := by
        show ((fun _ => none) <$> (s.patch position data).1, (s.patch position data).2) = _
        rw [hfile]
        rfl
      have hcall' : Sink.call m (.patch position data) =
          (.error (.outOfBounds position data.length s.position), m) := by
        show ((fun _ => none) <$> (m.patch position data).1, (m.patch position data).2) = _
        rw [hmemory]
        rfl
      rw [hcall, hcall']
      exact ⟨rfl, h⟩
  | flush => exact ⟨rfl, h⟩

/-- Calls one after the other are answered in the same way and keep the sinks in step. -/
theorem calls (h : Mirrors f s m) (cs : List Call) :
    (Sink.calls s cs).1 = (Sink.calls m cs).1 ∧
      Mirrors f (Sink.calls s cs).2 (Sink.calls m cs).2 := by
  induction cs generalizing s m with
  | nil => exact ⟨rfl, h⟩
  | cons c cs ih =>
    obtain ⟨hanswer, hnext⟩ := h.call c
    obtain ⟨hanswers, hend⟩ := ih hnext
    refine ⟨?_, hend⟩
    rw [Sink.calls, Sink.calls, hanswer, hanswers]

/-- Behind what was written the file is as it was, and so it is before, but for a gap of zeros. -/
theorem exists_gap (h : Mirrors f s m) :
    ∃ gap, s.file.bytes = f.bytes.take f.cursor ++ List.replicate gap 0 ++ m.bytes ++
        f.bytes.drop (f.cursor + s.position) ∧
      (gap = f.cursor - f.bytes.length ∨ gap = 0 ∧ m.bytes = []) := by
  rw [h.position_eq_length]
  rcases h.bytes_eq with hbytes | ⟨hempty, hbytes⟩
  · exact ⟨f.cursor - f.bytes.length, hbytes, .inl rfl⟩
  · refine ⟨0, ?_, .inr ⟨rfl, hempty⟩⟩
    rw [hbytes, hempty]
    simp

end Mirrors

/-- A sink over a growable file is used like one in memory: whatever the file holds and wherever its
cursor stands, all calls are answered in the same way. What was appended stands in the file from the
cursor on, all else is as it was but for zeros in a gap before the cursor, and the cursor is behind
the last byte appended. The next patch is refused if it exceeds what was appended, and else it
leaves all bytes outside of its span as they are. -/
theorem calls_ofFile (contents : Array UInt8) (cursor : Nat) (cs : List Call) :
    let file := Sink.calls (ofFile { contents, cursor }) cs
    let memory := Sink.calls ({} : MemorySink) cs
    file.1 = memory.1 ∧
    file.2.position = memory.2.contents.size ∧
    file.2.file.cursor = cursor + file.2.position ∧
    (∃ gap, file.2.file.bytes = contents.toList.take cursor ++ List.replicate gap 0 ++
        memory.2.bytes ++ contents.toList.drop (cursor + file.2.position) ∧
      (gap = cursor - contents.size ∨ gap = 0 ∧ memory.2.bytes = [])) ∧
    ∀ position data,
      (file.2.position < position + data.length →
        file.2.patch position data =
          (.error (.outOfBounds position data.length file.2.position), file.2)) ∧
      (position + data.length ≤ file.2.position →
        (file.2.patch position data).1 = .ok () ∧
        (file.2.patch position data).2.file.bytes.length = max file.2.file.bytes.length cursor ∧
        ∀ i, i < cursor + position ∨ cursor + position + data.length ≤ i →
          (file.2.patch position data).2.file.bytes.getD i 0 = file.2.file.bytes.getD i 0) := by
  intro file memory
  obtain ⟨hanswers, hend⟩ := (Mirrors.ofFile (f := { contents, cursor }) rfl).calls cs
  refine ⟨hanswers, hend.position_eq, ?_, ?_, fun position data => ⟨fun hexceeds => ?_,
    fun hfits => ?_⟩⟩
  · rw [hend.cursor_eq, ← hend.position_eq_length]
  · exact hend.exists_gap
  · exact (hend.patch_of_lt hexceeds).1
  · obtain ⟨hanswer, hbytes, -, -⟩ := hend.patch_of_le hfits
    refine ⟨hanswer, hend.length_of_patch hfits, fun i hi => ?_⟩
    rw [hbytes, Buffer.getD_place _ _ hi]

end SeekableSink

end ZipArchive
