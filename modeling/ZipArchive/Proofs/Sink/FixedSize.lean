import ZipArchive.Proofs.Overwrite
import ZipArchive.Proofs.Sink.Mirror

/-!
# Sinks over files of fixed size

Of a file that writes do not make longer, a sink needs to know two numbers only: how many bytes
there are from the origin on, and how many of them are behind the cursor. A `FixedSink` is that with
the bytes appended, and a sink over such a file answers every call as one does, `Shadows.calls`. An
append that does not fit stores what fits, and so leaves no room behind the cursor; a patch in range
puts the cursor back behind the last byte appended, where there may be room again.
-/

namespace ZipArchive

/-- What a sink over a file of fixed size amounts to. -/
structure FixedSink where
  /-- The number of bytes of the file from the origin on. -/
  capacity : Nat
  /-- The bytes appended. -/
  bytes : Bytes := []
  /-- The number of bytes behind the cursor. -/
  room : Nat
deriving DecidableEq, Repr

namespace FixedSink

/-- Appends bytes if there is room for them. -/
def append (v : FixedSink) (data : Bytes) : Outcome FixedSink Nat :=
  if data.length ≤ v.room then
    (.ok v.bytes.length, { v with bytes := v.bytes ++ data, room := v.room - data.length })
  else (.error .truncatedWrite, { v with room := 0 })

/-- Replaces bytes appended before, and goes back behind the last one. -/
def patch (v : FixedSink) (position : Nat) (data : Bytes) : Outcome FixedSink Unit :=
  match Sink.patchFault? position data.length v.bytes.length with
  | some e => (.error e, v)
  | none => (.ok (),
      { v with
        bytes := v.bytes.take position ++ data ++ v.bytes.drop (position + data.length)
        room := v.capacity - v.bytes.length })

instance : Sink FixedSink where
  position v := v.bytes.length
  append := append
  patch := patch
  flush v := (.ok (), v)

variable {v : FixedSink} {position : Nat} {data : Bytes}

theorem append_of_le (h : data.length ≤ v.room) :
    v.append data =
      (.ok v.bytes.length, { v with bytes := v.bytes ++ data, room := v.room - data.length }) :=
  if_pos h

theorem append_of_lt (h : v.room < data.length) :
    v.append data = (.error .truncatedWrite, { v with room := 0 }) :=
  if_neg (Nat.not_le.2 h)

theorem patch_of_le (h : position + data.length ≤ v.bytes.length) :
    v.patch position data = (.ok (),
      { v with
        bytes := v.bytes.take position ++ data ++ v.bytes.drop (position + data.length)
        room := v.capacity - v.bytes.length }) := by
  simp only [patch, Sink.patchFault?_eq_none_iff.2 h]

theorem patch_of_lt (h : v.bytes.length < position + data.length) :
    v.patch position data = (.error (.outOfBounds position data.length v.bytes.length), v) := by
  rw [patch, Sink.patchFault?, if_neg (Nat.not_le.2 h)]

end FixedSink

/-! ### Writes to a file of fixed size -/

namespace File

variable {f : File} {data : Bytes}

/-- A write that fits. -/
theorem write_of_fits (hfixed : f.growable = false)
    (hfits : data.length ≤ f.contents.size - f.cursor) :
    f.write data = (.ok (), if data = [] then f else f.store data) := by
  have hpart : f.fitting data = data := by
    rw [fitting, hfixed, if_neg Bool.false_ne_true, List.take_of_length_le hfits]
  simp only [write, hpart, hfixed, Bool.false_eq_true, if_false, if_true, List.isEmpty_iff]

/-- A write that does not fit stores what does. -/
theorem write_of_exceeds (hfixed : f.growable = false)
    (hexceeds : f.contents.size - f.cursor < data.length) :
    f.write data = (.error .truncatedWrite,
      if f.contents.size - f.cursor = 0 then f
      else f.store (data.take (f.contents.size - f.cursor))) := by
  have hpart : f.fitting data = data.take (f.contents.size - f.cursor) := by
    rw [fitting, hfixed, if_neg Bool.false_ne_true]
  have hlength : (data.take (f.contents.size - f.cursor)).length =
      f.contents.size - f.cursor := List.length_take_of_le (Nat.le_of_lt hexceeds)
  have hempty : (data.take (f.contents.size - f.cursor)).isEmpty = true ↔
      f.contents.size - f.cursor = 0 := by
    rw [List.isEmpty_iff, ← List.length_eq_zero_iff, hlength]
  simp only [write, hpart, hlength, hfixed, Nat.ne_of_lt hexceeds, Bool.false_eq_true, if_false,
    hempty]

/-- Bytes stored inside a file leave it as long as it is. -/
theorem size_store (h : f.cursor + data.length ≤ f.contents.size) :
    (f.store data).contents.size = f.contents.size := by
  have hlength := Buffer.length_place f.contents.toList data f.cursor
  rw [← Buffer.toList_write, Array.length_toList, Array.length_toList] at hlength
  exact hlength.trans (Nat.max_eq_left h)

end File

namespace Bytes

/-- What stands somewhere with others behind it stands there. -/
theorem StandsAt.of_append {l bs more : Bytes} {offset : Nat}
    (h : StandsAt l offset (bs ++ more)) : StandsAt l offset bs := by
  have htake := congrArg (List.take bs.length) h
  rw [List.take_take, List.length_append, Nat.min_eq_left (Nat.le_add_right ..),
    List.take_left] at htake
  exact htake

private theorem StandsAt.le_length {l bs : Bytes} {offset : Nat} (h : StandsAt l offset bs)
    (hbs : bs ≠ []) : offset + bs.length ≤ l.length := by
  obtain ⟨front, back, rfl, rfl⟩ := h.eq_append hbs
  simp only [List.length_append]
  omega

end Bytes

/-! ### Sinks in step -/

namespace SeekableSink

open Sink (Call)

/-- The sink over a file of fixed size is what the other amounts to: the bytes appended stand in the
file from the origin on, and the cursor stands behind them, unless there is no room for more. -/
structure Shadows (s : SeekableSink) (v : FixedSink) : Prop where
  growable_eq : s.file.growable = false
  capacity_eq : s.file.contents.size - s.origin = v.capacity
  position_eq : s.position = v.bytes.length
  stands : Bytes.StandsAt s.file.bytes s.origin v.bytes
  cursor_eq : s.file.cursor = s.origin + v.bytes.length ∨ v.room = 0
  room_eq : s.file.contents.size - s.file.cursor = v.room

namespace Shadows

variable {s : SeekableSink} {v : FixedSink}

/-- Where there is room, the cursor stands behind the bytes appended. -/
theorem cursor_of_room (h : Shadows s v) (hroom : 0 < v.room) :
    s.file.cursor = s.origin + v.bytes.length :=
  h.cursor_eq.resolve_right (Nat.ne_of_gt hroom)

/-- Bytes stored at the cursor stand behind those appended, and there is less room by them. -/
theorem store (h : Shadows s v) {data : Bytes} (hdata : data ≠ [])
    (hfits : data.length ≤ v.room) :
    Bytes.StandsAt (s.file.store data).bytes s.origin (v.bytes ++ data) ∧
      (s.file.store data).contents.size - s.origin = v.capacity ∧
      (s.file.store data).cursor = s.origin + (v.bytes ++ data).length ∧
      (s.file.store data).contents.size - (s.file.store data).cursor = v.room - data.length := by
  have hpos := List.length_pos_iff.2 hdata
  have hroom := h.room_eq
  have hcursor := h.cursor_of_room (Nat.lt_of_lt_of_le hpos hfits)
  have hsize : (s.file.store data).contents.size = s.file.contents.size :=
    File.size_store (by omega)
  refine ⟨?_, hsize.symm ▸ h.capacity_eq, ?_, ?_⟩
  · rw [File.bytes_store]
    exact h.stands.place_behind data hcursor
  · rw [List.length_append, ← Nat.add_assoc, ← hcursor]
    rfl
  · rw [hsize, ← hroom, Nat.sub_sub]
    rfl

/-- An append for which there is room. -/
theorem append_of_le (h : Shadows s v) {data : Bytes} (hfits : data.length ≤ v.room) :
    (s.append data).1 = (v.append data).1 ∧ Shadows (s.append data).2 (v.append data).2 := by
  rw [append, File.write_of_fits h.growable_eq (h.room_eq.symm ▸ hfits),
    FixedSink.append_of_le hfits]
  refine ⟨congrArg Except.ok h.position_eq, ?_⟩
  by_cases hdata : data = []
  · subst hdata
    rw [if_pos rfl, List.append_nil]
    exact h
  · obtain ⟨hstands, hcapacity, hcursor, hroom⟩ := h.store hdata hfits
    rw [if_neg hdata]
    refine ⟨h.growable_eq, hcapacity, ?_, hstands, .inl hcursor, hroom⟩
    rw [List.length_append, ← h.position_eq]

/-- An append for which there is no room. What fits is stored, and nothing fits after it. -/
theorem append_of_lt (h : Shadows s v) {data : Bytes} (hexceeds : v.room < data.length) :
    (s.append data).1 = (v.append data).1 ∧ Shadows (s.append data).2 (v.append data).2 := by
  rw [append, File.write_of_exceeds h.growable_eq (h.room_eq.symm ▸ hexceeds), h.room_eq,
    FixedSink.append_of_lt hexceeds]
  refine ⟨rfl, ?_⟩
  by_cases hfull : v.room = 0
  · rw [if_pos hfull]
    exact ⟨h.growable_eq, h.capacity_eq, h.position_eq, h.stands, .inr rfl, h.room_eq.trans hfull⟩
  · have hlength : (data.take v.room).length = v.room :=
      List.length_take_of_le (Nat.le_of_lt hexceeds)
    have hpart : data.take v.room ≠ [] :=
      List.length_pos_iff.1 (hlength.symm ▸ Nat.pos_of_ne_zero hfull)
    obtain ⟨hstands, hcapacity, -, hroom⟩ := h.store hpart (Nat.le_of_eq hlength)
    rw [hlength, Nat.sub_self] at hroom
    rw [if_neg hfull]
    exact ⟨h.growable_eq, hcapacity, h.position_eq, hstands.of_append, .inr rfl, hroom⟩

/-- Bytes written over as many of those appended take their place. -/
theorem overwrite (h : Shadows s v) {position : Nat} {data bs : Bytes}
    (hbs : v.bytes.overwrite position data = .ok bs) :
    ∃ f, (s.file.seek (s.origin + position)).write data = (.ok (), f) ∧ f.growable = false ∧
      f.contents.size = s.file.contents.size ∧ Bytes.StandsAt f.bytes s.origin bs := by
  obtain ⟨front, old, back, hbytes, hfront, hlength, rfl⟩ := Bytes.exists_append_of_overwrite hbs
  have hstands := h.stands
  rw [hbytes] at hstands
  by_cases hdata : data = []
  · obtain rfl : old = [] := List.length_eq_zero_iff.1 (hlength ▸ hdata ▸ rfl)
    subst hdata
    exact ⟨_, File.write_of_fits h.growable_eq (Nat.zero_le _), h.growable_eq, rfl, hstands⟩
  · -- where there are bytes to be replaced, those appended lie in the file
    have hne : front ++ old ++ back ≠ [] := by
      intro hnil
      simp only [List.append_eq_nil_iff] at hnil
      exact hdata (List.length_eq_zero_iff.1 (by rw [hlength, hnil.1.2]; rfl))
    have hsize : s.origin + (front ++ old ++ back).length ≤ s.file.contents.size :=
      Nat.le_trans (hstands.le_length hne) (Nat.le_of_eq Array.length_toList)
    rw [List.length_append, List.length_append, hfront, ← hlength] at hsize
    have hfits : (s.file.seek (s.origin + position)).cursor + data.length ≤
        (s.file.seek (s.origin + position)).contents.size := by
      show s.origin + position + data.length ≤ s.file.contents.size
      omega
    refine ⟨_, File.write_of_fits h.growable_eq (Nat.le_sub_of_add_le' hfits), ?_⟩
    rw [if_neg hdata]
    refine ⟨h.growable_eq, File.size_store hfits, ?_⟩
    rw [File.bytes_store]
    exact hstands.place_inside hlength (by rw [hfront]; rfl)

/-- A patch in range. -/
theorem patch_of_le (h : Shadows s v) {position : Nat} {data : Bytes}
    (hfits : position + data.length ≤ v.bytes.length) :
    (s.patch position data).1 = (v.patch position data).1 ∧
      Shadows (s.patch position data).2 (v.patch position data).2 := by
  have hbs : v.bytes.overwrite position data =
      .ok (v.bytes.take position ++ data ++ v.bytes.drop (position + data.length)) := if_pos hfits
  obtain ⟨f, hwrite, hgrowable, hsize, hstands⟩ := h.overwrite hbs
  have hlength := Bytes.length_of_overwrite hbs
  have hpatch : s.patch position data =
      (.ok (), { s with file := f.seek (s.origin + s.position) }) := by
    simp only [patch, Sink.patchFault?_eq_none_iff.2 (h.position_eq.symm ▸ hfits), hwrite]
  rw [hpatch, FixedSink.patch_of_le hfits]
  refine ⟨rfl, hgrowable, ?_, h.position_eq.trans hlength.symm, hstands, .inl ?_, ?_⟩
  · exact hsize.symm ▸ h.capacity_eq
  · rw [hlength, ← h.position_eq]
    rfl
  · have hcapacity := h.capacity_eq
    show f.contents.size - (s.origin + s.position) = v.capacity - v.bytes.length
    rw [hsize, h.position_eq]
    omega

/-- A patch out of range. -/
theorem patch_of_lt (h : Shadows s v) {position : Nat} {data : Bytes}
    (hexceeds : v.bytes.length < position + data.length) :
    (s.patch position data).1 = (v.patch position data).1 ∧
      Shadows (s.patch position data).2 (v.patch position data).2 := by
  rw [patch, Sink.patchFault?, h.position_eq, if_neg (Nat.not_le.2 hexceeds),
    FixedSink.patch_of_lt hexceeds]
  exact ⟨rfl, h⟩

/-- Every call is answered in the same way and keeps the sinks in step. -/
theorem call (h : Shadows s v) (c : Call) :
    (Sink.call s c).1 = (Sink.call v c).1 ∧ Shadows (Sink.call s c).2 (Sink.call v c).2 := by
  cases c with
  | append data =>
    obtain ⟨hanswer, hnext⟩ := (Nat.lt_or_ge v.room data.length).elim h.append_of_lt h.append_of_le
    exact ⟨congrArg (some <$> ·) hanswer, hnext⟩
  | patch position data =>
    obtain ⟨hanswer, hnext⟩ := (Nat.lt_or_ge v.bytes.length (position + data.length)).elim
      h.patch_of_lt h.patch_of_le
    exact ⟨congrArg ((fun _ => none) <$> ·) hanswer, hnext⟩
  | flush => exact ⟨rfl, h⟩

/-- Calls one after the other are answered in the same way and keep the sinks in step. -/
theorem calls (h : Shadows s v) (cs : List Call) :
    (Sink.calls s cs).1 = (Sink.calls v cs).1 ∧
      Shadows (Sink.calls s cs).2 (Sink.calls v cs).2 := by
  induction cs generalizing s v with
  | nil => exact ⟨rfl, h⟩
  | cons c cs ih =>
    obtain ⟨hanswer, hnext⟩ := h.call c
    obtain ⟨hanswers, hend⟩ := ih hnext
    refine ⟨?_, hend⟩
    rw [Sink.calls, Sink.calls, hanswer, hanswers]

end Shadows

/-- A file of fixed size when it is wrapped. -/
theorem shadows_ofFile (contents : Array UInt8) (cursor : Nat) :
    Shadows (ofFile { contents, cursor, growable := false })
      { capacity := contents.size - cursor, room := contents.size - cursor } :=
  ⟨rfl, rfl, rfl, Bytes.standsAt_nil _ _, .inl rfl, rfl⟩

end SeekableSink

end ZipArchive
