import ZipArchive.Sink.Continued
import ZipArchive.Sink.Seekable

/-!
# Sinks that take every append and every patch in range

`LawfulSink` singles out the sinks on which an append and a patch of bytes appended before succeed
and do what they are for. What such a sink holds is said by a relation, `Holds s base bs`: the bytes
`bs` stand in `s` from position `base` on, and the next byte goes behind them. Bytes before `base`
are left open, so that `base` may be any position that the sink has reached.

The sink in memory, the sink over a growable file and the sink that continues are lawful, whatever
the file held before and wherever its cursor stood.
-/

namespace ZipArchive

/-! ### Bytes at an offset -/

namespace Buffer

/-- Bytes placed behind the first `front.length` of a list leave these as they are. -/
theorem place_append (front rest data : Bytes) :
    place (front ++ rest) front.length data = front ++ data ++ rest.drop data.length := by
  have hgap : front.length - (front ++ rest).length = 0 := by
    rw [List.length_append]
    omega
  rw [place, hgap, List.take_left, List.replicate_zero, List.append_nil, List.drop_append,
    List.drop_eq_nil_of_le (by omega), List.nil_append, Nat.add_sub_cancel_left]

private theorem drop_place (l : Bytes) (position : Nat) (data : Bytes) :
    (place l position data).drop position = data ++ l.drop (position + data.length) := by
  have hfront : (l.take position ++ List.replicate (position - l.length) 0).length = position := by
    simp only [List.length_append, List.length_take, List.length_replicate]
    omega
  rw [place, List.append_assoc, List.drop_left' hfront]

end Buffer

namespace Bytes

/-- The bytes `bs` stand in `l` from `offset` on. -/
def StandsAt (l : Bytes) (offset : Nat) (bs : Bytes) : Prop :=
  (l.drop offset).take bs.length = bs

theorem standsAt_nil (l : Bytes) (offset : Nat) : StandsAt l offset [] := by
  simp [StandsAt]

private theorem standsAt_append (front bs back : Bytes) :
    StandsAt (front ++ (bs ++ back)) front.length bs := by
  simp [StandsAt]

/-- Bytes that stand somewhere split the list, unless there are none. -/
theorem StandsAt.eq_append {l bs : Bytes} {offset : Nat} (h : StandsAt l offset bs)
    (hbs : bs ≠ []) :
    ∃ front back, l = front ++ (bs ++ back) ∧ front.length = offset := by
  have hlen : offset + bs.length ≤ l.length := by
    have hsize := congrArg List.length h
    have hpos := List.length_pos_iff.2 hbs
    rw [List.length_take, List.length_drop] at hsize
    omega
  have hdrop : bs ++ (l.drop offset).drop bs.length = l.drop offset := by
    calc bs ++ (l.drop offset).drop bs.length
        = (l.drop offset).take bs.length ++ (l.drop offset).drop bs.length := by rw [h]
      _ = l.drop offset := List.take_append_drop _ _
  refine ⟨l.take offset, (l.drop offset).drop bs.length, ?_, ?_⟩
  · rw [hdrop, List.take_append_drop]
  · rw [List.length_take]
    omega

/-- Bytes placed behind others extend them. -/
theorem StandsAt.place_behind {l bs : Bytes} {offset position : Nat} (data : Bytes)
    (h : StandsAt l offset bs) (hpos : position = offset + bs.length) :
    StandsAt (Buffer.place l position data) offset (bs ++ data) := by
  by_cases hbs : bs = []
  · subst hbs hpos
    simp [StandsAt, Buffer.drop_place]
  · obtain ⟨front, back, rfl, rfl⟩ := h.eq_append hbs
    have hsize : position = (front ++ bs).length := by simpa using hpos
    rw [hsize, ← List.append_assoc, Buffer.place_append, List.append_assoc front,
      List.append_assoc front]
    exact standsAt_append _ _ _

/-- Bytes placed over as many of others replace these. -/
theorem StandsAt.place_inside {l front old new back : Bytes} {offset position : Nat}
    (h : StandsAt l offset (front ++ old ++ back)) (hlen : new.length = old.length)
    (hpos : position = offset + front.length) :
    StandsAt (Buffer.place l position new) offset (front ++ new ++ back) := by
  by_cases hbs : front ++ old ++ back = []
  · have hnil : front ++ new ++ back = [] := by
      simp only [List.append_eq_nil_iff] at hbs ⊢
      obtain ⟨⟨rfl, rfl⟩, rfl⟩ := hbs
      exact ⟨⟨rfl, List.length_eq_zero_iff.1 hlen⟩, rfl⟩
    rw [hnil]
    exact standsAt_nil _ _
  · obtain ⟨before, after, rfl, rfl⟩ := h.eq_append hbs
    have hsize : position = (before ++ front).length := by simpa using hpos
    have hsplit : before ++ (front ++ old ++ back ++ after) =
        (before ++ front) ++ (old ++ (back ++ after)) := by
      simp only [List.append_assoc]
    have hplace : Buffer.place (before ++ (front ++ old ++ back ++ after)) position new =
        before ++ (front ++ new ++ back ++ after) := by
      rw [hsplit, hsize, Buffer.place_append, hlen, List.drop_left]
      simp only [List.append_assoc]
    rw [hplace]
    exact standsAt_append _ _ _

end Bytes

/-! ### Lawful sinks -/

/-- Sinks on which appends and patches in range succeed. -/
class LawfulSink (τ : Type) [Sink τ] where
  /-- The bytes stand in the sink from the position on, and the next one goes behind them. -/
  Holds : τ → Nat → Bytes → Prop
  /-- Every sink holds nothing from its position on. -/
  holds_position : ∀ {s : τ} {base : Nat} {bs : Bytes},
    Holds s base bs → Holds s (Sink.position s) []
  /-- The next byte goes behind those that are held. -/
  position_eq : ∀ {s : τ} {base : Nat} {bs : Bytes},
    Holds s base bs → Sink.position s = base + bs.length
  /-- An append extends what is held. -/
  append_eq : ∀ {s : τ} {base : Nat} {bs : Bytes} (data : Bytes), Holds s base bs →
    ∃ t, Sink.append s data = (.ok (base + bs.length), t) ∧ Holds t base (bs ++ data)
  /-- A patch replaces as many bytes of what is held. -/
  patch_eq : ∀ {s : τ} {base : Nat} {front old new back : Bytes},
    Holds s base (front ++ old ++ back) → new.length = old.length →
    ∃ t, Sink.patch s (base + front.length) new = (.ok (), t) ∧
      Holds t base (front ++ new ++ back)
  /-- Flushing keeps what is held. -/
  flush_holds : ∀ {s : τ} {base : Nat} {bs : Bytes}, Holds s base bs →
    Holds (Sink.flush s).2 base bs

namespace MemorySink

/-- What a sink in memory holds from a position on. -/
def Holds (s : MemorySink) (base : Nat) (bs : Bytes) : Prop :=
  ∃ before : Bytes, s.bytes = before ++ bs ∧ before.length = base

theorem holds_bytes (s : MemorySink) : s.Holds 0 s.bytes :=
  ⟨[], rfl, rfl⟩

private theorem Holds.size_eq {s : MemorySink} {base : Nat} {bs : Bytes} (h : s.Holds base bs) :
    s.contents.size = base + bs.length := by
  obtain ⟨before, hbytes, rfl⟩ := h
  simpa [bytes] using congrArg List.length hbytes

/-- From its start on, a sink in memory holds all of its bytes. -/
theorem Holds.bytes_eq {s : MemorySink} {bs : Bytes} (h : s.Holds 0 bs) : s.bytes = bs := by
  obtain ⟨before, hbytes, hlength⟩ := h
  obtain rfl := List.length_eq_zero_iff.1 hlength
  exact hbytes

private theorem Holds.append {s : MemorySink} {base : Nat} {bs : Bytes} (data : Bytes)
    (h : s.Holds base bs) :
    (s.append data).1 = .ok (base + bs.length) ∧ (s.append data).2.Holds base (bs ++ data) := by
  refine ⟨by rw [← h.size_eq]; rfl, ?_⟩
  obtain ⟨before, hbytes, hlen⟩ := h
  exact ⟨before, by rw [bytes_append, hbytes, List.append_assoc], hlen⟩

private theorem Holds.patch {s : MemorySink} {base : Nat} {front old new back : Bytes}
    (h : s.Holds base (front ++ old ++ back)) (hlen : new.length = old.length) :
    (s.patch (base + front.length) new).1 = .ok () ∧
      (s.patch (base + front.length) new).2.Holds base (front ++ new ++ back) := by
  have hfits : base + front.length + new.length ≤ s.contents.size := by
    simp only [h.size_eq, List.length_append]
    omega
  have hpatch : s.patch (base + front.length) new =
      (.ok (), ⟨Buffer.write s.contents (base + front.length) new⟩) := by
    rw [MemorySink.patch, Sink.patchFault?_eq_none_iff.2 hfits]
  obtain ⟨before, hbytes, rfl⟩ := h
  rw [hpatch]
  refine ⟨rfl, before, ?_, rfl⟩
  have hsplit : before ++ (front ++ old ++ back) = (before ++ front) ++ (old ++ back) := by
    simp only [List.append_assoc]
  rw [bytes] at hbytes
  rw [bytes, Buffer.toList_write, hbytes, hsplit, ← List.length_append, Buffer.place_append, hlen,
    List.drop_left]
  simp only [List.append_assoc]

instance : LawfulSink MemorySink where
  Holds := Holds
  holds_position {s base bs} h := ⟨s.bytes, by simp, rfl⟩
  position_eq h := h.size_eq
  append_eq data h := ⟨_, Prod.ext (h.append data).1 rfl, (h.append data).2⟩
  patch_eq h hlen := ⟨_, Prod.ext (h.patch hlen).1 rfl, (h.patch hlen).2⟩
  flush_holds h := h

end MemorySink

namespace ContinuedSink

/-- What a continued sink holds from a position on, which must not lie before its own start. -/
def Holds (s : ContinuedSink) (base : Nat) (bs : Bytes) : Prop :=
  s.base ≤ base ∧ s.tail.Holds (base - s.base) bs

theorem holds_tail (s : ContinuedSink) : s.Holds s.base s.tail.bytes :=
  ⟨Nat.le_refl _, by rw [Nat.sub_self]; exact s.tail.holds_bytes⟩

private theorem Holds.position_eq {s : ContinuedSink} {base : Nat} {bs : Bytes}
    (h : s.Holds base bs) : s.position = base + bs.length := by
  obtain ⟨hle, htail⟩ := h
  rw [position, htail.size_eq]
  omega

private theorem Holds.from_position {s : ContinuedSink} {base : Nat} {bs : Bytes}
    (_ : s.Holds base bs) : s.Holds s.position [] := by
  refine ⟨Nat.le_add_right _ _, s.tail.bytes, by simp, ?_⟩
  simp [position, MemorySink.bytes]

private theorem Holds.append {s : ContinuedSink} {base : Nat} {bs : Bytes} (data : Bytes)
    (h : s.Holds base bs) :
    (s.append data).1 = .ok (base + bs.length) ∧ (s.append data).2.Holds base (bs ++ data) :=
  ⟨congrArg Except.ok h.position_eq, h.1, (h.2.append data).2⟩

private theorem Holds.patch {s : ContinuedSink} {base : Nat} {front old new back : Bytes}
    (h : s.Holds base (front ++ old ++ back)) (hlen : new.length = old.length) :
    (s.patch (base + front.length) new).1 = .ok () ∧
      (s.patch (base + front.length) new).2.Holds base (front ++ new ++ back) := by
  have hpos := h.position_eq
  have hle := h.1
  simp only [List.length_append] at hpos
  have hrange : s.base ≤ base + front.length ∧
      base + front.length + new.length ≤ s.position := by
    constructor
    · omega
    · omega
  have hoffset : base + front.length - s.base = base - s.base + front.length := by omega
  rw [ContinuedSink.patch, if_pos hrange]
  refine ⟨rfl, hle, ?_⟩
  rw [hoffset]
  exact (h.2.patch hlen).2

instance : LawfulSink ContinuedSink where
  Holds := Holds
  holds_position h := h.from_position
  position_eq h := h.position_eq
  append_eq data h := ⟨_, Prod.ext (h.append data).1 rfl, (h.append data).2⟩
  patch_eq h hlen := ⟨_, Prod.ext (h.patch hlen).1 rfl, (h.patch hlen).2⟩
  flush_holds h := h

end ContinuedSink

namespace File

theorem bytes_store (f : File) (data : Bytes) :
    (f.store data).bytes = Buffer.place f.bytes f.cursor data :=
  Buffer.toList_write _ _ _

theorem write_of_growable {f : File} (h : f.growable = true) (data : Bytes) :
    f.write data = (.ok (), f.store data) := by
  simp [write, fitting, h]

end File

namespace SeekableSink

/-- What a sink over a growable file holds from a position on. The cursor of the file stands behind
the last byte appended. -/
structure Holds (s : SeekableSink) (base : Nat) (bs : Bytes) : Prop where
  growable : s.file.growable = true
  cursor_eq : s.file.cursor = s.origin + s.position
  position_eq : s.position = base + bs.length
  standsAt : s.file.bytes.StandsAt (s.origin + base) bs

instance : LawfulSink SeekableSink where
  Holds := Holds
  holds_position h := ⟨h.growable, h.cursor_eq, rfl, Bytes.standsAt_nil _ _⟩
  position_eq h := h.position_eq
  append_eq {s base bs} data h := by
    have happend : s.append data = (.ok s.position,
        { s with file := s.file.store data, position := s.position + data.length }) := by
      rw [append, File.write_of_growable h.growable]
    rw [← h.position_eq]
    refine ⟨_, happend, h.growable, ?_, ?_, ?_⟩
    · simp only [File.store, h.cursor_eq, Nat.add_assoc]
    · simp only [h.position_eq, List.length_append, Nat.add_assoc]
    · rw [File.bytes_store]
      exact h.standsAt.place_behind data (by rw [h.cursor_eq, h.position_eq, Nat.add_assoc])
  patch_eq {s base front old new back} h hlen := by
    have hfits : base + front.length + new.length ≤ s.position := by
      simp only [h.position_eq, List.length_append]
      omega
    have hpatch : s.patch (base + front.length) new = (.ok (),
        { s with
          file := ((s.file.seek (s.origin + (base + front.length))).store new).seek
            (s.origin + s.position) }) := by
      have hseek : (s.file.seek (s.origin + (base + front.length))).growable = true := h.growable
      simp only [patch, Sink.patchFault?_eq_none_iff.2 hfits, File.write_of_growable hseek]
    refine ⟨_, hpatch, h.growable, rfl, ?_, ?_⟩
    · simp only [h.position_eq, List.length_append, hlen]
    · exact (File.bytes_store _ new) ▸
        h.standsAt.place_inside hlen (Nat.add_assoc _ _ _).symm
  flush_holds h := h

end SeekableSink

end ZipArchive
