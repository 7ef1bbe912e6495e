import ZipArchive.Extra.Alignment
import ZipArchive.Extra.Ownership
import ZipArchive.Extra.Timestamp

/-!
# Payloads read where they stand

A record that is read along its buffer has a cursor that it must not move out of the payload. What
lies between the cursor and the end of the payload is what is left when bytes are taken off the
front of the payload, so that both ways of reading go on in step: `Agrees`. It follows for each
record that is read in this way that it answers to a span of a buffer as it does to the payload
taken out of it: `Timestamp.parse_localHeader`, `Timestamp.parse_central`,
`Ownership.parse_localHeader`, `Alignment.parse_localHeader` and `Alignment.parse_central`.
-/

namespace ZipArchive

namespace Buffer

variable {a : Array UInt8} {start stop : Nat}

/-- The bytes of the array from one position up to another. -/
def window (a : Array UInt8) (start stop : Nat) : Bytes :=
  (a.extract start stop).toList

theorem span_eq_window {offset length : Nat} (h : offset + length ≤ a.size) :
    span a offset length = .ok (window a offset (offset + length)) :=
  if_pos h

theorem length_window (hstop : stop ≤ a.size) : (window a start stop).length = stop - start := by
  rw [window, Array.length_toList, Array.size_extract, Nat.min_eq_left hstop]

private theorem take_window {n : Nat} (h : start + n ≤ stop) :
    (window a start stop).take n = window a start (start + n) := by
  simp only [window, Array.toList_extract, List.extract_eq_take_drop, List.take_take]
  rw [Nat.add_sub_cancel_left, Nat.min_eq_left (by omega)]

private theorem drop_window (n : Nat) :
    (window a start stop).drop n = window a (start + n) stop := by
  simp only [window, Array.toList_extract, List.extract_eq_take_drop]
  rw [List.drop_take, List.drop_drop, Nat.sub_sub]

private theorem window_self (position : Nat) : window a position position = [] := by
  simp [window]

private theorem isEmpty_window (hstart : start ≤ stop) (hstop : stop ≤ a.size) :
    (window a start stop).isEmpty = true ↔ start = stop := by
  rw [List.isEmpty_iff_length_eq_zero, length_window hstop]
  omega

/-- The first byte of a window, and those behind it. -/
theorem window_eq_cons (hstart : start < stop) (hstop : stop ≤ a.size) :
    ∃ b, byte a start = .ok b ∧ window a start stop = b :: window a (start + 1) stop := by
  have hlt : start < a.size := Nat.lt_of_lt_of_le hstart hstop
  have hlength : stop - start = stop - (start + 1) + 1 := by omega
  refine ⟨a[start], by rw [byte, Array.getElem?_eq_getElem hlt], ?_⟩
  simp only [window, Array.toList_extract, List.extract_eq_take_drop]
  rw [List.drop_eq_getElem_cons (by simpa using hlt), hlength, List.take_succ_cons,
    Array.getElem_toList]

end Buffer

namespace Extra

open Buffer (window)

variable {buf : Array UInt8} {start stop cursor offset length : Nat}

/-! ### Reading in step -/

/-- A reading that moves a cursor and one that takes bytes off the front come to the same, and what
is left of the bytes is what lies between the cursor and `stop`. -/
inductive Agrees {α : Type} (buf : Array UInt8) (stop : Nat) :
    Except Fault (α × Nat) → Except Fault (α × Bytes) → Prop
  | ok (a : α) {cursor : Nat} (h : cursor ≤ stop) :
      Agrees buf stop (.ok (a, cursor)) (.ok (a, window buf cursor stop))
  | error (e : Fault) : Agrees buf stop (.error e) (.error e)

/-- Readings that go on alike after a step come to the same. -/
theorem Agrees.bind_eq {α β : Type} {x : Except Fault (α × Nat)} {y : Except Fault (α × Bytes)}
    (h : Agrees buf stop x y) {f : α × Nat → Except Fault β} {g : α × Bytes → Except Fault β}
    (hfg : ∀ a cursor, cursor ≤ stop → f (a, cursor) = g (a, window buf cursor stop)) :
    x >>= f = y >>= g := by
  cases h with
  | ok a hcursor => exact hfg a _ hcursor
  | error e => rfl

/-- A payload is read where it stands as it is read by itself. -/
theorem inPlace_eq_inSpan {ρ : Type} (r : ρ) {readAt : Nat → Nat → Except Fault ρ}
    {read : Bytes → Except Fault ρ}
    (h : ∀ {start stop}, start ≤ stop → stop ≤ buf.size →
      readAt start stop = read (window buf start stop)) :
    inPlace r buf offset length readAt =
      inSpan r buf offset length fun payload => Outcome.ofExcept r (read payload) := by
  rw [inPlace, inSpan]
  by_cases hfits : offset + length ≤ buf.size
  · rw [Buffer.span_eq_window hfits]
    exact congrArg (Outcome.ofExcept r) (h (Nat.le_add_right ..) hfits)
  · rw [Buffer.span, if_neg hfits]
    rfl

/-! ### Timestamps -/

namespace Timestamp

private theorem agrees_timeAt (hstop : stop ≤ buf.size) (hcursor : cursor ≤ stop)
    (flags bit : UInt8) : Agrees buf stop (timeAt buf stop flags bit cursor)
      (takeTime flags bit (window buf cursor stop)) := by
  rw [timeAt, takeTime]
  split
  case isTrue => exact .ok none hcursor
  case isFalse =>
    rw [Buffer.length_window hstop]
    by_cases hroom : stop < cursor + 4
    · rw [if_pos hroom, if_pos (by omega)]
      exact .error _
    · rw [if_neg hroom, if_neg (by omega), Buffer.span_eq_window (by omega),
        Buffer.take_window (by omega), Buffer.drop_window]
      exact .ok _ (by omega)

private theorem endAt_eq_atEnd (hstop : stop ≤ buf.size) (hcursor : cursor ≤ stop) :
    endAt stop cursor = atEnd (window buf cursor stop) := by
  have hend := Buffer.isEmpty_window hcursor hstop
  rw [endAt, atEnd, Buffer.length_window hstop]
  simp only [hend]

private theorem localAt_eq_ofLocal (hstart : start ≤ stop) (hstop : stop ≤ buf.size) :
    localAt buf start stop = ofLocal (window buf start stop) := by
  rw [localAt]
  split
  case isTrue hempty =>
    subst hempty
    rw [Buffer.window_self]
    rfl
  case isFalse hne =>
    obtain ⟨flags, hflags, hcons⟩ := Buffer.window_eq_cons (by omega : start < stop) hstop
    rw [hflags, hcons]
    refine (agrees_timeAt hstop (by omega) flags modifyBit).bind_eq fun modify? c₁ h₁ => ?_
    refine (agrees_timeAt hstop h₁ flags accessBit).bind_eq fun access? c₂ h₂ => ?_
    refine (agrees_timeAt hstop h₂ flags createBit).bind_eq fun create? c₃ h₃ => ?_
    dsimp only
    rw [endAt_eq_atEnd hstop h₃]

private theorem centralAt_eq_withCentral (t : Timestamp) (hstart : start ≤ stop)
    (hstop : stop ≤ buf.size) :
    t.centralAt buf start stop = t.withCentral (window buf start stop) := by
  rw [centralAt]
  split
  case isTrue hempty =>
    subst hempty
    rw [Buffer.window_self]
    rfl
  case isFalse hne =>
    obtain ⟨flags, hflags, hcons⟩ := Buffer.window_eq_cons (by omega : start < stop) hstop
    rw [hflags, hcons]
    refine (agrees_timeAt hstop (by omega) flags modifyBit).bind_eq fun modify? c₁ h₁ => ?_
    dsimp only
    rw [endAt_eq_atEnd hstop h₁]

theorem parse_localHeader (t : Timestamp) (buf : Array UInt8) (offset length : Nat) :
    Record.parse .localHeader t buf offset length =
      inSpan t buf offset length fun payload => Outcome.ofExcept t (ofLocal payload) :=
  inPlace_eq_inSpan t localAt_eq_ofLocal

theorem parse_central (t : Timestamp) (buf : Array UInt8) (offset length : Nat) :
    Record.parse .central t buf offset length =
      inSpan t buf offset length fun payload => Outcome.ofExcept t (t.withCentral payload) :=
  inPlace_eq_inSpan t t.centralAt_eq_withCentral

end Timestamp

/-! ### Owners -/

namespace Ownership

private theorem agrees_idAt (hstop : stop ≤ buf.size) (hcursor : cursor ≤ stop) :
    Agrees buf stop (idAt buf stop cursor) (takeId (window buf cursor stop)) := by
  rw [idAt]
  split
  case isTrue hend =>
    obtain rfl := Nat.le_antisymm hcursor hend
    rw [Buffer.window_self]
    exact .error _
  case isFalse hlt =>
    obtain ⟨size, hsize, hcons⟩ := Buffer.window_eq_cons (by omega : cursor < stop) hstop
    rw [hsize, hcons, takeId, Buffer.length_window hstop]
    show Agrees buf stop (if _ then _ else _) _
    by_cases hroom : stop < cursor + 1 + size.toNat
    · rw [if_pos hroom, if_pos (by omega)]
      exact .error _
    · rw [if_neg hroom, if_neg (by omega), Buffer.span_eq_window (by omega),
        Buffer.take_window (by omega), Buffer.drop_window]
      exact .ok _ (by omega)

private theorem localAt_eq_withLocal (o : Ownership) (hstart : start ≤ stop)
    (hstop : stop ≤ buf.size) : o.localAt buf start stop = o.withLocal (window buf start stop) := by
  rw [localAt]
  split
  case isTrue hempty =>
    subst hempty
    rw [Buffer.window_self]
    rfl
  case isFalse hne =>
    obtain ⟨version, hversion, hcons⟩ := Buffer.window_eq_cons (by omega : start < stop) hstop
    rw [hversion, hcons]
    refine (agrees_idAt hstop (by omega)).bind_eq fun user c₁ h₁ => ?_
    refine (agrees_idAt hstop h₁).bind_eq fun group c₂ h₂ => ?_
    have hend := Buffer.isEmpty_window h₂ hstop
    simp only [hend, Buffer.length_window hstop]

theorem parse_localHeader (o : Ownership) (buf : Array UInt8) (offset length : Nat) :
    Record.parse .localHeader o buf offset length =
      inSpan o buf offset length fun payload => Outcome.ofExcept o (o.withLocal payload) :=
  inPlace_eq_inSpan o o.localAt_eq_withLocal

end Ownership

/-! ### Requests for alignment -/

namespace Alignment

/-- Reads a payload of two bytes at least. A shorter one is refused before its span is looked at. -/
def atLeastWord (a : Alignment) (buf : Array UInt8) (offset length : Nat)
    (read : Bytes → Alignment) : Outcome Alignment Unit :=
  if length < 2 then (.error (malformed s!"need at least 2 bytes, found {length}"), a)
  else inSpan a buf offset length fun payload => (.ok (), read payload)

/-- The word of a payload is that of its first two bytes. -/
theorem withWord_take_two (a : Alignment) (payload : Bytes) :
    a.withWord (payload.take 2) = a.withWord payload := by
  simp only [withWord, List.take_take, Nat.min_self]

private theorem wordAt_of_le (a : Alignment) (buf : Array UInt8) (offset : Nat) (h : 2 ≤ length) :
    a.wordAt buf offset length = a.withWord <$> Buffer.span buf offset length := by
  rw [wordAt, if_neg (Nat.not_lt.2 h)]
  by_cases hfits : offset + length ≤ buf.size
  · rw [Buffer.span_eq_window hfits, Buffer.span_eq_window (by omega),
      ← Buffer.take_window (by omega : offset + 2 ≤ offset + length)]
    exact congrArg Except.ok (withWord_take_two a _)
  · rw [Buffer.span, if_neg hfits]
    rfl

theorem parse_localHeader (a : Alignment) (buf : Array UInt8) (offset length : Nat) :
    Record.parse .localHeader a buf offset length =
      a.atLeastWord buf offset length fun payload =>
        { a.withWord payload with padding := payload.length - 2 } := by
  show Outcome.ofExcept a (a.wordAt buf offset length >>= _) = _
  rw [atLeastWord]
  split
  case isTrue hshort =>
    rw [wordAt, if_pos hshort]
    rfl
  case isFalse hlength =>
    rw [wordAt_of_le a buf offset (Nat.not_lt.1 hlength), inSpan]
    cases hspan : Buffer.span buf offset length with
    | error e => rfl
    | ok payload =>
      rw [Buffer.span_eq_span_toList] at hspan
      obtain rfl := Bytes.length_of_span hspan
      rfl

theorem parse_central (a : Alignment) (buf : Array UInt8) (offset length : Nat) :
    Record.parse .central a buf offset length =
      a.atLeastWord buf offset length a.withWord := by
  show Outcome.ofExcept a (a.wordAt buf offset length) = _
  rw [atLeastWord]
  split
  case isTrue hshort =>
    rw [wordAt, if_pos hshort]
    rfl
  case isFalse hlength =>
    rw [wordAt_of_le a buf offset (Nat.not_lt.1 hlength), inSpan]
    cases Buffer.span buf offset length with
    | error e => rfl
    | ok payload => rfl

end Alignment

end Extra

end ZipArchive
