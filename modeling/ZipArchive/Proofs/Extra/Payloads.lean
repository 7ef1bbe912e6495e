import ZipArchive.Proofs.Extra.Reachable
import ZipArchive.Proofs.Extra.UnicodeText
import ZipArchive.Proofs.Extra.Zip64
import ZipArchive.Proofs.Extra.Alignment

/-!
# Payloads are written as they are read

The records of this library read a span of a buffer by its bytes alone, `Field.ReadsSpan`, so that
a payload is read as it is by itself wherever it stands: `Field.parse_of_span`. What a field becomes
by reading a payload is said once for each kind, `Field.ReadsTo`, and this is all that there is to
it: `Field.readsTo_of_read` and `Field.read_of_readsTo`. It follows that the payload is written
again, `Field.ReadsTo.data_eq`, but for a request for alignment, of which only the word is kept:
`Field.kept`.
-/

namespace ZipArchive.Extra

variable {κ : Type} {place : Place} {payload : Bytes}

private theorem of_inSpan_self {ρ : Type} {r s : ρ} {read : Bytes → Outcome ρ Unit}
    (h : inSpan r payload.toArray 0 payload.length read = (.ok (), s)) :
    read payload = (.ok (), s) :=
  (inSpan_self r payload read).symm.trans h

private theorem mapState_inSpan_eq {ρ σ : Type} (make : ρ → σ) (r : ρ) (buf : Array UInt8)
    (offset length : Nat) (read : Bytes → Outcome ρ Unit) :
    (inSpan r buf offset length read).mapState make =
      inSpan (make r) buf offset length fun payload => (read payload).mapState make := by
  rw [inSpan, inSpan]
  split
  · rfl
  · rfl

/-- What is written of the payload of a request for alignment that was read: the word, followed in
the local header by as many zeros as there were bytes behind it. -/
def Alignment.kept (place : Place) (payload : Bytes) : Bytes :=
  match place with
  | .localHeader => payload.take 2 ++ List.replicate (payload.length - 2) 0
  | .central => payload.take 2

/-- No more of a payload is kept than there is. -/
theorem Alignment.length_kept_le (place : Place) (payload : Bytes) :
    (Alignment.kept place payload).length ≤ payload.length := by
  cases place with
  | localHeader =>
    rw [kept, List.length_append, List.length_take, List.length_replicate]
    omega
  | central => exact List.length_take_le' 2 payload

namespace Field

/-- The field is no record of a caller's own. -/
def IsOwn : Field κ → Prop
  | custom _ => False
  | boxed _ => False
  | _ => True

/-- The field is a record of this library, even if it is kept as one of a caller's own. -/
def IsBuiltin : Field κ → Prop
  | custom _ => False
  | boxed f => f.IsBuiltin
  | _ => True

/-- The record, without what it is kept in. -/
def unboxed : Field κ → Field κ
  | boxed f => f.unboxed
  | f => f

theorem IsOwn.isBuiltin {f : Field κ} (h : f.IsOwn) : f.IsBuiltin := by
  cases f with
  | custom r => exact h
  | boxed f => exact h.elim
  | _ => trivial

/-- What is written of a payload that was read: all of it, but for a request for alignment. -/
def kept (place : Place) (f : Field κ) (payload : Bytes) : Bytes :=
  match f with
  | alignment _ => Alignment.kept place payload
  | _ => payload

/-- From a payload the first field becomes the second. -/
inductive ReadsTo (payload : Bytes) : Place → Field κ → Field κ → Prop
  | zip64Local {z z' : Zip64} (h : Zip64.ofLocal payload = .ok z') :
      ReadsTo payload .localHeader (.zip64 z) (.zip64 z')
  | zip64Central {z z' : Zip64} (h : Zip64.ofCentral payload = .ok z') :
      ReadsTo payload .central (.zip64 z) (.zip64 z')
  | timestampLocal {t t' : Timestamp} (h : Timestamp.ofLocal payload = .ok t') :
      ReadsTo payload .localHeader (.timestamp t) (.timestamp t')
  | timestampCentral {t t' : Timestamp} (h : t.withCentral payload = .ok t') :
      ReadsTo payload .central (.timestamp t) (.timestamp t')
  | ownershipLocal {o o' : Ownership} (h : o.withLocal payload = .ok o') :
      ReadsTo payload .localHeader (.ownership o) (.ownership o')
  | ownershipCentral (o : Ownership) :
      ReadsTo payload .central (.ownership o) (.ownership { o with centralCopy? := some payload })
  | unicodePath (place : Place) {u u' : UnicodeText}
      (h : UnicodeText.ofPayload UnicodeText.pathId payload = .ok u') :
      ReadsTo payload place (.unicodePath u) (.unicodePath u')
  | unicodeComment (place : Place) {u u' : UnicodeText}
      (h : UnicodeText.ofPayload UnicodeText.commentId payload = .ok u') :
      ReadsTo payload place (.unicodeComment u) (.unicodeComment u')
  | alignmentLocal (a : Alignment) (h : 2 ≤ payload.length) :
      ReadsTo payload .localHeader (.alignment a)
        (.alignment { a.withWord payload with padding := payload.length - 2 })
  | alignmentCentral (a : Alignment) (h : 2 ≤ payload.length) :
      ReadsTo payload .central (.alignment a) (.alignment (a.withWord payload))
  | jarMarker (place : Place) (m : JarMarker) (h : payload = []) :
      ReadsTo payload place (.jarMarker m) (.jarMarker m)
  | certificateLocal (o : Opaque) :
      ReadsTo payload .localHeader (.certificate o) (.certificate (o.setLocal payload))
  | certificateCentral (o : Opaque) :
      ReadsTo payload .central (.certificate o) (.certificate (o.withCentral payload))
  | unrecognizedLocal (o : Opaque) :
      ReadsTo payload .localHeader (.unrecognized o) (.unrecognized (o.setLocal payload))
  | unrecognizedCentral (o : Opaque) :
      ReadsTo payload .central (.unrecognized o) (.unrecognized (o.withCentral payload))
  | leftoverLocal (l : Leftover) :
      ReadsTo payload .localHeader (.leftover l) (.leftover { l with localCopy := payload })
  | leftoverCentral (l : Leftover) :
      ReadsTo payload .central (.leftover l) (.leftover { l with centralCopy? := some payload })

variable [Record κ]

/-- Reads a payload that stands by itself. -/
def read (place : Place) (f : Field κ) (payload : Bytes) : Outcome (Field κ) Unit :=
  f.parse place payload.toArray 0 payload.length

/-- Payloads are read by their bytes alone. Those that are too short may be refused before that,
without a look at the buffer. -/
def ReadsSpan (place : Place) (f : Field κ) : Prop :=
  ∃ (least : Nat) (short : Nat → String) (read : Bytes → Outcome (Field κ) Unit),
    ∀ buf offset length, f.parse place buf offset length =
      if length < least then (.error (.malformedRecord f.id (short length)), f)
      else inSpan f buf offset length read

namespace ReadsSpan

variable {f : Field κ}

private theorem of_inSpan {ρ : Type} {r : ρ} (make : ρ → Field κ) {read : Bytes → Outcome ρ Unit}
    (h : ∀ buf offset length, (make r).parse place buf offset length =
      (inSpan r buf offset length read).mapState make) : (make r).ReadsSpan place := by
  refine ⟨0, fun _ => "", fun payload => (read payload).mapState make, fun buf offset length => ?_⟩
  rw [if_neg (Nat.not_lt_zero length), h, mapState_inSpan_eq]

private theorem of_atLeastWord {a : Alignment} {read : Bytes → Alignment}
    (h : ∀ buf offset length, Record.parse place a buf offset length =
      a.atLeastWord buf offset length read) : (alignment a : Field κ).ReadsSpan place := by
  refine ⟨2, fun length => s!"need at least 2 bytes, found {length}",
    fun payload => (.ok (), alignment (read payload)), fun buf offset length => ?_⟩
  rw [parse, h, Alignment.atLeastWord, apply_ite (Outcome.mapState alignment), mapState_inSpan_eq]
  rfl

private theorem boxed (h : f.ReadsSpan place) : (boxed f).ReadsSpan place := by
  obtain ⟨least, short, read, h⟩ := h
  refine ⟨least, short, fun payload => (read payload).mapState .boxed,
    fun buf offset length => ?_⟩
  rw [parse, h, apply_ite (Outcome.mapState Field.boxed), mapState_inSpan_eq]
  rfl

/-- Spans of the same bytes are read alike, in whichever buffers they are. -/
theorem parse_eq_parse (h : f.ReadsSpan place) {buf other : Array UInt8} {offset start length : Nat}
    (hspan : Buffer.span buf offset length = Buffer.span other start length) :
    f.parse place buf offset length = f.parse place other start length := by
  obtain ⟨least, short, read, h⟩ := h
  rw [h, h, inSpan, inSpan, hspan]

end ReadsSpan

/-- The records of this library are read by the bytes of their payload alone, but for the marker of
a jar, which looks at the length. -/
theorem readsSpan {f : Field κ} (hf : f.IsBuiltin) (hmarker : ∀ m, f.unboxed ≠ .jarMarker m)
    (place : Place) : f.ReadsSpan place := by
  induction f with
  | custom r => exact hf.elim
  | jarMarker m => exact absurd rfl (hmarker m)
  | boxed f ih => exact (ih hf hmarker).boxed
  | alignment a =>
    cases place with
    | localHeader => exact .of_atLeastWord a.parse_localHeader
    | central => exact .of_atLeastWord a.parse_central
  | timestamp t =>
    cases place with
    | localHeader =>
      exact .of_inSpan timestamp fun buf offset length => congrArg _ (t.parse_localHeader ..)
    | central =>
      exact .of_inSpan timestamp fun buf offset length => congrArg _ (t.parse_central ..)
  | ownership o =>
    cases place with
    | localHeader =>
      exact .of_inSpan ownership fun buf offset length => congrArg _ (o.parse_localHeader ..)
    | central => exact .of_inSpan ownership fun _ _ _ => rfl
  | unicodePath u => exact .of_inSpan unicodePath fun _ _ _ => rfl
  | unicodeComment u => exact .of_inSpan unicodeComment fun _ _ _ => rfl
  | zip64 z => cases place <;> exact .of_inSpan zip64 fun _ _ _ => rfl
  | certificate o => cases place <;> exact .of_inSpan certificate fun _ _ _ => rfl
  | unrecognized o => cases place <;> exact .of_inSpan unrecognized fun _ _ _ => rfl
  | leftover l => cases place <;> exact .of_inSpan leftover fun _ _ _ => rfl

/-- A payload is read in a buffer as it is by itself. -/
theorem parse_of_span {f : Field κ} (hf : f.IsBuiltin) {buf : Array UInt8} {offset : Nat}
    (hspan : Buffer.span buf offset payload.length = .ok payload) :
    f.parse place buf offset payload.length = f.read place payload := by
  have hself : Buffer.span payload.toArray 0 payload.length = .ok payload := by
    rw [Buffer.span_eq_span_toList, Bytes.span_self]
  induction f with
  | custom r => exact hf.elim
  | boxed f ih => exact congrArg (Outcome.mapState Field.boxed) (ih hf)
  | jarMarker m => cases place <;> rfl
  | _ => exact (readsSpan hf nofun place).parse_eq_parse (hspan.trans hself.symm)

private theorem atLeastWord_self (a : Alignment) (h : 2 ≤ payload.length)
    (read : Bytes → Alignment) :
    a.atLeastWord payload.toArray 0 payload.length read = (.ok (), read payload) := by
  rw [Alignment.atLeastWord, if_neg (Nat.not_lt.2 h)]
  exact inSpan_self a payload _

private theorem of_atLeastWord {a b : Alignment} {read : Bytes → Alignment}
    (h : a.atLeastWord payload.toArray 0 payload.length read = (.ok (), b)) :
    2 ≤ payload.length ∧ read payload = b := by
  rw [Alignment.atLeastWord] at h
  split at h
  case isTrue => cases h
  case isFalse hlength => exact ⟨Nat.not_lt.1 hlength, congrArg Prod.snd (of_inSpan_self h)⟩

/-- What a field of this library becomes by reading a payload. -/
theorem readsTo_of_read {f g : Field κ} (hf : f.IsOwn)
    (h : f.read place payload = (.ok (), g)) : ReadsTo payload place f g := by
  cases f with
  | custom r => exact hf.elim
  | boxed f => exact hf.elim
  | zip64 z =>
    obtain ⟨z', hz, rfl⟩ := mapState_eq_ok_iff.1 h
    cases place with
    | localHeader => exact .zip64Local (ofExcept_eq_ok_iff.1 (of_inSpan_self hz))
    | central => exact .zip64Central (ofExcept_eq_ok_iff.1 (of_inSpan_self hz))
  | timestamp t =>
    obtain ⟨t', ht, rfl⟩ := mapState_eq_ok_iff.1 h
    cases place with
    | localHeader =>
      rw [t.parse_localHeader] at ht
      exact .timestampLocal (ofExcept_eq_ok_iff.1 (of_inSpan_self ht))
    | central =>
      rw [t.parse_central] at ht
      exact .timestampCentral (ofExcept_eq_ok_iff.1 (of_inSpan_self ht))
  | ownership o =>
    obtain ⟨o', ho, rfl⟩ := mapState_eq_ok_iff.1 h
    cases place with
    | localHeader =>
      rw [o.parse_localHeader] at ho
      exact .ownershipLocal (ofExcept_eq_ok_iff.1 (of_inSpan_self ho))
    | central =>
      obtain rfl := congrArg Prod.snd (of_inSpan_self ho)
      exact .ownershipCentral o
  | unicodePath u =>
    obtain ⟨u', hu, rfl⟩ := mapState_eq_ok_iff.1 h
    exact .unicodePath place (ofExcept_eq_ok_iff.1 (of_inSpan_self hu))
  | unicodeComment u =>
    obtain ⟨u', hu, rfl⟩ := mapState_eq_ok_iff.1 h
    exact .unicodeComment place (ofExcept_eq_ok_iff.1 (of_inSpan_self hu))
  | alignment a =>
    obtain ⟨a', ha, rfl⟩ := mapState_eq_ok_iff.1 h
    cases place with
    | localHeader =>
      rw [a.parse_localHeader] at ha
      obtain ⟨hlength, rfl⟩ := of_atLeastWord ha
      exact .alignmentLocal a hlength
    | central =>
      rw [a.parse_central] at ha
      obtain ⟨hlength, rfl⟩ := of_atLeastWord ha
      exact .alignmentCentral a hlength
  | jarMarker m =>
    obtain ⟨m', hm, rfl⟩ := mapState_eq_ok_iff.1 h
    have hparse : m.parse payload.length = (.ok (), m') := by cases place <;> exact hm
    rw [JarMarker.parse] at hparse
    split at hparse
    case isTrue hlength => exact .jarMarker place m (List.length_eq_zero_iff.1 hlength)
    case isFalse => cases hparse
  | certificate o =>
    obtain ⟨o', ho, rfl⟩ := mapState_eq_ok_iff.1 h
    cases place with
    | localHeader =>
      obtain rfl := congrArg Prod.snd (of_inSpan_self ho)
      exact .certificateLocal o
    | central =>
      obtain rfl := congrArg Prod.snd (of_inSpan_self ho)
      exact .certificateCentral o
  | unrecognized o =>
    obtain ⟨o', ho, rfl⟩ := mapState_eq_ok_iff.1 h
    cases place with
    | localHeader =>
      obtain rfl := congrArg Prod.snd (of_inSpan_self ho)
      exact .unrecognizedLocal o
    | central =>
      obtain rfl := congrArg Prod.snd (of_inSpan_self ho)
      exact .unrecognizedCentral o
  | leftover l =>
    obtain ⟨l', hl, rfl⟩ := mapState_eq_ok_iff.1 h
    cases place with
    | localHeader =>
      obtain rfl := congrArg Prod.snd (of_inSpan_self hl)
      exact .leftoverLocal l
    | central =>
      obtain rfl := congrArg Prod.snd (of_inSpan_self hl)
      exact .leftoverCentral l

omit [Record κ] in
private theorem mapState_inSpan_self {ρ : Type} {r s : ρ} (make : ρ → Field κ)
    {read : Bytes → Outcome ρ Unit} (h : read payload = (.ok (), s)) :
    (inSpan r payload.toArray 0 payload.length read).mapState make = (.ok (), make s) := by
  rw [inSpan_self, h]
  rfl

/-- What a field becomes by reading a payload is all that there is to reading it. -/
theorem read_of_readsTo {f g : Field κ} (h : ReadsTo payload place f g) :
    f.read place payload = (.ok (), g) := by
  cases h with
  | zip64Local h => exact mapState_inSpan_self .zip64 (ofExcept_eq_ok_iff.2 h)
  | zip64Central h => exact mapState_inSpan_self .zip64 (ofExcept_eq_ok_iff.2 h)
  | timestampLocal h =>
    rw [read, parse, Timestamp.parse_localHeader]
    exact mapState_inSpan_self .timestamp (ofExcept_eq_ok_iff.2 h)
  | timestampCentral h =>
    rw [read, parse, Timestamp.parse_central]
    exact mapState_inSpan_self .timestamp (ofExcept_eq_ok_iff.2 h)
  | ownershipLocal h =>
    rw [read, parse, Ownership.parse_localHeader]
    exact mapState_inSpan_self .ownership (ofExcept_eq_ok_iff.2 h)
  | ownershipCentral o => exact mapState_inSpan_self .ownership rfl
  | unicodePath place h => exact mapState_inSpan_self .unicodePath (ofExcept_eq_ok_iff.2 h)
  | unicodeComment place h => exact mapState_inSpan_self .unicodeComment (ofExcept_eq_ok_iff.2 h)
  | alignmentLocal a h =>
    rw [read, parse, a.parse_localHeader, atLeastWord_self a h]
    rfl
  | alignmentCentral a h =>
    rw [read, parse, a.parse_central, atLeastWord_self a h]
    rfl
  | jarMarker place m h =>
    subst h
    cases place <;> rfl
  | certificateLocal o => exact mapState_inSpan_self .certificate rfl
  | certificateCentral o => exact mapState_inSpan_self .certificate rfl
  | unrecognizedLocal o => exact mapState_inSpan_self .unrecognized rfl
  | unrecognizedCentral o => exact mapState_inSpan_self .unrecognized rfl
  | leftoverLocal l => exact mapState_inSpan_self .leftover rfl
  | leftoverCentral l => exact mapState_inSpan_self .leftover rfl

namespace ReadsTo

variable {f g : Field κ}

omit [Record κ] in
theorem isOwn (h : ReadsTo payload place f g) : g.IsOwn := by
  cases h <;> trivial

omit [Record κ] in
private theorem isBuiltin (h : ReadsTo payload place f g) : f.IsBuiltin := by
  cases h <;> trivial

/-- What a field becomes by reading a payload, it becomes wherever the payload stands. -/
theorem parse_eq (h : ReadsTo payload place f g) {buf : Array UInt8} {offset : Nat}
    (hspan : Buffer.span buf offset payload.length = .ok payload) :
    f.parse place buf offset payload.length = (.ok (), g) :=
  (parse_of_span h.isBuiltin hspan).trans (read_of_readsTo h)

omit [Record κ] in
theorem isLeftover_eq (h : ReadsTo payload place f g) : g.isLeftover = f.isLeftover := by
  cases h <;> rfl

theorem id_withCentral (o : Opaque) (payload : Bytes) : (o.withCentral payload).id = o.id := by
  rw [Opaque.withCentral]
  split <;> rfl

/-- Reading a payload does not change the id. -/
theorem id_eq (h : ReadsTo payload place f g) : g.id = f.id := by
  cases h with
  | certificateCentral o => exact id_withCentral o payload
  | unrecognizedCentral o => exact id_withCentral o payload
  | _ => rfl

private theorem centralData_withCentral (o : Opaque) (payload : Bytes) :
    Record.centralData (o.withCentral payload) = payload := by
  rw [Opaque.withCentral]
  split <;> rfl

/-- What is read is written again, as far as it is kept. -/
theorem data_eq (h : ReadsTo payload place f g) : g.data place = f.kept place payload := by
  cases h with
  | zip64Local h => exact Zip64.localData_of_ofLocal h
  | zip64Central h => exact Zip64.centralData_of_ofCentral h
  | timestampLocal h => exact Timestamp.localData_of_ofLocal h
  | timestampCentral h => exact Timestamp.centralData_of_withCentral h
  | ownershipLocal h => exact Ownership.localData_of_withLocal h
  | ownershipCentral o => rfl
  | unicodePath place h => exact UnicodeText.payload_of_ofPayload h
  | unicodeComment place h => exact UnicodeText.payload_of_ofPayload h
  | alignmentLocal a h => exact congrArg (· ++ _) (a.bytes16_word_withWord h)
  | alignmentCentral a h => exact a.bytes16_word_withWord h
  | jarMarker place m h =>
    subst h
    cases place <;> rfl
  | certificateLocal o => rfl
  | certificateCentral o => exact centralData_withCentral o payload
  | unrecognizedLocal o => rfl
  | unrecognizedCentral o => exact centralData_withCentral o payload
  | leftoverLocal l => rfl
  | leftoverCentral l => rfl

end ReadsTo

end Field

end ZipArchive.Extra
