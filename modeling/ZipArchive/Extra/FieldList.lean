import ZipArchive.Extra.Stream

/-!
# Lists of extra fields

The records of an entry are a list in which an id stands once and left-over bytes come last. `add`
keeps it so. `mergeCentral` brings in the records of a central header: into the record with the same
id where there is one, and as new records otherwise.
-/

namespace ZipArchive.Extra

/-- The extra fields of an entry, in the order of the header. -/
abbrev FieldList (κ : Type) := List (Field κ)

namespace FieldList

variable {κ : Type} [Record κ]

/-- The record with an id. -/
def find? (fields : FieldList κ) (id : UInt16) : Option (Field κ) :=
  List.find? (Field.hasId id) fields

/-- Applies an operation to the first field that satisfies `p`, if there is one. -/
def updateFirst (p : Field κ → Bool) (op : Field κ → Outcome (Field κ) Unit) :
    FieldList κ → Option (Outcome (FieldList κ) Unit)
  | [] => none
  | f :: fs =>
    if p f then some ((op f).mapState (· :: fs))
    else (updateFirst p op fs).map (Outcome.mapState (f :: ·))

/-- Replaces the first field that satisfies `p`, if there is one. -/
def replaceFirst? (p : Field κ → Bool) (new : Field κ) : FieldList κ → Option (FieldList κ)
  | [] => none
  | f :: fs => if p f then some (new :: fs) else (replaceFirst? p new fs).map (f :: ·)

/-- Adds a record behind all others, but before left-over bytes in last place. -/
def insertLast (new : Field κ) : FieldList κ → FieldList κ
  | [] => [new]
  | [f] => if f.isLeftover then [new, f] else [f, new]
  | f :: fs => f :: insertLast new fs

/-- Adds a field. A record takes the place of one with its id; left-over bytes replace any others
and come last. -/
def add (fields : FieldList κ) (new : Field κ) : FieldList κ :=
  if new.isLeftover then fields.filter (!·.isLeftover) ++ [new]
  else (replaceFirst? (Field.hasId new.id) new fields).getD (insertLast new fields)

/-- Removes the record with an id. -/
def remove (fields : FieldList κ) (id : UInt16) : FieldList κ :=
  fields.eraseP (Field.hasId id)

/-- Takes the record with an id out of the list, and answers it if there is one. -/
def takeOut (id : UInt16) : FieldList κ → Option (Field κ) × FieldList κ
  | [] => (none, [])
  | f :: fs =>
    if f.hasId id then (some f, fs)
    else
      let (found?, rest) := takeOut id fs
      (found?, f :: rest)

/-- Where the payload of the first record with an id stands in the stream for a local header. -/
def payloadOffset? (id : UInt16) : FieldList κ → Option Nat
  | [] => none
  | f :: fs =>
    if f.hasId id then some 4
    else
      let size := (f.data .localHeader).length + if f.isLeftover then 0 else 4
      (payloadOffset? id fs).map (size + ·)

/-- Brings in one field of a central header. -/
def mergeOne (fields : FieldList κ) (new : Field κ) : Outcome (FieldList κ) Unit :=
  let counterpart := if new.isLeftover then Field.isLeftover else Field.hasId new.id
  let payload := new.data .central
  (updateFirst counterpart (·.parse .central payload.toArray 0 payload.length) fields).getD
    (.ok (), fields.add new)

/-- Brings in fields of a central header one after the other. A fault ends it, and what was brought
in before stays. -/
def mergeAll (fields : FieldList κ) : FieldList κ → Outcome (FieldList κ) Unit
  | [] => (.ok (), fields)
  | new :: more =>
    match mergeOne fields new with
    | (.ok (), merged) => mergeAll merged more
    | failed => failed

/-- Brings in the stream of a central header. -/
def mergeCentral (fields : FieldList κ) (reg : Registry κ) (stream : Bytes) :
    Outcome (FieldList κ) Unit :=
  match reg.parse .central .keep stream with
  | .ok parsed => fields.mergeAll parsed
  | .error e => (.error e, fields)

end FieldList

end ZipArchive.Extra
