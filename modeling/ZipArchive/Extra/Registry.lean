import ZipArchive.Extra.Field

/-!
# Registries

A registry says with which empty record the payload of an id is read. Ids that it does not know are
read as blobs.
-/

namespace ZipArchive.Extra

/-- The empty records by id. -/
structure Registry (κ : Type) where
  /-- The record to start from for an id. -/
  template? : UInt16 → Option (Field κ)

namespace Registry

variable {κ : Type}

/-- The registry that knows no id. -/
def empty : Registry κ where
  template? _ := none

/-- The registry of the record types of this library. -/
def builtin : Registry κ where
  template?
    | 0x0001 => some (.zip64 {})
    | 0x5455 => some (.timestamp {})
    | 0x7875 => some (.ownership default)
    | 0x7075 => some (.unicodePath {})
    | 0x6375 => some (.unicodeComment {})
    | 0xA11E => some (.alignment default)
    | 0xCAFE => some (.jarMarker {})
    | 0x0014 => some (.certificate { id := 0x0014 })
    | 0x0015 => some (.certificate { id := 0x0015 })
    | 0x0016 => some (.certificate { id := 0x0016 })
    | 0x0017 => some (.certificate { id := 0x0017 })
    | 0x0019 => some (.certificate { id := 0x0019 })
    | _ => none

/-- The registry after an id was given a record to start from. -/
def register (reg : Registry κ) (id : UInt16) (template : Field κ) : Registry κ where
  template? i := if i = id then some template else reg.template? i

/-- Whether an id is known. -/
def isRegistered (reg : Registry κ) (id : UInt16) : Bool :=
  (reg.template? id).isSome

/-- The record to start from for any id. -/
def create (reg : Registry κ) (id : UInt16) : Field κ :=
  (reg.template? id).getD (.unrecognized { id := id })

end Registry

end ZipArchive.Extra
