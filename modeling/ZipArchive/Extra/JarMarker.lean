import ZipArchive.Extra.Record

/-!
# The marker of executable jars

A record without payload. Its presence is all that it says.
-/

namespace ZipArchive.Extra

/-- The marker of an executable jar. -/
structure JarMarker where
deriving DecidableEq, Repr, Inhabited

namespace JarMarker

/-- The id of the record. -/
def recordId : UInt16 := 0xCAFE

/-- Accepts an empty payload only, wherever it is said to be. -/
def parse (m : JarMarker) (length : Nat) : Outcome JarMarker Unit :=
  if length = 0 then (.ok (), m)
  else (.error (.malformedRecord recordId s!"marker must be empty, found {length} bytes"), m)

instance : Record JarMarker where
  id _ := recordId
  localData _ := []
  parseLocal m _ _ length := m.parse length

end JarMarker

end ZipArchive.Extra
