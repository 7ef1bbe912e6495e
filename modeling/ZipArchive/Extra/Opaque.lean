import ZipArchive.Extra.Record

/-!
# Records kept as bytes

Two kinds of data are kept without looking into them: records with an id that nothing is known
about, and what is left at the end of an extra field without forming a record. Both have a central
copy of their own only once one was read; until then the local copy stands for it.
-/

namespace ZipArchive.Extra

/-- A record whose payloads are kept as they are. -/
structure Opaque where
  /-- The id of the record. -/
  id : UInt16
  /-- The local payload. -/
  localCopy : Bytes := []
  /-- The central payload, if it is not that of the local header. -/
  centralCopy? : Option Bytes := none
deriving DecidableEq, Repr

namespace Opaque

/-- Replaces the local payload. -/
def setLocal (o : Opaque) (payload : Bytes) : Opaque :=
  { o with localCopy := payload }

/-- Replaces the central payload. -/
def setCentral (o : Opaque) (payload : Bytes) : Opaque :=
  { o with centralCopy? := some payload }

/-- The record after reading a central payload. It is the local payload too of a record that has
none of either kind. -/
def withCentral (o : Opaque) (payload : Bytes) : Opaque :=
  if o.centralCopy?.isNone && o.localCopy.isEmpty then
    { o with localCopy := payload, centralCopy? := some payload }
  else o.setCentral payload

instance : Record Opaque where
  id := id
  localData := localCopy
  centralData o := o.centralCopy?.getD o.localCopy
  parseLocal o buf offset length := inSpan o buf offset length fun payload =>
    (.ok (), o.setLocal payload)
  parseCentral o buf offset length := inSpan o buf offset length fun payload =>
    (.ok (), o.withCentral payload)

end Opaque

/-- Bytes at the end of an extra field that form no record. -/
structure Leftover where
  /-- The bytes in the local header. -/
  localCopy : Bytes := []
  /-- The bytes in the central directory, if they are not those of the local header. -/
  centralCopy? : Option Bytes := none
deriving DecidableEq, Repr, Inhabited

namespace Leftover

/-- The id by which such data is called; it is not written. -/
def nominalId : UInt16 := 0xACC1

instance : Record Leftover where
  id _ := nominalId
  localData := localCopy
  centralData l := l.centralCopy?.getD l.localCopy
  parseLocal l buf offset length := inSpan l buf offset length fun payload =>
    (.ok (), { l with localCopy := payload })
  parseCentral l buf offset length := inSpan l buf offset length fun payload =>
    (.ok (), { l with centralCopy? := some payload })

end Leftover

end ZipArchive.Extra
