/-!
# Compression methods

The method number of an entry, and the least version of the format that a reader needs for it.
-/

namespace ZipArchive

/-- A compression method. -/
inductive Method where
  /-- No compression. -/
  | stored
  /-- The deflate method. -/
  | deflate
  /-- Any other method, known by its number only. -/
  | unknown (id : UInt16)
deriving DecidableEq, Repr, Inhabited

namespace Method

/-- The method with the given number. -/
def ofId : UInt16 → Method
  | 0 => stored
  | 8 => deflate
  | id => unknown id

/-- The number of a method. -/
def id : Method → UInt16
  | stored => 0
  | deflate => 8
  | unknown id => id

/-- The version of the format that a reader needs for the method. -/
def versionNeeded : Method → UInt16
  | stored => 10
  | _ => 20

end Method

end ZipArchive
