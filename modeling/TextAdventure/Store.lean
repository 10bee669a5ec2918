import TextAdventure.World

/-!
# Stores

Sessions are read and written, and worlds looked up, through four operations of a store. What a
store keeps is a value of its own type, which each operation takes and returns. Any of them may
fail.
-/

namespace TextAdventure

/-- Why reading or writing a file failed. -/
inductive FileFault where
  | isDirectory
  | notDirectory
  | nameTooLong
deriving DecidableEq

def FileFault.describe : FileFault → String
  | isDirectory => "Is a directory (os error 21)"
  | notDirectory => "Not a directory (os error 20)"
  | nameTooLong => "File name too long (os error 36)"

inductive StoreError where
  | unknownWorld (id : String)
  | file (path : String) (fault : FileFault)
  /-- A session file does not hold a session. -/
  | undecodable (path : String)
deriving DecidableEq

def StoreError.describe : StoreError → String
  | unknownWorld id => "no world with id '" ++ id ++ "'"
  | file path fault => "session storage I/O failed for '" ++ path ++ "': " ++ fault.describe
  | undecodable path => "could not decode session file '" ++ path ++ "'"

/-- Computations that may change what a store keeps and may fail. What was changed before a
failure stays changed. -/
abbrev Attempt (κ ε α : Type) := ExceptT ε (StateM κ) α

/-- A store that keeps a value of type `κ`. -/
structure Store (κ : Type) where
  /-- The stored session of an id, if there is one. -/
  read : String → Attempt κ StoreError (Option Session)
  write : Session → Attempt κ StoreError Unit
  delete : String → Attempt κ StoreError Unit
  world : String → Attempt κ StoreError World

/-- Worlds by their ids. -/
abbrev Shelf := Catalog World.id

/-- The world with an id. -/
def Shelf.world (worlds : Shelf) (id : String) : Except StoreError World :=
  match worlds.get? id with
  | some world => .ok world
  | none => .error (.unknownWorld id)

/-- Worlds by their ids, the later of two with one id. -/
def shelve (worlds : List World) : Shelf :=
  worlds.foldl Catalog.file ∅

end TextAdventure
