import TextAdventure.SessionFile.Reader
import TextAdventure.SessionFile.Writer
import TextAdventure.Store
import TextAdventure.Text.Blank

/-!
# Sessions in files

Each session is saved in a file of its own, in one directory. A file is named by the slug of the
session's id, so hostile ids stay in the directory (`slug`). Ids with one slug share a file, and a
file that holds another session counts as none.
-/

namespace TextAdventure

/-- The characters that are kept in file names. -/
def isPlain (c : Char) : Bool :=
  c.isAlphanum || c = '-' || c = '_'

/-- A name for files that stands for an id. -/
def slug (id : String) : String :=
  let plain := (Text.trim id.toList).map fun c => if isPlain c then c else '_'
  if plain.isEmpty then "session" else String.ofList plain

/-- The file of the session with an id. -/
def fileName (id : String) : String :=
  slug id ++ ".ron"

/-- What has a name in a directory. -/
inductive Entry where
  | file (text : String)
  | folder
deriving DecidableEq

/-- A place for files. -/
inductive Directory where
  /-- It is not there yet, but can be made. -/
  | missing
  | holding (entries : Dictionary Entry)
  /-- It cannot be there: a file stands in the way of it, or a name is too long. -/
  | obstructed (fault : FileFault)
deriving DecidableEq

namespace Directory

/-- How many bytes the name of a file may have. -/
def maxNameLength : Nat := 255

/-- What has a name, unless it cannot be looked up. -/
def find (d : Directory) (name : String) : Except FileFault (Option Entry) :=
  match d with
  | missing => .ok none
  | obstructed fault => .error fault
  | holding entries =>
    if maxNameLength < name.utf8ByteSize then .error .nameTooLong else .ok (entries.get? name)

/-- The text of a file, and nothing if there is no file. -/
def read (d : Directory) (name : String) : Except FileFault (Option String) := do
  match ← d.find name with
  | none => return none
  | some (.file text) => return some text
  | some .folder => throw .isDirectory

/-- The directory after it was made if it was missing. -/
def made : Directory → Directory
  | missing => holding ∅
  | d => d

/-- Writes a file, over one of the name. -/
def write (d : Directory) (name text : String) : Except FileFault Directory := do
  match ← d.made.find name, d.made with
  | some .folder, _ => throw .isDirectory
  | _, holding entries => return holding (entries.insert name (.file text))
  | _, d => return d

/-- Removes a file; none is removed if there is none. -/
def remove (d : Directory) (name : String) : Except FileFault Directory := do
  match ← d.find name, d with
  | some .folder, _ => throw .isDirectory
  | _, holding entries => return holding (entries.erase name)
  | _, d => return d

end Directory

/-- Worlds by their ids, and sessions in a directory of some path. -/
structure Files where
  worlds : Shelf
  path : String
  directory : Directory := .missing

namespace Files

instance : Inhabited Files := ⟨{ worlds := ∅, path := "" }⟩

/-- The path of a file in the directory. -/
def pathOf (f : Files) (name : String) : String :=
  if f.path = "" || f.path.endsWith "/" then f.path ++ name else f.path ++ "/" ++ name

/-- The session that a file's text holds, if it is the one of an id. -/
def decode (path id text : String) : Except StoreError (Option Session) :=
  match SessionFile.read? text with
  | none => .error (.undecodable path)
  | some session => .ok (if session.id = id then some session else none)

/-- The stored session of an id. -/
def session (f : Files) (id : String) : Except StoreError (Option Session) :=
  let name := fileName id
  match f.directory.read name with
  | .error fault => .error (.file (f.pathOf name) fault)
  | .ok none => .ok none
  | .ok (some text) => decode (f.pathOf name) id text

/-- Keeps a changed directory, unless the change failed. -/
def keep (f : Files) (name : String) : Except FileFault Directory → Except StoreError Unit × Files
  | .ok directory => (.ok (), { f with directory })
  | .error fault => (.error (.file (f.pathOf name) fault), f)

/-- What is left when a session is written: a missing directory is made even if the file cannot
be written. -/
def write (f : Files) (session : Session) : Except StoreError Unit × Files :=
  let name := fileName session.id
  let f := { f with directory := f.directory.made }
  f.keep name (f.directory.write name (SessionFile.write session))

def delete (f : Files) (id : String) : Except StoreError Unit × Files :=
  let name := fileName id
  f.keep name (f.directory.remove name)

/-- The store that saves sessions in files. -/
def store : Store Files where
  read id := fun f => (f.session id, f)
  write session := fun f => f.write session
  delete id := fun f => f.delete id
  world id := fun f => (f.worlds.world id, f)

end Files

end TextAdventure
