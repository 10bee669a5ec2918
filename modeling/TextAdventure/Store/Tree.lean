import TextAdventure.Store.Files
import TextAdventure.Text.Search

/-!
# Files below a working directory

A tree is all the files below a directory by their places, and the directories that were made. A
path is followed name by name, so that each name before the last must be that of a directory that
is there (`Tree.follow`), even if the path leaves it again.
-/

namespace TextAdventure

/-- The names that lead to a file or directory from the working directory. -/
abbrev Place := List String

/-- The directory that another is in. Above the working directory there are only parents. -/
def Place.parent (place : Place) : Place :=
  match place.getLast? with
  | none => [".."]
  | some ".." => place ++ [".."]
  | some "/" => place
  | some _ => place.dropLast

/-- Where a path starts. -/
def pathStart (path : String) : Place :=
  if path.startsWith "/" then ["/"] else []

/-- Drops the empty names of a path. One at the end stands for the directory itself. -/
def pathNamesOf : List (List Char) → List String
  | [] => []
  | [last] => [if last.isEmpty then "." else String.ofList last]
  | name :: names =>
    if name.isEmpty then pathNamesOf names else String.ofList name :: pathNamesOf names

/-- The names of a path. -/
def pathNames (path : String) : List String :=
  pathNamesOf (Text.splitOn '/' path.toList)

/-- The texts of files by their places, and directories that are there even without files. -/
structure Tree where
  files : List (Place × String)
  folders : List Place := []

/-- Where a path leads. -/
inductive Landing where
  | file (text : String)
  | folder (place : Place)
  | missing
  /-- A file stands where the path needs a directory, or a name is too long. -/
  | blocked (fault : FileFault)

namespace Tree

/-- The tree of files with these paths. -/
def ofFiles (files : List (String × String)) : Tree where
  files := files.map fun file => ((pathNames file.1).filter (· ≠ "."), file.2)

/-- Whether a directory is there. -/
def hasFolder (t : Tree) (place : Place) : Bool :=
  place.all (fun name => name = ".." || name = "/") ||
    t.files.any (fun file => place.isPrefixOf file.1 && place ≠ file.1) ||
    t.folders.any place.isPrefixOf

/-- Follows names from a directory. -/
def follow (t : Tree) (place : Place) : List String → Landing
  | [] => .folder place
  | "." :: names => t.follow place names
  | ".." :: names => t.follow place.parent names
  | name :: names =>
    if Directory.maxNameLength < name.utf8ByteSize then .blocked .nameTooLong
    else
      match t.files.lookup (place ++ [name]) with
      | some text => if names.isEmpty then .file text else .blocked .notDirectory
      | none =>
        if t.hasFolder (place ++ [name]) then t.follow (place ++ [name]) names else .missing

/-- Where a path leads from the working directory. -/
def find (t : Tree) (path : String) : Landing :=
  t.follow (pathStart path) (pathNames path)

/-- The text of a file, if there is one at a path. -/
def read (t : Tree) (path : String) : Option String :=
  match t.find path with
  | .file text => some text
  | _ => none

/-- What a file is in a directory that it is below. -/
def entryOf (place : Place) (file : Place × String) : Option (String × Entry) :=
  if place.isPrefixOf file.1 then
    match file.1.drop place.length with
    | [] => none
    | [name] => some (name, .file file.2)
    | name :: _ => some (name, .folder)
  else none

/-- The directory at a path. -/
def directory (t : Tree) (path : String) : Directory :=
  match t.find path with
  | .file _ => .obstructed .notDirectory
  | .folder place =>
    let made := t.folders.map fun folder => (folder, "")
    let folders := (made.filterMap (entryOf place)).map fun entry => (entry.1, Entry.folder)
    .holding (Dictionary.ofList (folders ++ t.files.filterMap (entryOf place)))
  | .missing => .missing
  | .blocked fault => .obstructed fault

/-- The directories that names lead through, the last one first, if those are made that are not
there. -/
def through (place : Place) : List String → List Place
  | [] => [place]
  | "." :: names => through place names
  | ".." :: names => through place.parent names
  | name :: names => through (place ++ [name]) names ++ [place]

/-- The texts of the files that are right in a directory. -/
def filesOf : Directory → List (String × String)
  | .holding entries =>
    entries.toList.filterMap fun
      | (name, .file text) => some (name, text)
      | (_, .folder) => none
  | .missing => []
  | .obstructed _ => []

/-- The tree with other files right in the directory at a path. If the directory was not there, it
is made, and no file is lost. -/
def replace (t : Tree) (path : String) : Directory → Tree
  | .holding entries =>
    match through (pathStart path) (pathNames path) with
    | [] => t
    | place :: before =>
      let written := (filesOf (.holding entries)).map fun file => (place ++ [file.1], file.2)
      let wasThere := t.directory path ≠ .missing
      let kept := t.files.filter fun file =>
        file.1.dropLast ≠ place || (!wasThere && (written.lookup file.1).isNone)
      { files := kept ++ written, folders := t.folders ++ place :: before }
  | .missing => t
  | .obstructed _ => t

end Tree

end TextAdventure
