import TextAdventure.Session
import TextAdventure.Text.Quoted

/-!
# Writing session files

A session is saved as a record of named fields, one on a line, each set and map spread over one
line per entry. Fields that are not set are left out.
-/

namespace TextAdventure.SessionFile

namespace Writer

/-- A text as it stands in a session file. -/
def text (t : String) : String :=
  Text.quote ['"', '\''] t

def indent (depth : Nat) : String :=
  String.ofList (List.replicate (4 * depth) ' ')

/-- Entries between brackets, one on a line; the brackets alone if there are none. -/
def block (opening closing : String) (depth : Nat) (entries : List String) : String :=
  if entries.isEmpty then opening ++ closing
  else
    opening ++ "\n" ++
      String.join (entries.map fun entry => indent (depth + 1) ++ entry ++ ",\n") ++
      indent depth ++ closing

def set (ids : IdSet) : String :=
  block "[" "]" 1 (ids.toList.map text)

def map (flags : Flags) : String :=
  block "\x7b" "\x7d" 1 (flags.toList.map fun e => text e.1 ++ ": " ++ text e.2)

def optional (name : String) (value : Option String) : List String :=
  value.toList.map fun v => name ++ ": Some(" ++ text v ++ ")"

/-- The fields of a session that are written, in their order. -/
def fields (s : Session) : List String :=
  ["id: " ++ text s.id, "worldId: " ++ text s.worldId, "room: " ++ text s.room,
    "flags: " ++ map s.flags, "inventory: " ++ set s.inventory, "gone: " ++ set s.gone,
    "seen: " ++ set s.seen, "effects: " ++ set s.effects,
    "failures: " ++ toString s.failures.toNat] ++
    optional "context" s.context ++ optional "cameFrom" s.cameFrom

end Writer

/-- The text of a session file. -/
def write (s : Session) : String :=
  Writer.block "(" ")" 0 (Writer.fields s)

end TextAdventure.SessionFile
