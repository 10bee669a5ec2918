import TextAdventure.Settings
import TextAdventure.Toml.Reader

/-!
# Settings files

A file may set some settings and leave the others to their defaults; keys of other names are passed
over. A file that cannot be read, or that sets something to a value of the wrong kind, sets nothing.
-/

namespace TextAdventure

open Toml (Node Entries)

/-- A text under a key, or what stands for it if there is none. -/
def Toml.Entries.text (entries : Entries) (key default : String) : Option String :=
  match entries.lookup key with
  | none => some default
  | some (.text value) => some value
  | some _ => none

/-- A text that may be left out. -/
def Toml.Entries.text? (entries : Entries) (key : String) : Option (Option String) :=
  match entries.lookup key with
  | none => some none
  | some (.text value) => some (some value)
  | some _ => none

/-- An item of a list of texts, or what stands for it if the list is too short. -/
def Toml.Node.textAt (items : List Node) (i : Nat) (default : String) : Option String :=
  match items[i]? with
  | none => some default
  | some (.text value) => some value
  | some _ => none

namespace FallbackMessages

def ofEntries (entries : Entries) : Option FallbackMessages := do
  let defaults : FallbackMessages := {}
  return {
    confused := ← entries.text "confused" defaults.confused
    lost := ← entries.text "lost" defaults.lost
    hint := ← entries.text "hint" defaults.hint }

def ofList (items : List Node) : Option FallbackMessages := do
  let defaults : FallbackMessages := {}
  return {
    confused := ← Node.textAt items 0 defaults.confused
    lost := ← Node.textAt items 1 defaults.lost
    hint := ← Node.textAt items 2 defaults.hint }

/-- The messages of a table, or of a list in their order. A time sets none of them. -/
def ofNode : Node → Option FallbackMessages
  | .table _ entries => ofEntries entries
  | .inline entries => ofEntries entries
  | .list items => ofList items
  | .time => some {}
  | .text _ => none
  | .scalar => none
  | .tables _ => none

end FallbackMessages

namespace Settings

def ofEntries (entries : Entries) : Option Settings := do
  let defaults : Settings := {}
  return {
    defaultWorld := ← entries.text "default_world" defaults.defaultWorld
    apology := ← entries.text "apology" defaults.apology
    speechTag := ← entries.text "speech_tag" defaults.speechTag
    sessionDir := ← entries.text? "session_dir"
    fallback := ←
      match entries.lookup "fallback" with
      | none => some defaults.fallback
      | some node => FallbackMessages.ofNode node }

/-- The settings of a file, or the defaults if there is none that can be read. -/
def ofFile (file : Option String) : Settings :=
  ((file.bind Toml.read?).bind ofEntries).getD {}

end Settings

end TextAdventure
