import TextAdventure.Json.Skip
import TextAdventure.Json.Writer

/-!
# Records as JSON

A record is an object with a member for each of its fields, or a list of the fields in their order.
Its shape says once how each field is written and read, so what is written reads back.
-/

namespace TextAdventure.Json

/-- A type with a JSON form of its own. -/
class Coded (α : Type) where
  write : α → List Char
  read : Reader α

/-- One field of a record. -/
structure Field (ρ : Type) where
  name : String
  /-- Whether a record is refused without the field. -/
  required : Bool
  /-- The value in a record; none if the field is left out of it. -/
  write : ρ → Option (List Char)
  /-- Puts the value that comes next into a record. -/
  read : ρ → Reader ρ

namespace Field

variable {ρ α : Type}

/-- A field that every record has. -/
def needed [Coded α] (name : String) (get : ρ → α) (set : ρ → α → ρ) : Field ρ where
  name := name
  required := true
  write r := some (Coded.write (get r))
  read r := return set r (← Coded.read)

/-- A field that is always written, and keeps its value where it is missing. -/
def defaulted [Coded α] (name : String) (get : ρ → α) (set : ρ → α → ρ) : Field ρ :=
  { needed name get set with required := false }

/-- A field that is written if it has a value. -/
def optional [Coded α] (name : String) (get : ρ → Option α) (set : ρ → Option α → ρ) :
    Field ρ where
  name := name
  required := false
  write r := (get r).map Coded.write
  read r := return set r (← Reader.optional Coded.read)

end Field

/-- The fields of a record in their order, which are put into a record that has none. -/
structure Shape (ρ : Type) where
  name : String
  start : ρ
  fields : List (Field ρ)

namespace Shape

variable {ρ : Type}

/-- A record as an object. -/
def write (shape : Shape ρ) (r : ρ) : List Char :=
  Writer.object (shape.fields.filterMap fun field => (field.write r).map (field.name, ·))

open Reader

def title (shape : Shape ρ) : String :=
  "struct " ++ shape.name

/-- Takes the next member of an object into a record, with the names of the fields that are
there. -/
def readMember (shape : Shape ρ) (key : String) (sofar : List String × ρ) :
    Reader (List String × ρ) := do
  let (given, r) := sofar
  match shape.fields.find? (·.name == key) with
  | some field =>
    if given.contains key then
      skipBlanks
      discard (accept '\x7d')
      fail (.repeatedField key)
    colon
    return (key :: given, ← field.read r)
  | none =>
    colon
    skip
    return sofar

/-- Takes the fields one after another from a list, the first of which is the one of this number. -/
def readItems (shape : Shape ρ) : List (Field ρ) → Nat → ρ → Reader ρ
  | [], _, r => do
    let c ← token .listEnds
    if c = ']' then
      drop 1
      return r
    if c = ',' then
      drop 1
      skipBlanks
      if (← get).head? = some ']' then refuse .trailingComma
    refuse .trailingText
  | field :: fields, n, r => do
    if ← moreItems (n = 0) then shape.readItems fields (n + 1) (← field.read r)
    else
      match (field :: fields).findIdx? (·.required) with
      | some i =>
        fail (.wrongLength (n + i)
          (shape.title ++ " with " ++ Decimal.ofNat shape.fields.length ++ " elements"))
      | none => return r

/-- Reads a record. -/
def read (shape : Shape ρ) : Reader ρ := do
  match ← token .valueEnds with
  | '\x7b' =>
    drop 1
    let (given, r) ← members shape.readMember ((← get).length + 1) true ([], shape.start)
    match shape.fields.find? fun field => field.required && !given.contains field.name with
    | some field => fail (.missingField field.name)
    | none => return r
  | '[' =>
    drop 1
    shape.readItems shape.fields 0 shape.start
  | _ => mismatch shape.title

end Shape

end TextAdventure.Json
