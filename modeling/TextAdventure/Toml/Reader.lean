import TextAdventure.Toml.Scalar
import TextAdventure.Toml.Table

/-!
# Reading settings files

A file is a sequence of statements, one on a line: headers, and keys with their values. It is read
whole or not at all.
-/

namespace TextAdventure.Toml

open Text (Scanner)
open Text.Scanner

/-- How deep values may be nested, and how many parts keys may have. -/
def maxDepth : Nat := 79

/-- The characters of keys without quotes. -/
def isBare (c : Char) : Bool :=
  c.isAlphanum || c = '-' || c = '_'

/-- One part of a key, with the blanks around it. -/
def keyPart : Scanner String := do
  space
  let part ←
    match (← get).head? with
    | some '"' => lineText '"'
    | some '\'' => lineText '\''
    | _ =>
      let bare ← takeWhile isBare
      if bare.isEmpty then refuse
      pure (String.ofList bare)
  space
  return part

/-- The further parts of a key, each after a dot. -/
def moreKeyParts : Nat → Scanner (List String)
  | 0 => refuse
  | fuel + 1 => do
    if ← accept '.' then
      let part ← keyPart
      return part :: (← moreKeyParts fuel)
    else return []

/-- A key: the parts before the last one, and the last. -/
def key : Scanner (List String × String) := do
  let first ← keyPart
  let more ← moreKeyParts maxDepth
  match (first :: more).reverse with
  | last :: path => return (path.reverse, last)
  | [] => refuse

/-- Takes a comment if there is one. -/
def comment : Scanner Unit := do
  if ← accept '#' then discard (takeWhile isPrintable)

/-- Passes over blanks, comments and the ends of lines, in so many steps at most. -/
def lineGap : Nat → Scanner Unit
  | 0 => return
  | fuel + 1 => do
    space
    comment
    if ← acceptNewline then lineGap fuel

def gaps : Scanner Unit := do
  lineGap ((← get).length + 1)

/-- Items with commas between them up to a closing character; the last may have a comma too if that
is allowed. -/
def separated {σ : Type} (closing : Char) (space : Scanner Unit) (trailing : Bool)
    (item : σ → Scanner σ) : Nat → Bool → σ → Scanner σ
  | 0, _, _ => refuse
  | fuel + 1, mayEnd, sofar => do
    space
    let closed ← if mayEnd then accept closing else pure false
    if closed then return sofar
    let sofar ← item sofar
    space
    if ← accept ',' then separated closing space trailing item fuel trailing sofar
    else
      expect closing
      return sofar

/-- A value in so many others. -/
def value : Nat → Scanner Node
  | 0 => refuse
  | depth + 1 => do
    match (← get).head? with
    | some '"' => return .text (← text '"')
    | some '\'' => return .text (← text '\'')
    | some '[' =>
      if depth = 0 then refuse
      drop 1
      let item (items : List Node) : Scanner (List Node) := do
        return (← value depth) :: items
      return .list (← separated ']' gaps true item ((← get).length + 1) true []).reverse
    | some '\x7b' =>
      if depth = 0 then refuse
      drop 1
      let item (entries : Entries) : Scanner Entries := do
        let (path, last) ← key
        expect '='
        space
        let node ← value depth
        match Entries.set path last node .header entries with
        | some entries => return entries
        | none => refuse
      return .inline (← separated '\x7d' space false item ((← get).length + 1) true [])
    | some 't' =>
      expectText "true"
      return .scalar
    | some 'f' =>
      expectText "false"
      return .scalar
    | _ => (moment *> return .time) <|> (number *> return .scalar)

inductive Statement where
  /-- The header of a table, or of one of several. -/
  | header (item : Bool) (path : List String) (key : String)
  | pair (path : List String) (key : String) (node : Node)

/-- What is left of a line after a statement. -/
def lineEnd : Scanner Unit := do
  space
  comment
  unless (← get).isEmpty do
    unless ← acceptNewline do refuse

/-- A statement, unless the line has none. -/
def statement : Scanner (Option Statement) := do
  space
  if ← accept '[' then
    let item ← accept '['
    let (path, last) ← key
    expect ']'
    if item then expect ']'
    lineEnd
    return some (.header item path last)
  else if ← nextIs fun c => c = '#' || c = '\r' || c = '\n' then
    lineEnd
    return none
  else if (← get).isEmpty then return none
  else
    let (path, last) ← key
    expect '='
    space
    let node ← value (maxDepth + 1)
    lineEnd
    return some (.pair path last node)

/-- What is set so far, and the header that further keys come under. -/
structure Sofar where
  entries : Entries
  header : List String

/-- Adds a statement to what comes before it. -/
def Sofar.add (s : Sofar) : Statement → Option Sofar
  | .header item path key => do
    let entries ←
      if item then s.entries.beginItem path key else s.entries.beginTable path key
    return { entries, header := path ++ [key] }
  | .pair path key node => do
    return { s with entries := ← s.entries.setUnder s.header path key node }

/-- The statements of a file after those that were read. -/
def statements : Nat → Sofar → Scanner Sofar
  | 0, _ => refuse
  | fuel + 1, sofar => do
    if (← get).isEmpty then return sofar
    match ← statement with
    | none => statements fuel sofar
    | some statement =>
      match sofar.add statement with
      | some sofar => statements fuel sofar
      | none => refuse

/-- A file, which may begin with a byte order mark. -/
def document : Scanner Entries := do
  discard (accept (Char.ofNat 0xFEFF))
  let sofar ← statements ((← get).length + 1) { entries := [], header := [] }
  return sofar.entries

/-- What a settings file sets, if it can be read. -/
def read? (file : String) : Option Entries :=
  document.run? file

end TextAdventure.Toml
