import TextAdventure.Session
import TextAdventure.Text.Name
import TextAdventure.Text.Scanner

/-!
# Reading session files

Session files may be edited by hand, so they are read leniently: blanks and comments may stand
between any two tokens, the fields in any order, the name of the record may precede it, texts may
be raw, numbers may be written in other bases, and fields of other names are passed over, whatever
they hold, unless it is nested too deep (`maxDepth`). A field given twice, a required one left out,
or text after the record is refused.
-/

namespace TextAdventure.SessionFile

namespace Reader

open Text (Scanner)
open Text.Scanner

/-- The forms of writing that a file may ask for in front of the record. -/
structure Extensions where
  /-- A text may stand where an optional one is expected. -/
  implicitSome : Bool := false
  /-- The record must have its name. -/
  explicitNames : Bool := false
  /-- The brackets of a record may be left out within those of `Some`. -/
  unwrapVariants : Bool := false

/-- The characters that separate tokens. -/
def isSpace (c : Char) : Bool :=
  let n := c.toNat
  (9 ≤ n && n ≤ 13) || n = 0x20 || n = 0x85 || n = 0x200E || n = 0x200F || n = 0x2028 || n = 0x2029

/-- Where blanks are being passed over: between comments, in a comment to the end of the line, or
in one between brackets that is so deep in others. -/
inductive Gap where
  | open
  | line
  | block (depth : Nat)

/-- Passes over blanks and comments. -/
def passGap : Gap → List Char → Option (List Char)
  | .open, [] => some []
  | .open, '/' :: '/' :: cs => passGap .line cs
  | .open, '/' :: '*' :: cs => passGap (.block 0) cs
  | .open, '/' :: _ => none
  | .open, c :: cs => if isSpace c then passGap .open cs else some (c :: cs)
  | .line, [] => some []
  | .line, c :: cs => passGap (if c = '\n' then .open else .line) cs
  | .block _, [] => none
  | .block depth, '/' :: '*' :: cs => passGap (.block (depth + 1)) cs
  | .block 0, '*' :: '/' :: cs => passGap .open cs
  | .block (depth + 1), '*' :: '/' :: cs => passGap (.block depth) cs
  | .block depth, _ :: cs => passGap (.block depth) cs

def space : Scanner Unit := do
  set (← passGap .open (← get))

/-- Takes a whole name if it is next. -/
def acceptName (name : String) : Scanner Bool := do
  let rest := (← get).drop name.length
  if (← startsWith name) && !rest.head?.any Text.continuesName then
    set rest
    return true
  return false

/-- Takes a comma with the blanks around it, if there is one. -/
def comma : Scanner Bool := do
  space
  if ← accept ',' then
    space
    return true
  return false

/-- The characters of names that are marked as raw. -/
def isRawNameChar (c : Char) : Bool :=
  Text.continuesName c || c = '.' || c = '+' || c = '-'

/-- Whether a literal text is next that begins like a name. -/
def startsLiteral : Scanner Bool := do
  let starts := ["b\"", "b'", "br#", "br\"", "r\"", "r#\"", "r##"]
  let text ← get
  return starts.any (·.toList.isPrefixOf text)

/-- Takes a name, which may be marked as raw, if one is next. -/
def name? : Scanner (Option String) := do
  if ← startsLiteral then return none
  if ← startsWith "r#" then
    let raw := ((← get).drop 2).takeWhile isRawNameChar
    if raw.isEmpty then return none
    drop (2 + raw.length)
    return some (String.ofList raw)
  match ← get with
  | c :: _ =>
    if Text.startsName c then return some (String.ofList (← takeWhile Text.continuesName))
    else return none
  | [] => return none

/-- The name of a field or of the record. -/
def name : Scanner String := do
  match ← name? with
  | some name =>
    if (← get).head?.any isRawNameChar then refuse
    return name
  | none => refuse

/-- A character written as the bytes of its encoding, each after a backslash and `x`. -/
def encodedChar : Scanner Char := do
  let first ← hexadecimal 2
  if first < 0x80 then charOf first
  else
    let continuation : Scanner Nat := do
      unless ← acceptText "\\x" do refuse
      let b ← hexadecimal 2
      if 0x80 ≤ b && b < 0xC0 then return b - 0x80 else refuse
    if 0xC2 ≤ first && first < 0xE0 then
      charOf (64 * (first - 0xC0) + (← continuation))
    else if 0xE0 ≤ first && first < 0xF0 then
      let code := 4096 * (first - 0xE0) + 64 * (← continuation) + (← continuation)
      if code < 0x800 then refuse else charOf code
    else if 0xF0 ≤ first && first < 0xF5 then
      let code := 262144 * (first - 0xF0) + 4096 * (← continuation) + 64 * (← continuation) +
        (← continuation)
      if code < 0x10000 then refuse else charOf code
    else refuse

/-- A character written as its code between braces. -/
def codedChar : Scanner Char := do
  expect '\x7b'
  let digits := ((← get).take 6).takeWhile (· ≠ '\x7d')
  drop digits.length
  expect '\x7d'
  if digits.isEmpty then refuse
  let some code := Text.Hexadecimal.number? digits | refuse
  charOf code

/-- The character of a code, written as two hexadecimal digits. -/
def byteChar : Scanner Char := do
  charOf (← hexadecimal 2)

/-- An ASCII character, written as the two hexadecimal digits of its code. -/
def asciiChar : Scanner Char := do
  let c ← byteChar
  if c.toNat < 0x80 then return c else refuse

/-- The character that an escape stands for, after its backslash. What follows an `x` is read by
`afterX`. -/
def escaped (afterX : Scanner Char) : Scanner Char := do
  match ← next with
  | '\'' => return '\''
  | '"' => return '"'
  | '\\' => return '\\'
  | 'n' => return '\n'
  | 'r' => return '\r'
  | 't' => return '\t'
  | '0' => return Char.ofNat 0
  | 'x' => afterX
  | 'u' => codedChar
  | _ => refuse

/-- The rest of a quoted text. -/
def quoted (afterX : Scanner Char) : Nat → Scanner (List Char)
  | 0 => refuse
  | fuel + 1 => do
    match ← next with
    | '"' => return []
    | '\\' =>
      let c ← escaped afterX
      return c :: (← quoted afterX fuel)
    | c => return c :: (← quoted afterX fuel)

/-- The rest of a raw text, up to a quote with so many number signs after it. -/
def rawUntil (signs : List Char) : List Char → Option (List Char × List Char)
  | [] => none
  | c :: cs =>
    if c = '"' && signs.isPrefixOf cs then some ([], cs.drop signs.length)
    else (rawUntil signs cs).map fun p => (c :: p.1, p.2)

def raw : Scanner (List Char) := do
  let signs ← takeWhile (· == '#')
  expect '"'
  let (body, rest) ← rawUntil signs (← get)
  set rest
  return body

/-- A text in quotes or a raw one. -/
def literal (afterX : Scanner Char) : Scanner String := do
  let size := (← get).length
  if ← accept '"' then return String.ofList (← quoted afterX size)
  else if ← accept 'r' then return String.ofList (← raw)
  else refuse

def text : Scanner String :=
  literal encodedChar

/-- Bytes, written as a text after a `b`. -/
def bytes : Scanner String := do
  expect 'b'
  literal byteChar

/-- A single character in quotes. -/
def character : Scanner Char := do
  expect '\''
  let c ← next
  let c ← if c = '\\' then escaped asciiChar else pure c
  expect '\''
  return c

/-- A single byte, written as an ASCII character in quotes after a `b`. -/
def byte : Scanner Char := do
  expectText "b'"
  let c ← next
  let c ←
    if c = '\\' then do
      if (← get).head? = some 'u' then refuse
      escaped byteChar
    else if c.toNat < 0x80 then pure c
    else refuse
  expect '\''
  return c

def isIntegerChar (c : Char) : Bool :=
  (Text.Hexadecimal.value? c).isSome || c = '_'

/-- The name of a type that a whole number may end in, and the least and the greatest value. -/
structure IntegerType where
  name : String
  least : Int
  greatest : Int

/-- The type of whole numbers with a sign and so many more bits. -/
def signed (name : String) (bits : Nat) : IntegerType :=
  ⟨name, -Int.pow 2 bits, Int.pow 2 bits - 1⟩

/-- The type of whole numbers of so many bits, without a sign. -/
def unsigned (name : String) (bits : Nat) : IntegerType :=
  ⟨name, 0, Int.pow 2 bits - 1⟩

def integerTypes : List IntegerType :=
  [signed "i8" 7, signed "i16" 15, signed "i32" 31, signed "i64" 63, unsigned "u8" 8,
    unsigned "u16" 16, unsigned "u32" 32, unsigned "u64" 64]

/-- A whole number without its sign, in any base. -/
def magnitude : Scanner Nat := do
  let base ←
    if ← acceptText "0b" then pure 2
    else if ← acceptText "0o" then pure 8
    else if ← acceptText "0x" then pure 16
    else pure 10
  let digits ← takeWhile isIntegerChar
  if digits.isEmpty || digits.head? = some '_' then refuse
  let mut value := 0
  for d in digits do
    if d ≠ '_' then
      let some v := Text.Hexadecimal.value? d | refuse
      if base ≤ v then refuse
      value := base * value + v
  return value

/-- A whole number with the type that it ends in. The type must follow the first characters that
all may be digits, so a number marked as octal or hexadecimal has none. Without a type the number
must fit into 64 bits. -/
def integer : Scanner (Int × Option IntegerType) := do
  let negative ← accept '-'
  unless negative do discard (accept '+')
  let written ← get
  let after := written.dropWhile isIntegerChar
  set after
  let mut type := none
  for t in integerTypes do
    if ← acceptName t.name then type := some t
  set written
  let size ← magnitude
  let value : Int := if negative then -size else size
  match type with
  | some t =>
    if value < t.least || t.greatest < value then refuse
    drop t.name.length
  | none => if value < -Int.pow 2 63 || Int.pow 2 64 ≤ value then refuse
  return (value, type)

/-- A count of failures. -/
def count : Scanner UInt32 := do
  let (value, type) ← integer
  if type.any (·.name ≠ "u32") then refuse
  if 0 ≤ value && value < UInt32.size then return UInt32.ofNat value.toNat else refuse

/-- An optional text. -/
def optional (ext : Extensions) : Scanner (Option String) := do
  if ← acceptName "None" then return none
  if ← acceptName "Some" then
    space
    if ← accept '(' then
      space
      let t ← text
      discard comma
      expect ')'
      return some t
  if ext.implicitSome then return some (← text)
  refuse

/-- Items up to a closing character, with commas between them. `separated` says whether a comma
or the beginning precedes. -/
def items {α : Type} (closing : Char) (item : α → Scanner α) : Nat → Bool → α → Scanner α
  | 0, _, _ => refuse
  | fuel + 1, separated, sofar => do
    space
    if (← get).head? = some closing then
      drop 1
      return sofar
    unless separated do refuse
    let sofar ← item sofar
    items closing item fuel (← comma) sofar

/-- All items up to a closing character. -/
def itemsTo {α : Type} (closing : Char) (item : α → Scanner α) (start : α) : Scanner α := do
  items closing item ((← get).length + 1) true start

def idSet : Scanner IdSet := do
  expect '['
  itemsTo ']' (fun ids => return ids.insert (← text)) ∅

/-- The colon between a key and its value. -/
def colon : Scanner Unit := do
  space
  expect ':'
  space

def flags : Scanner Flags := do
  expect '\x7b'
  itemsTo '\x7d' (fun flags => do
    let key ← text
    colon
    return flags.insert key (← text)) ∅

def isFloatChar (c : Char) : Bool :=
  c.isDigit || ['e', 'E', '.', '+', '-', '_'].contains c

/-- Whether low lines stand only after digits and exponent marks. -/
def spacedWell (allowed : Bool) : List Char → Bool
  | [] => true
  | '_' :: cs => allowed && spacedWell allowed cs
  | '.' :: cs => spacedWell false cs
  | c :: cs => spacedWell (allowed || (c ≠ '+' && c ≠ '-')) cs

/-- Whether characters are a decimal number with or without a fraction and an exponent. -/
def isFloat (cs : List Char) : Bool :=
  let bare := cs.filter (· ≠ '_')
  let bare := if bare.head? = some '-' || bare.head? = some '+' then bare.drop 1 else bare
  let (whole, rest) := bare.span Char.isDigit
  let (fraction, rest) :=
    match rest with
    | '.' :: rest => rest.span Char.isDigit
    | rest => ([], rest)
  let exponent :=
    match rest with
    | [] => true
    | e :: rest =>
      let digits :=
        if rest.head? = some '-' || rest.head? = some '+' then rest.drop 1 else rest
      (e = 'e' || e = 'E') && digits ≠ [] && digits.all Char.isDigit
  spacedWell false cs && (whole ≠ [] || fraction ≠ []) && exponent

/-- Takes one of some names, if one is next. -/
def acceptOneOf : List String → Scanner Bool
  | [] => return false
  | name :: names => do
    if ← acceptName name then return true
    acceptOneOf names

/-- The names of the numbers that have no digits, with and without the name of a type. -/
def wordNumbers : List String :=
  ["inf", "inff32", "inff64", "NaN", "NaNf32", "NaNf64"]

/-- Passes over a decimal number. -/
def passFloat : Scanner Unit := do
  if ← acceptOneOf (wordNumbers.map ("+" ++ ·) ++ wordNumbers.map ("-" ++ ·)) then return
  let float := (← get).takeWhile isFloatChar
  unless isFloat float do refuse
  drop float.length
  discard (acceptOneOf ["f32", "f64"])

/-- Passes over a number. One that is no whole number may still be a decimal one. -/
def passNumber : Scanner Unit := do
  let text ← get
  let unsigned := if text.head? = some '-' || text.head? = some '+' then text.drop 1 else text
  if (unsigned.takeWhile isIntegerChar).length < (unsigned.takeWhile isFloatChar).length then
    passFloat
  else discard integer <|> passFloat

/-- Whether what follows an opening bracket is a name and a colon. -/
def startsField : Scanner Bool := do
  let before ← get
  space
  let named := (← name?).isSome
  space
  let found := named && (← get).head? = some ':'
  set before
  return found

/-- Whether a comma with more after it precedes the end of the brackets that are open so deep. -/
def moreFollows : Nat → Nat → Scanner Bool
  | 0, _ => refuse
  | fuel + 1, depth => do
    space
    discard character <|> pure ()
    discard text <|> pure ()
    discard bytes <|> pure ()
    let c ← next
    if ['(', '[', '\x7b'].contains c then moreFollows fuel (depth + 1)
    else if [')', ']', '\x7d'].contains c then
      if depth = 0 then return false else moreFollows fuel (depth - 1)
    else if c = ',' && depth = 0 then
      space
      return !(← nextIs (· = ')'))
    else moreFollows fuel depth

/-- Whether an open bracket holds what a record of its own would: fields, or several values. -/
def holdsRecord : Scanner Bool := do
  if ← startsField then return true
  let before ← get
  let found ← moreFollows (before.length + 1) 0
  set before
  return found

/-- What may lie in other values: a value, what follows the bracket after `Some`, or what follows
an opening bracket. -/
inductive Part where
  | value
  | option
  | round
  | square
  | curly

/-- Passes over a value of any kind; `deeper` passes over the parts of it. -/
def passValue (ext : Extensions) (deeper : Part → Scanner Unit) : Scanner Unit := do
  if ← acceptOneOf (["true", "false", "None"] ++ wordNumbers) then return
  if ← acceptName "Some" then
    space
    if ← accept '(' then
      space
      deeper .option
    else if ext.implicitSome then deeper .value
    else refuse
    return
  if ← acceptText "()" then return
  if (← name?).isSome then
    space
    if ← accept '(' then deeper .round
    return
  if ← startsWith "b'" then discard byte
  else match (← get).head? with
    | some '(' => drop 1; deeper .round
    | some '[' => drop 1; deeper .square
    | some '\x7b' => drop 1; deeper .curly
    | some '"' => discard text
    | some 'r' => discard text
    | some 'b' => discard bytes
    | some '\'' => discard character
    | some c => if c.isDigit || ['+', '-', '.'].contains c then passNumber else refuse
    | none => refuse

/-- Passes over a part of a value; `deeper` passes over what lies in it. -/
def passPart (ext : Extensions) (deeper : Part → Scanner Unit) : Part → Scanner Unit
  | .value => passValue ext deeper
  | .option => do
    if ext.unwrapVariants then
      if ← accept ')' then return
      if ← holdsRecord then
        deeper .round
        return
    passValue ext deeper
    discard comma
    expect ')'
  | .round => do
    if ← startsField then
      itemsTo ')' (fun _ => do discard name; colon; deeper .value) ()
    else itemsTo ')' (fun _ => deeper .value) ()
  | .square => itemsTo ']' (fun _ => deeper .value) ()
  | .curly => itemsTo '\x7d' (fun _ => do deeper .value; colon; deeper .value) ()

/-- Passes over a part of a value in which others lie no deeper than a limit. -/
def pass (ext : Extensions) : Nat → Part → Scanner Unit
  | 0 => passPart ext fun _ => refuse
  | limit + 1 => passPart ext (pass ext limit)

/-- How deep parts may lie in the value of a field. The record and the field count towards the
limit of 128. -/
def maxDepth : Nat := 126

/-- The fields of a session read so far. -/
structure Fields where
  id : Option String := none
  worldId : Option String := none
  room : Option String := none
  flags : Option Flags := none
  inventory : Option IdSet := none
  gone : Option IdSet := none
  seen : Option IdSet := none
  effects : Option IdSet := none
  failures : Option UInt32 := none
  context : Option (Option String) := none
  cameFrom : Option (Option String) := none

/-- Reads the value of a field that was not given before. -/
def once {α : Type} (before : Option α) (value : Scanner α) : Scanner (Option α) := do
  if before.isSome then refuse
  colon
  return some (← value)

/-- Reads one field into the others. -/
def field (ext : Extensions) (f : Fields) : Scanner Fields := do
  match ← name with
  | "id" => return { f with id := ← once f.id text }
  | "worldId" => return { f with worldId := ← once f.worldId text }
  | "room" => return { f with room := ← once f.room text }
  | "flags" => return { f with flags := ← once f.flags flags }
  | "inventory" => return { f with inventory := ← once f.inventory idSet }
  | "gone" => return { f with gone := ← once f.gone idSet }
  | "seen" => return { f with seen := ← once f.seen idSet }
  | "effects" => return { f with effects := ← once f.effects idSet }
  | "failures" => return { f with failures := ← once f.failures count }
  | "context" => return { f with context := ← once f.context (optional ext) }
  | "cameFrom" => return { f with cameFrom := ← once f.cameFrom (optional ext) }
  | _ =>
    colon
    pass ext maxDepth .value
    return f

/-- The session with these fields, if those are there that it must have. -/
def Fields.session (f : Fields) : Scanner Session := do
  let (some id, some worldId, some room) := (f.id, f.worldId, f.room) | refuse
  return {
    id, worldId, room
    flags := f.flags.getD ∅
    inventory := f.inventory.getD ∅
    gone := f.gone.getD ∅
    seen := f.seen.getD ∅
    effects := f.effects.getD ∅
    failures := f.failures.getD 0
    context := f.context.getD none
    cameFrom := f.cameFrom.getD none }

/-- Tokens in a row, with blanks between them. -/
def tokens : List String → Scanner Unit
  | [] => return
  | token :: rest => do
    space
    unless ← acceptText token do refuse
    tokens rest

/-- What one list of extensions asks for. -/
def extensionList : Nat → Extensions → Scanner Extensions
  | 0, _ => refuse
  | fuel + 1, ext => do
    let ext ←
      match ← name with
      | "implicit_some" => pure { ext with implicitSome := true }
      | "explicit_struct_names" => pure { ext with explicitNames := true }
      | "unwrap_newtypes" => pure ext
      | "unwrap_variant_newtypes" => pure { ext with unwrapVariants := true }
      | _ => refuse
    let more := ← comma
    let named := (← get).head?.any Text.continuesName
    if !more && named then refuse
    if more && named then extensionList fuel ext else return ext

/-- What the lists of extensions in front of the record ask for. -/
def extensions : Nat → Extensions → Scanner Extensions
  | 0, _ => refuse
  | fuel + 1, ext => do
    space
    if (← get).head? = some '#' then
      tokens ["#", "!", "[", "enable", "("]
      space
      let ext ← extensionList ((← get).length + 1) ext
      tokens [")", "]"]
      extensions fuel ext
    else return ext

/-- Reads the whole of a session file. -/
def session : Scanner Session := do
  let ext ← extensions ((← get).length + 1) {}
  if (← get).head?.any Text.continuesName then
    if (← name) ≠ "Session" then refuse
  else if ext.explicitNames then refuse
  space
  expect '('
  let fields ← itemsTo ')' (field ext) {}
  space
  fields.session

end Reader

/-- The session that a file holds, if it holds one. -/
def read? (file : String) : Option Session :=
  Text.Scanner.run? Reader.session file

end TextAdventure.SessionFile
