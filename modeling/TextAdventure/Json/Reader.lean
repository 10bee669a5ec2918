import TextAdventure.Decimal.Binary64
import TextAdventure.Json.Fault
import TextAdventure.Text.Hexadecimal

/-!
# Reading JSON

Readers take what they want from the front of a text, or find the first fault in it, going from
left to right. There is no value in between: a reader knows what it wants, so a text of the
wrong kind is a fault where it stands.
-/

namespace TextAdventure.Json

/-- Reads from the front of a text, or finds a fault in it. -/
abbrev Reader (α : Type) := StateT (List Char) (Except Fault) α

namespace Reader

variable {α : Type}

/-- Finds a fault in what comes just before. -/
def fail (cause : Cause) : Reader α := do
  throw (.here cause (← get))

/-- Finds a fault in the character that comes next. -/
def refuse (cause : Cause) : Reader α := do
  throw (.peek cause (← get))

/-- The characters that may stand between tokens. -/
def isBlank (c : Char) : Bool :=
  c = ' ' || c = '\n' || c = '\t' || c = '\r'

def skipBlanks : Reader Unit :=
  modify (·.dropWhile isBlank)

/-- Takes a character if it is next. -/
def accept (c : Char) : Reader Bool := do
  match ← get with
  | d :: cs => if c = d then set cs; return true else return false
  | [] => return false

def drop (n : Nat) : Reader Unit :=
  modify (·.drop n)

def takeWhile (p : Char → Bool) : Reader (List Char) := do
  let (taken, rest) := (← get).span p
  set rest
  return taken

/-- The first character of the next token, which stays where it is. -/
def token (atEnd : Cause) : Reader Char := do
  skipBlanks
  match ← get with
  | c :: _ => return c
  | [] => refuse atEnd

/-- Takes the characters of a word. -/
def word : List Char → Reader Unit
  | [] => return
  | c :: cs => do
    match ← get with
    | [] => fail .valueEnds
    | d :: rest =>
      if c = d then
        set rest
        word cs
      else refuse .noWord

/-! ### Texts -/

/-- The number of the four hexadecimal digits that a text begins with. -/
def fourDigits? : List Char → Option Nat
  | a :: b :: c :: d :: _ => Text.Hexadecimal.number? [a, b, c, d]
  | _ => none

/-- The code unit that four hexadecimal digits are for. -/
def codeUnit : Reader Nat := do
  let text ← get
  match fourDigits? text with
  | some n => set (text.drop 4); return n
  | none =>
    if (String.ofList (text.take 4)).utf8ByteSize < 4 then throw (.here .textEnds [])
    throw { cause := .badEscape, rest := text, past := 4 }

/-- Takes a character of an escape, of which more must come after it. -/
def expectEscape (c : Char) : Reader Unit := do
  if (← get).isEmpty then fail .textEnds
  unless ← accept c do refuse .endlessSurrogate

/-- The character that code units in escapes are for. -/
def unicode : Reader Char := do
  let unit ← codeUnit
  if 0xDC00 ≤ unit && unit ≤ 0xDFFF then fail .loneSurrogate
  if unit < 0xD800 || 0xDFFF < unit then return Char.ofNat unit
  expectEscape '\\'
  expectEscape 'u'
  let low ← codeUnit
  if low < 0xDC00 || 0xDFFF < low then fail .loneSurrogate
  return Char.ofNat (0x10000 + 0x400 * (unit - 0xD800) + (low - 0xDC00))

/-- The characters that an escape of one letter is for. -/
def simpleEscapes : List (Char × Char) :=
  [('"', '"'), ('\\', '\\'), ('/', '/'), ('b', '\x08'), ('f', '\x0c'), ('n', '\n'), ('r', '\r'),
    ('t', '\t')]

/-- The character that an escape is for, after its backslash. -/
def escaped : Reader Char := do
  match ← get with
  | [] => fail .textEnds
  | c :: cs =>
    match simpleEscapes.lookup c with
    | some d => set cs; return d
    | none =>
      if c = 'u' then
        set cs
        unicode
      else refuse .badEscape

def isControl (c : Char) : Bool :=
  c.toNat < 0x20

/-- The rest of a text in quotes, which is shorter than so many characters. -/
def textBody : Nat → Reader (List Char)
  | 0 => fail .textEnds
  | fuel + 1 => do
    match ← get with
    | [] => fail .textEnds
    | c :: cs =>
      if isControl c then refuse .controlCharacter
      set cs
      if c = '"' then return []
      else if c = '\\' then
        let d ← escaped
        return d :: (← textBody fuel)
      else return c :: (← textBody fuel)

/-- The rest of a text after its first quote. -/
def quoted : Reader String := do
  return String.ofList (← textBody ((← get).length + 1))

/-! ### Numbers -/

inductive Number where
  | whole (value : Int)
  | decimal (negative : Bool) (magnitude : Decimal.Binary64)

def Number.found : Number → Found
  | whole value => .integer value
  | decimal negative magnitude =>
    .decimal ((if negative then "-" else "") ++ magnitude.toText)

/-- Appends digits to a number as long as it stays below a bound, and counts them. -/
def gather (bound : Nat) (n count : Nat) : List Char → (Nat × Nat) × List Char
  | c :: cs =>
    let next := 10 * n + (c.toNat - 48)
    if c.isDigit && next < bound then gather bound next (count + 1) cs else ((n, count), c :: cs)
  | [] => ((n, count), [])

/-- Appends the digits that come next to a number below a bound. -/
def digits (bound n : Nat) : Reader (Nat × Nat) := do
  let (result, rest) := gather bound n 0 (← get)
  set rest
  return result

/-- How many digits come next. -/
def passDigits : Reader Nat := do
  return (← takeWhile Char.isDigit).length

/-- Whether the next character may begin an exponent. -/
def startsExponent : Reader Bool := do
  return (← get).head?.any fun c => c = 'e' || c = 'E'

/-- A number with a fraction or an exponent, or one that is too great for a whole number. -/
def scaled (negative : Bool) (significand : Nat) (power : Int) : Reader Number := do
  match Decimal.Binary64.ofDecimal significand power with
  | some magnitude => return .decimal negative magnitude
  | none => fail .hugeNumber

/-- The first digit of a number or of an exponent. -/
def firstDigit : Reader Nat := do
  match ← get with
  | [] => fail .valueEnds
  | c :: cs =>
    unless c.isDigit do refuse .badNumber
    set cs
    return c.toNat - 48

/-- The exponent of a number, and what comes of it. -/
def exponent (negative : Bool) (significand : Nat) (power : Int) : Reader Number := do
  drop 1
  let below ← accept '-'
  unless below do discard (accept '+')
  let (size, _) ← digits (Nat.pow 2 31) (← firstDigit)
  if (← get).head?.any Char.isDigit then
    drop 1
    if significand ≠ 0 && !below then fail .hugeNumber
    discard passDigits
    return .decimal negative .zero
  scaled negative significand (if below then power - size else power + size)

/-- The greatest magnitude of a whole number. -/
def maxWhole (negative : Bool) : Nat :=
  if negative then Nat.pow 2 63 else Nat.pow 2 64 - 1

/-- A number after its sign. -/
def number (negative : Bool) : Reader Number := do
  let first ← firstDigit
  if first = 0 && (← get).head?.any Char.isDigit then refuse .badNumber
  let (whole, _) ← digits (Nat.pow 2 64) first
  let dropped ← passDigits
  if ← accept '.' then
    let (significand, count) ← digits (Nat.pow 2 64) whole
    if count + (← passDigits) = 0 then
      refuse (if (← get).isEmpty then .valueEnds else .badNumber)
    let power : Int := dropped - count
    if ← startsExponent then exponent negative significand power
    else scaled negative significand power
  else if ← startsExponent then exponent negative whole dropped
  else if dropped = 0 && whole ≤ maxWhole negative && !(negative && whole = 0) then
    return .whole (if negative then -whole else whole)
  else scaled negative whole dropped

/-! ### Values of one kind -/

/-- Finds what is next to be of the wrong kind. -/
def mismatch (wanted : String) : Reader α := do
  match (← get).head? with
  | some 'n' =>
    word "null".toList
    fail (.wrongType .null wanted)
  | some 't' =>
    word "true".toList
    fail (.wrongType (.bool true) wanted)
  | some 'f' =>
    word "false".toList
    fail (.wrongType (.bool false) wanted)
  | some '"' =>
    drop 1
    let found ← quoted
    fail (.wrongType (.string found) wanted)
  | some '[' => fail (.wrongType .list wanted)
  | some '\x7b' => fail (.wrongType .object wanted)
  | some c =>
    if c = '-' || c.isDigit then
      let found ← number (← accept '-')
      fail (.wrongType found.found wanted)
    else refuse .noValue
  | none => refuse .noValue

/-- A text, which is called so if it is not there. -/
def text (wanted : String) : Reader String := do
  if (← token .valueEnds) = '"' then
    drop 1
    quoted
  else mismatch wanted

def bool : Reader Bool := do
  match ← token .valueEnds with
  | 't' => word "true".toList; return true
  | 'f' => word "false".toList; return false
  | _ => mismatch "a boolean"

/-- A whole number of 32 binary digits. -/
def word32 : Reader UInt32 := do
  let c ← token .valueEnds
  if c = '-' || c.isDigit then
    match ← number (← accept '-') with
    | .whole value =>
      if 0 ≤ value && value < UInt32.size then return UInt32.ofNat value.toNat
      else fail (.wrongValue (.integer value) "u32")
    | found => fail (.wrongType found.found "u32")
  else mismatch "u32"

/-- What is wanted, or nothing where `null` stands. -/
def optional (value : Reader α) : Reader (Option α) := do
  skipBlanks
  if (← get).head? = some 'n' then
    word "null".toList
    return none
  return some (← value)

/-! ### Lists and objects -/

/-- Whether another item follows in a list, or else its end, which is taken. -/
def moreItems (first : Bool) : Reader Bool := do
  let c ← token .listEnds
  if c = ']' then
    drop 1
    return false
  unless first do
    if c ≠ ',' then refuse .noCommaInList
    drop 1
    if (← token .valueEnds) = ']' then refuse .trailingComma
  return true

/-- Whether another member follows in an object, whose first quote is taken, or else the end, which
is taken too. -/
def moreMembers (first : Bool) : Reader Bool := do
  let c ← token .objectEnds
  if c = '\x7d' then
    drop 1
    return false
  unless first do
    if c ≠ ',' then refuse .noCommaInObject
    drop 1
    if (← token .valueEnds) = '\x7d' then refuse .trailingComma
  unless ← accept '"' do refuse .keyNotText
  return true

/-- The colon between a key and its value. -/
def colon : Reader Unit := do
  discard (token .objectEnds)
  unless ← accept ':' do refuse .noColon

variable {σ : Type}

/-- The items of a list one after another, from the one that is `first` or not. -/
def items (item : σ → Reader σ) : Nat → Bool → σ → Reader σ
  | 0, _, _ => fail .listEnds
  | fuel + 1, first, sofar => do
    if ← moreItems first then items item fuel false (← item sofar) else return sofar

/-- The members of an object one after another; the value after its key is left to the member. -/
def members (member : String → σ → Reader σ) : Nat → Bool → σ → Reader σ
  | 0, _, _ => fail .objectEnds
  | fuel + 1, first, sofar => do
    if ← moreMembers first then
      let key ← quoted
      members member fuel false (← member key sofar)
    else return sofar

def list (wanted : String) (item : σ → Reader σ) (start : σ) : Reader σ := do
  if (← token .valueEnds) = '[' then
    drop 1
    items item ((← get).length + 1) true start
  else mismatch wanted

def object (wanted : String) (member : String → σ → Reader σ) (start : σ) : Reader σ := do
  if (← token .valueEnds) = '\x7b' then
    drop 1
    members member ((← get).length + 1) true start
  else mismatch wanted

/-- Reads a whole text. -/
def parse (reader : Reader α) (text : String) : Except Fault α := do
  let whole : Reader α := do
    let value ← reader
    skipBlanks
    unless (← get).isEmpty do refuse .trailingText
    return value
  return (← whole.run text.toList).1

end Reader

end TextAdventure.Json
