import TextAdventure.Decimal.Digits
import TextAdventure.Text.Quoted

/-!
# Faults of JSON texts

Why a JSON text is refused, and where. A fault is of one of three categories: the text ends too
early, it breaks the rules of JSON, or it is JSON but not what is wanted.
-/

namespace TextAdventure.Json

/-- What was found where something else is wanted. -/
inductive Found where
  | null
  | bool (value : Bool)
  | integer (value : Int)
  | decimal (text : String)
  | string (text : String)
  | list
  | object

def Found.describe : Found → String
  | null => "null"
  | bool true => "boolean `true`"
  | bool false => "boolean `false`"
  | integer value => "integer `" ++ Decimal.ofInt value ++ "`"
  | decimal text => "floating point `" ++ text ++ "`"
  | string text => "string " ++ Text.quote ['"'] text
  | list => "sequence"
  | object => "map"

inductive Cause where
  | listEnds
  | objectEnds
  | textEnds
  | valueEnds
  | noColon
  | noCommaInList
  | noCommaInObject
  | noWord
  | noValue
  | badEscape
  | badNumber
  | hugeNumber
  | controlCharacter
  | keyNotText
  | loneSurrogate
  | endlessSurrogate
  | trailingComma
  | trailingText
  | wrongType (found : Found) (wanted : String)
  | wrongValue (found : Found) (wanted : String)
  | wrongLength (length : Nat) (wanted : String)
  | missingField (name : String)
  | repeatedField (name : String)
  | unknownVerb (name : String) (verbs : List String)

inductive Category where
  | ends
  | rules
  | data
deriving DecidableEq

namespace Cause

def category : Cause → Category
  | listEnds | objectEnds | textEnds | valueEnds => .ends
  | wrongType .. | wrongValue .. | wrongLength .. | missingField _ | repeatedField _
  | unknownVerb .. => .data
  | _ => .rules

def describe : Cause → String
  | listEnds => "EOF while parsing a list"
  | objectEnds => "EOF while parsing an object"
  | textEnds => "EOF while parsing a string"
  | valueEnds => "EOF while parsing a value"
  | noColon => "expected `:`"
  | noCommaInList => "expected `,` or `]`"
  | noCommaInObject => "expected `,` or `\x7d`"
  | noWord => "expected ident"
  | noValue => "expected value"
  | badEscape => "invalid escape"
  | badNumber => "invalid number"
  | hugeNumber => "number out of range"
  | controlCharacter =>
    "control character (\\u0000-\\u001F) found while parsing a string"
  | keyNotText => "key must be a string"
  | loneSurrogate => "lone leading surrogate in hex escape"
  | endlessSurrogate => "unexpected end of hex escape"
  | trailingComma => "trailing comma"
  | trailingText => "trailing characters"
  | wrongType found wanted => "invalid type: " ++ found.describe ++ ", expected " ++ wanted
  | wrongValue found wanted => "invalid value: " ++ found.describe ++ ", expected " ++ wanted
  | wrongLength length wanted =>
    "invalid length " ++ Decimal.ofNat length ++ ", expected " ++ wanted
  | missingField name => "missing field `" ++ name ++ "`"
  | repeatedField name => "duplicate field `" ++ name ++ "`"
  | unknownVerb name verbs =>
    "unknown variant `" ++ name ++ "`, expected one of " ++
      String.intercalate ", " (verbs.map fun v => "`" ++ v ++ "`")

end Cause

/-- A cause and its place: so many bytes after the beginning of the rest of the text. -/
structure Fault where
  cause : Cause
  rest : List Char
  past : Nat := 0

namespace Fault

/-- A fault of the character that comes next. -/
def peek (cause : Cause) (rest : List Char) : Fault :=
  { cause, rest, past := 1 }

/-- A fault of what comes just before the rest. -/
def here (cause : Cause) (rest : List Char) : Fault :=
  { cause, rest }

/-- The bytes that come before the place of the fault. -/
def offset (f : Fault) (text : String) : Nat :=
  min text.utf8ByteSize
    (text.utf8ByteSize - (String.ofList f.rest).utf8ByteSize + f.past)

/-- The line and the bytes before the place on it, of a text that goes on from a line and column,
so many bytes before the place. -/
def locate : List Char → Nat → Nat → Nat → Nat × Nat
  | [], _, line, column => (line, column)
  | c :: cs, bytes, line, column =>
    if bytes < c.utf8Size then (line, column + bytes)
    else if c = '\n' then locate cs (bytes - 1) (line + 1) 0
    else locate cs (bytes - c.utf8Size) line (column + c.utf8Size)

/-- The message of a fault, with its line and column. -/
def describe (f : Fault) (text : String) : String :=
  let (line, column) := locate text.toList (f.offset text) 1 0
  f.cause.describe ++ " at line " ++ Decimal.ofNat line ++ " column " ++ Decimal.ofNat column

end Fault

end TextAdventure.Json
