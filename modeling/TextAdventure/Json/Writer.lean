import TextAdventure.Decimal.Digits
import TextAdventure.Text.Hexadecimal

/-!
# Writing JSON

Texts are written without blanks between tokens, and only what must be is escaped.
-/

namespace TextAdventure.Json

namespace Writer

/-- A character within quotes. -/
def escapeChar (c : Char) : List Char :=
  if c = '"' then ['\\', '"']
  else if c = '\\' then ['\\', '\\']
  else if c = '\x08' then ['\\', 'b']
  else if c = '\x0c' then ['\\', 'f']
  else if c = '\n' then ['\\', 'n']
  else if c = '\r' then ['\\', 'r']
  else if c = '\t' then ['\\', 't']
  else if c.toNat < 0x20 then
    ['\\', 'u', '0', '0', Text.Hexadecimal.digit (c.toNat / 16),
      Text.Hexadecimal.digit (c.toNat % 16)]
  else [c]

def text (t : String) : List Char :=
  '"' :: (t.toList.flatMap escapeChar ++ ['"'])

def bool (b : Bool) : List Char :=
  (if b then "true" else "false").toList

def nat (n : Nat) : List Char :=
  Decimal.digits n

/-- A value, or `null` for none. -/
def optional {α : Type} (value : α → List Char) : Option α → List Char
  | some a => value a
  | none => "null".toList

/-- Items with commas between them. -/
def separated : List (List Char) → List Char
  | [] => []
  | [item] => item
  | item :: items => item ++ ',' :: separated items

def list (items : List (List Char)) : List Char :=
  '[' :: (separated items ++ [']'])

def member (key : String) (value : List Char) : List Char :=
  text key ++ ':' :: value

def object (members : List (String × List Char)) : List Char :=
  '\x7b' :: (separated (members.map fun m => member m.1 m.2) ++ ['\x7d'])

end Writer

end TextAdventure.Json
