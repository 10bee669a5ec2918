import TextAdventure.Decimal.Binary64
import TextAdventure.Text.Scanner

/-!
# Texts, numbers and times of a settings file

Only texts are kept; numbers and times need only be right. A whole number has 64 binary digits with
its sign, a number with a fraction or an exponent is not too great, though it may be too small, and
a day is a day of its month.
-/

namespace TextAdventure.Toml

open Text (Scanner)
open Text.Scanner

/-- Blanks within a line. -/
def isSpace (c : Char) : Bool :=
  c = ' ' || c = '\t'

/-- The characters that may stand in comments. -/
def isPrintable (c : Char) : Bool :=
  c = '\t' || (0x20 ≤ c.toNat && c.toNat ≠ 0x7F)

def space : Scanner Unit :=
  modify (·.dropWhile isSpace)

/-- Takes the end of a line if it is next. -/
def acceptNewline : Scanner Bool := do
  if ← accept '\n' then return true
  acceptText "\r\n"

/-! ### Texts -/

/-- Passes over blanks and the ends of lines. -/
def gap : Nat → Scanner Unit
  | 0 => return
  | fuel + 1 => do
    space
    if ← acceptNewline then gap fuel

/-- The character that an escape is for, after its backslash. -/
def escaped : Scanner Char := do
  match ← next with
  | 'b' => return '\x08'
  | 'f' => return '\x0c'
  | 'n' => return '\n'
  | 'r' => return '\r'
  | 't' => return '\t'
  | '"' => return '"'
  | '\\' => return '\\'
  | 'u' => charOf (← hexadecimal 4)
  | 'U' => charOf (← hexadecimal 8)
  | _ => refuse

/-- How a text is quoted: by which character, and whether over several lines. Backslashes mean
something in double quotes only. -/
structure Quoting where
  quote : Char
  lines : Bool

namespace Quoting

/-- Takes a backslash that means something. -/
def acceptEscape (q : Quoting) : Scanner Bool :=
  if q.quote = '"' then accept '\\' else return false

/-- Takes the end of a line that the text goes on after. -/
def acceptLineEnd (q : Quoting) : Scanner Bool :=
  if q.lines then acceptNewline else return false

/-- How many quotes are left of a run of so many if it ends the text; none if it does not. Up to two
quotes before the end belong to a text of several lines. -/
def closing (q : Quoting) (run : Nat) : Option Nat :=
  if !q.lines then some (run - 1)
  else if run < 3 then none
  else some (run - min run 5)

/-- The rest of a text, which is shorter than so many characters. -/
def body (q : Quoting) : Nat → Scanner (List Char)
  | 0 => refuse
  | fuel + 1 => do
    let text ← get
    let run := (text.takeWhile (· == q.quote)).length
    if 0 < run then
      match q.closing run with
      | some left =>
        drop (run - left)
        return List.replicate (run - left - (if q.lines then 3 else 1)) q.quote
      | none =>
        drop run
        return List.replicate run q.quote ++ (← body q fuel)
    else if ← q.acceptEscape then
      let rest ← get
      space
      if ← q.acceptLineEnd then
        gap fuel
        body q fuel
      else
        set rest
        let c ← escaped
        return c :: (← body q fuel)
    else if ← q.acceptLineEnd then
      return '\n' :: (← body q fuel)
    else
      let c ← next
      unless isPrintable c do refuse
      return c :: (← body q fuel)

/-- A text after its first quotes. -/
def text (q : Quoting) : Scanner String := do
  if q.lines then discard acceptNewline
  return String.ofList (← q.body ((← get).length + 1))

end Quoting

/-- A text within one line. -/
def lineText (quote : Char) : Scanner String := do
  expect quote
  Quoting.text ⟨quote, false⟩

/-- A text within one line or over several. -/
def text (quote : Char) : Scanner String := do
  if ← acceptText (String.ofList [quote, quote, quote]) then Quoting.text ⟨quote, true⟩
  else lineText quote

/-! ### Numbers -/

/-- More digits, each of which may have an underscore before it. -/
def moreDigits (isDigit : Char → Bool) : List Char → List Char × List Char
  | '_' :: c :: cs =>
    if isDigit c then
      let (digits, rest) := moreDigits isDigit cs
      (c :: digits, rest)
    else ([], '_' :: c :: cs)
  | c :: cs =>
    if isDigit c then
      let (digits, rest) := moreDigits isDigit cs
      (c :: digits, rest)
    else ([], c :: cs)
  | [] => ([], [])

/-- Digits with underscores between them, at least one. -/
def digits (isDigit : Char → Bool) : Scanner (List Char) := do
  let first ← next
  unless isDigit first do refuse
  let (more, rest) := moreDigits isDigit (← get)
  set rest
  return first :: more

/-- Takes a sign if there is one, and tells whether it is a minus. -/
def sign : Scanner Bool := do
  if ← accept '-' then return true
  discard (accept '+')
  return false

/-- The digits of a decimal number, which has no zeros in front. -/
def decimalDigits : Scanner (List Char) := do
  if ← accept '0' then return ['0'] else digits Char.isDigit

/-- The value of digits to a base. -/
def valueOf (base : Nat) (cs : List Char) : Nat :=
  cs.foldl (fun n c => base * n + (Text.Hexadecimal.value? c).getD 0) 0

/-- A whole number in a base after its mark. -/
def based (base : Nat) : Scanner Unit := do
  let cs ← digits fun c => (Text.Hexadecimal.value? c).any (· < base)
  unless valueOf base cs < Nat.pow 2 63 do refuse

def integer : Scanner Unit := do
  if ← acceptText "0x" then based 16
  else if ← acceptText "0o" then based 8
  else if ← acceptText "0b" then based 2
  else
    let negative ← sign
    let size := valueOf 10 (← decimalDigits)
    unless size < Nat.pow 2 63 || (negative && size = Nat.pow 2 63) do refuse

/-- A power of ten that is greater than any number has, or smaller. -/
def farPower : Nat := 400

/-- Whether a decimal is not too great for a number. -/
def isFinite (significand : List Char) (power : Int) : Bool :=
  let n := Decimal.value significand
  let size : Int := (Decimal.digits n).length + power
  n = 0 || size < -farPower || (size ≤ farPower && (Decimal.Binary64.nearest n power).isSome)

/-- The exponent of a number. -/
def exponent : Scanner Int := do
  let negative ← sign
  let size := Decimal.value (← digits Char.isDigit)
  return if negative then -size else size

def startsExponent (c : Char) : Bool :=
  c = 'e' || c = 'E'

/-- A number with a fraction or an exponent. -/
def decimal : Scanner Unit := do
  let negative ← sign
  let whole ← decimalDigits
  let hasFraction ← accept '.'
  let fraction ← if hasFraction then digits Char.isDigit else pure []
  let hasExponent ← nextIs startsExponent
  unless hasFraction || hasExponent do refuse
  let power ← if hasExponent then drop 1 *> exponent else pure 0
  unless negative || isFinite (whole ++ fraction) (power - fraction.length) do refuse

/-- A number that is infinite or none. -/
def special : Scanner Unit := do
  discard sign
  unless ← acceptText "inf" do expectText "nan"

def number : Scanner Unit :=
  decimal <|> special <|> integer

/-! ### Times -/

/-- A number of so many digits within bounds. -/
def bounded (size least greatest : Nat) : Scanner Nat := do
  let ds := (← get).take size
  unless ds.length = size && ds.all Char.isDigit do refuse
  drop size
  let n := Decimal.value ds
  unless least ≤ n && n ≤ greatest do refuse
  return n

def isLeap (year : Nat) : Bool :=
  year % 4 = 0 && (year % 100 ≠ 0 || year % 400 = 0)

/-- The number of days of a month. -/
def days (year month : Nat) : Nat :=
  if month = 2 then if isLeap year then 29 else 28
  else if [4, 6, 9, 11].contains month then 30
  else 31

def date : Scanner Unit := do
  let year ← bounded 4 0 9999
  expect '-'
  let month ← bounded 2 1 12
  expect '-'
  discard (bounded 2 1 (days year month))

/-- The hour and the minute. -/
def clock : Scanner Unit := do
  discard (bounded 2 0 23)
  expect ':'
  discard (bounded 2 0 59)

/-- The time of a day. -/
def time : Scanner Unit := do
  clock
  expect ':'
  discard (bounded 2 0 60)
  if ← accept '.' then
    if (← takeWhile Char.isDigit).isEmpty then refuse

/-- How far a clock is from that of Greenwich. -/
def offset : Scanner Unit := do
  if ← nextIs fun c => c = 'Z' || c = 'z' then drop 1
  else if ← nextIs fun c => c = '+' || c = '-' then
    drop 1
    clock

/-- What may come between a date and a time. -/
def isTimeMark (c : Char) : Bool :=
  c = 'T' || c = 't' || c = ' '

/-- A date, which may go on with a time, or a time alone. -/
def moment : Scanner Unit :=
  (do
    date
    if ← nextIs isTimeMark then (drop 1 *> time *> offset) <|> pure ()) <|>
  time

end TextAdventure.Toml
