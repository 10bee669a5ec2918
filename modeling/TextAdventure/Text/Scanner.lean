import TextAdventure.Text.Hexadecimal

/-!
# Scanners

A scanner takes what it wants from the front of a text, or refuses the text. The readers of files
are put together from scanners.
-/

namespace TextAdventure.Text

/-- Takes something from the front of a text, or refuses it. -/
abbrev Scanner (α : Type) := StateT (List Char) Option α

namespace Scanner

variable {α : Type}

def refuse : Scanner α :=
  StateT.lift none

/-- Takes a character if it is next. -/
def accept (c : Char) : Scanner Bool := do
  match ← get with
  | d :: cs => if c = d then set cs; return true else return false
  | [] => return false

def expect (c : Char) : Scanner Unit := do
  unless ← accept c do refuse

/-- Whether the next character has a property. -/
def nextIs (p : Char → Bool) : Scanner Bool := do
  return (← get).head?.any p

def next : Scanner Char := do
  match ← get with
  | c :: cs => set cs; return c
  | [] => refuse

/-- Whether a text is next. -/
def startsWith (start : String) : Scanner Bool := do
  return start.toList.isPrefixOf (← get)

def drop (n : Nat) : Scanner Unit :=
  modify (·.drop n)

/-- Takes a text if it is next. -/
def acceptText (start : String) : Scanner Bool := do
  if ← startsWith start then
    drop start.length
    return true
  return false

def expectText (start : String) : Scanner Unit := do
  unless ← acceptText start do refuse

def takeWhile (p : Char → Bool) : Scanner (List Char) := do
  let (taken, rest) := (← get).span p
  set rest
  return taken

/-- The character with a code, if it has one. -/
def charOf (code : Nat) : Scanner Char :=
  if code.isValidChar then return Char.ofNat code else refuse

/-- A number of so many hexadecimal digits. -/
def hexadecimal (size : Nat) : Scanner Nat := do
  let digits := (← get).take size
  if digits.length < size then refuse
  let some n := Hexadecimal.number? digits | refuse
  drop size
  return n

/-- What a scanner takes from a whole text, of which it must leave nothing. -/
def run? (scanner : Scanner α) (text : String) : Option α :=
  match scanner.run text.toList with
  | some (a, []) => some a
  | _ => none

end Scanner

end TextAdventure.Text
