import TextAdventure.Json.Reader

/-!
# Passing over JSON

What a member of an unknown name holds is passed over, and need only keep the rules of JSON. Numbers
may be of any size, and half a pair of surrogates may stand alone.
-/

namespace TextAdventure.Json.Reader

def skipEscape : Reader Unit := do
  match ← get with
  | [] => fail .textEnds
  | c :: cs =>
    if (simpleEscapes.lookup c).isSome then set cs
    else if c = 'u' then
      set cs
      discard codeUnit
    else refuse .badEscape

/-- Passes over the rest of a text in quotes, which is shorter than so many characters. -/
def skipText : Nat → Reader Unit
  | 0 => fail .textEnds
  | fuel + 1 => do
    match ← get with
    | [] => fail .textEnds
    | c :: cs =>
      if isControl c then fail .controlCharacter
      set cs
      if c = '"' then return
      if c = '\\' then skipEscape
      skipText fuel

def skipQuoted : Reader Unit := do
  skipText ((← get).length + 1)

/-- Takes a digit, which must come next. -/
def expectDigit : Reader Nat := do
  if (← get).isEmpty then fail .badNumber
  firstDigit

/-- Passes over a number after its sign. -/
def skipNumber : Reader Unit := do
  let first ← expectDigit
  if first = 0 then
    if (← get).head?.any Char.isDigit then refuse .badNumber
  discard passDigits
  if ← accept '.' then
    if (← passDigits) = 0 then refuse .badNumber
  if ← startsExponent then
    drop 1
    unless ← accept '-' do discard (accept '+')
    discard expectDigit
    discard passDigits

/-- Passes over a value, in so many steps at most. -/
def skipValue : Nat → Reader Unit
  | 0 => fail .valueEnds
  | fuel + 1 => do
    match ← token .valueEnds with
    | 'n' => word "null".toList
    | 't' => word "true".toList
    | 'f' => word "false".toList
    | '"' => drop 1; skipQuoted
    | '[' => drop 1; skipItems fuel true
    | '\x7b' => drop 1; skipMembers fuel true
    | c =>
      if c = '-' || c.isDigit then
        discard (accept '-')
        skipNumber
      else refuse .noValue
where
  /-- Passes over the items of a list. -/
  skipItems : Nat → Bool → Reader Unit
    | 0, _ => fail .listEnds
    | fuel + 1, first => do
      let c ← token .listEnds
      if c = ']' then drop 1
      else
        unless first do
          if c ≠ ',' then refuse .noCommaInList
          drop 1
        skipValue fuel
        skipItems fuel false
  /-- Passes over the members of an object. -/
  skipMembers : Nat → Bool → Reader Unit
    | 0, _ => fail .objectEnds
    | fuel + 1, first => do
      let c ← token .objectEnds
      if c = '\x7d' then drop 1
      else
        unless first do
          if c ≠ ',' then refuse .noCommaInObject
          drop 1
        discard (token .objectEnds)
        unless ← accept '"' do refuse .keyNotText
        skipQuoted
        colon
        skipValue fuel
        skipMembers fuel false

/-- Passes over the value that comes next. Each character takes two steps at most: one into the
value that it begins, and one into what this encloses. -/
def skip : Reader Unit := do
  skipValue (2 * (← get).length + 2)

end TextAdventure.Json.Reader
