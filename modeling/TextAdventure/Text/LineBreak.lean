import TextAdventure.Text.BreakTable

/-!
# Where lines may be broken

The rules of the Unicode line breaking algorithm. Whether a line may be broken before a character
depends on the class of it and on what precedes it: the class of the last character that is no
space and no mark of another, and a few facts about what came in between (`Before`). The rules are
tried in a row; the first that fits decides.
-/

namespace TextAdventure.Text

/-- What precedes a place in a text. -/
structure Before where
  /-- The class of the last character, apart from its marks and the spaces after it. -/
  last : BreakClass := .hard
  /-- Spaces follow that character. -/
  spaced : Bool := false
  /-- A joiner of zero width is right before the place. -/
  joined : Bool := false
  /-- The last character is a hyphen or the like after a letter of Hebrew. -/
  afterHebrew : Bool := false
  /-- The last character is the first of two letters that make a flag. -/
  halfFlag : Bool := false

namespace BreakClass

def endsLine (c : BreakClass) : Bool :=
  [hard, carriageReturn, lineFeed].contains c

def isMark (c : BreakClass) : Bool :=
  [mark, zeroWidthJoiner].contains c

def isLetter (c : BreakClass) : Bool :=
  [letter, hebrew].contains c

def isHangul (c : BreakClass) : Bool :=
  [leadingJamo, vowelJamo, trailingJamo, openSyllable, closedSyllable].contains c

def isPicture (c : BreakClass) : Bool :=
  [ideograph, emoji, emojiModifier].contains c

/-- Whether characters of two classes are parts of a number, or of a word with one. -/
def joinsNumber (a b : BreakClass) : Bool :=
  (a.isLetter && [digit, beforeNumber, afterNumber].contains b) ||
    ([digit, beforeNumber, afterNumber].contains a && b.isLetter) ||
    (a = beforeNumber && b.isPicture) || (a.isPicture && b = afterNumber) ||
    ([closing, closingRound, digit].contains a && [beforeNumber, afterNumber].contains b) ||
    ([beforeNumber, afterNumber].contains a && [opening, digit].contains b) ||
    ([hyphen, separator, digit, slash].contains a && b = digit)

/-- Whether characters of two classes are parts of a syllable of Hangul, or of a number with
one. -/
def joinsSyllable (a b : BreakClass) : Bool :=
  (a = leadingJamo && [leadingJamo, vowelJamo, openSyllable, closedSyllable].contains b) ||
    ([vowelJamo, openSyllable].contains a && [vowelJamo, trailingJamo].contains b) ||
    ([trailingJamo, closedSyllable].contains a && b = trailingJamo) ||
    (a.isHangul && b = afterNumber) || (a = beforeNumber && b.isHangul)

/-- Whether characters of two classes are parts of a word, or of one with brackets. -/
def joinsWord (a b : BreakClass) : Bool :=
  ((a.isLetter || a = separator) && b.isLetter) ||
    ((a.isLetter || a = digit) && b = opening) ||
    (a = closingRound && (b.isLetter || b = digit)) || (a = emoji && b = emojiModifier)

end BreakClass

namespace Before

/-- Whether a mark that comes next belongs to the last character. -/
def takesMark (p : Before) : Bool :=
  !p.spaced && !p.last.endsLine && p.last ≠ .zeroWidthSpace && p.last ≠ .space

/-- The class that the next character counts as: a mark that belongs to none is a letter. -/
def counted (p : Before) (c : BreakClass) : BreakClass :=
  if c.isMark && !p.takesMark then .letter else c

/-- What precedes the place after a character. -/
def after (p : Before) (c : BreakClass) : Before :=
  if c = .space then
    if p.last.endsLine && !p.spaced then { last := .space, spaced := true }
    else { p with spaced := true, joined := false }
  else if c.isMark && p.takesMark then { p with joined := c = .zeroWidthJoiner }
  else
    let adjacent := !p.spaced
    { last := p.counted c
      joined := c = .zeroWidthJoiner
      afterHebrew := adjacent && p.last = .hebrew && (c = .hyphen || c = .breakAfter)
      halfFlag := c = .flagLetter && !(adjacent && p.halfFlag) }

/-- Whether two characters with no space between them stay together. -/
def joins (p : Before) (c : BreakClass) : Bool :=
  if c = .quotation || p.last = .quotation then true
  else if c = .contingent || p.last = .contingent then false
  else
    [.breakAfter, .hyphen, .nonstarter, .inseparable].contains c || p.last = .breakBefore ||
      p.afterHebrew || (p.last = .slash && c = .hebrew) || p.last.joinsNumber c ||
      p.last.joinsSyllable c || p.last.joinsWord c || (p.halfFlag && c = .flagLetter)

/-- Whether what precedes and the next character stay together even with spaces between them. -/
def joinsSpaced (p : Before) (c : BreakClass) : Bool :=
  [.wordJoiner, .closing, .closingRound, .exclamation, .separator, .slash].contains c ||
    p.last = .opening || (p.last = .quotation && c = .opening) ||
    ([.closing, .closingRound].contains p.last && c = .nonstarter) ||
    (p.last = .breakAround && c = .breakAround)

/-- Whether what precedes or the next character is one that keeps its sides together. -/
def glued (p : Before) (c : BreakClass) : Bool :=
  [.wordJoiner, .glue].contains p.last ||
    (c = .glue && p.last ≠ .breakAfter && p.last ≠ .hyphen)

/-- Whether a line may be broken before a character. -/
def breaks (p : Before) (c : BreakClass) : Bool :=
  if p.last.endsLine && !p.spaced then p.last ≠ .carriageReturn || c ≠ .lineFeed
  else if c.endsLine || c = .space || c = .zeroWidthSpace then false
  else if p.last = .zeroWidthSpace then true
  else if p.joined || (c.isMark && p.takesMark) then false
  else
    let c := p.counted c
    if p.joinsSpaced c then false
    else if p.spaced then true
    else !(p.glued c || p.joins c)

end Before

/-- For each character, whether a line may be broken before it, after what precedes them. -/
def breaksFrom (p : Before) : List Char → List Bool
  | [] => []
  | c :: cs => p.breaks (breakClass c) :: breaksFrom (p.after (breakClass c)) cs

/-- For each character of a text, whether a line may be broken before it. -/
def lineBreaks (cs : List Char) : List Bool :=
  match breaksFrom {} cs with
  | _ :: later => false :: later
  | [] => []

end TextAdventure.Text
