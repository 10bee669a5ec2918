import TextAdventure.Text.CaseTable

/-!
# Lower case

Texts are lower-cased by the full Unicode mapping. It treats each character by itself, except
that a capital sigma at the end of a word becomes the final form `ς`.
-/

namespace TextAdventure.Text

/-- The lower-case form of an ASCII capital, and any other character as it is. -/
def asciiLower (c : Char) : Char :=
  if 'A' ≤ c && c ≤ 'Z' then Char.ofNat (c.toNat + 32) else c

/-- The lower-case form of a code point above U+007F. -/
def lowerNat (n : Nat) : Nat :=
  match lowerRuns.find? fun (first, last, step, _) =>
      first ≤ n && n ≤ last && (n - first) % step = 0 with
  | some (first, _, _, lower) => lower + (n - first)
  | none => n

/-- The lower-case form of a character by itself: one character, but two for `İ`. -/
def lowerChar (c : Char) : List Char :=
  if c.toNat < 0x80 then [asciiLower c]
  else if c.toNat = 0x130 then ['i', Char.ofNat 0x307]
  else [Char.ofNat (lowerNat c.toNat)]

/-- Whether a character is a letter with case. -/
def isCased (c : Char) : Bool :=
  if c.toNat < 0x80 then c.isAlpha else inRanges casedRanges c.toNat

/-- Whether a character is skipped in looking for the letters next to a sigma. -/
def isCaseIgnorable (c : Char) : Bool :=
  if c.toNat < 0x80 then ['\'', '.', ':', '^', Char.ofNat 0x60].contains c
  else inRanges ignorableRanges c.toNat

/-- Whether the first character that counts is a letter with case. -/
def startsCased (cs : List Char) : Bool :=
  match cs.dropWhile isCaseIgnorable with
  | c :: _ => isCased c
  | [] => false

/-- Lower case of a text after another, whose last character that counts is a letter with case
or not. -/
def lowercaseAfter (cased : Bool) : List Char → List Char
  | [] => []
  | c :: cs =>
    let lower :=
      if c = 'Σ' then [if cased && !startsCased cs then 'ς' else 'σ'] else lowerChar c
    lower ++ lowercaseAfter (if isCaseIgnorable c then cased else isCased c) cs

def lowercase (cs : List Char) : List Char :=
  lowercaseAfter false cs

/-- Whether two texts differ in nothing but the case of ASCII letters. -/
def sameIgnoringAsciiCase (s t : List Char) : Bool :=
  s.map asciiLower == t.map asciiLower

end TextAdventure.Text
