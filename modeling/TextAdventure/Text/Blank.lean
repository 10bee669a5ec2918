/-!
# Blank characters

The characters that separate words, and the two ways texts are taken apart at them: trimming the
ends (`trim`) and splitting into words (`words`).
-/

namespace TextAdventure.Text

/-- The characters with the Unicode property White_Space. -/
def isBlank (c : Char) : Bool :=
  let n := c.toNat
  (9 ≤ n && n ≤ 13) || n = 0x20 || n = 0x85 || n = 0xA0 || n = 0x1680 ||
    (0x2000 ≤ n && n ≤ 0x200A) || n = 0x2028 || n = 0x2029 || n = 0x202F || n = 0x205F ||
    n = 0x3000

def trimStart (cs : List Char) : List Char :=
  cs.dropWhile isBlank

def trimEnd (cs : List Char) : List Char :=
  (cs.reverse.dropWhile isBlank).reverse

/-- Takes the blank characters off both ends. -/
def trim (cs : List Char) : List Char :=
  trimEnd (trimStart cs)

/-- A character that is not blank before a text with these words: the first one goes on with it
if the text starts with that word. -/
def putBefore (c : Char) (cs : List Char) (words : List (List Char)) : List (List Char) :=
  match cs, words with
  | d :: _, w :: ws => if isBlank d then [c] :: w :: ws else (c :: w) :: ws
  | _, ws => [c] :: ws

/-- The longest runs of characters that are not blank. -/
def words : List Char → List (List Char)
  | [] => []
  | c :: cs => if isBlank c then words cs else putBefore c cs (words cs)

/-- Puts a separator between the parts. -/
def join (separator : List Char) : List (List Char) → List Char
  | [] => []
  | [part] => part
  | part :: parts => part ++ separator ++ join separator parts

end TextAdventure.Text
