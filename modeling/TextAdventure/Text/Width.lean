import TextAdventure.Text.Control
import TextAdventure.Text.WidthTable

/-!
# How wide texts are
-/

namespace TextAdventure.Text

/-- The columns that a character takes on a screen. -/
def charWidth (c : Char) : Nat :=
  let n := c.toNat
  if n < 0x20 then 0
  else if n < 0x7F then 1
  else if n < 0xA0 then 0
  else if n = 0x17D8 then 3
  else if inRanges zeroWidthRanges n then 0
  else if inRanges doubleWidthRanges n then 2
  else 1

/-- The columns that a text takes on a screen. -/
def width (cs : List Char) : Nat :=
  (markShown .outside cs).foldl (fun n (c, shown) => if shown then n + charWidth c else n) 0

end TextAdventure.Text
