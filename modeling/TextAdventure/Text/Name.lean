import TextAdventure.Text.CaseTable
import TextAdventure.Text.NameTable

/-!
# Characters of names
-/

namespace TextAdventure.Text

/-- Whether a name may begin with a character. -/
def startsName (c : Char) : Bool :=
  c = '_' ||
    if c.toNat < 0x80 then c.isAlpha else inRanges nameStartRanges c.toNat

/-- Whether a character may follow in a name. -/
def continuesName (c : Char) : Bool :=
  startsName c ||
    if c.toNat < 0x80 then c.isDigit else inRanges nameFollowRanges c.toNat

end TextAdventure.Text
