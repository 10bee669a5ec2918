import TextAdventure.Text.CaseTable
import TextAdventure.Text.Hexadecimal
import TextAdventure.Text.HiddenTable

/-!
# Quoted texts

Texts are quoted with escapes for quotes, backslashes and characters that do not show.
-/

namespace TextAdventure.Text

/-- Whether a character cannot be made out in a text. -/
def isHidden (c : Char) : Bool :=
  c.toNat < 0x20 || (0x7F ≤ c.toNat && inRanges hiddenRanges c.toNat)

/-- A character within quotes. `quotes` are the quote characters that need a backslash. -/
def escapeChar (quotes : List Char) (c : Char) : List Char :=
  if c = Char.ofNat 0 then ['\\', '0']
  else if c = '\t' then ['\\', 't']
  else if c = '\r' then ['\\', 'r']
  else if c = '\n' then ['\\', 'n']
  else if c = '\\' || quotes.contains c then ['\\', c]
  else if isHidden c then '\\' :: 'u' :: '\x7b' :: (Hexadecimal.digits c.toNat ++ ['\x7d'])
  else [c]

/-- A text in double quotes. -/
def quote (quotes : List Char) (text : String) : String :=
  "\"" ++ String.ofList (text.toList.flatMap (escapeChar quotes)) ++ "\""

end TextAdventure.Text
