/-!
# Control sequences in texts

A screen does not show the sequences of characters that tell it how to show the others, such as the
color of them. They begin with the escape character (`Control.after`).
-/

namespace TextAdventure.Text

/-- The character that control sequences begin with. -/
def escapeMark : Char := '\x1b'

/-- Where in a control sequence a text is. -/
inductive Control where
  | outside
  | begun
  /-- In a sequence that a letter or the like ends. -/
  | style
  /-- In a command, which a bell or an escape character with a backslash ends. -/
  | command (escaped : Bool)
deriving DecidableEq

/-- Where the text is after one more character. -/
def Control.after : Control → Char → Control
  | outside, c => if c = escapeMark then begun else outside
  | begun, c => if c = '[' then style else if c = ']' then command false else outside
  | style, c => if '@' ≤ c && c ≤ '~' then outside else style
  | command escaped, c =>
    if c = '\x07' || (escaped && c = '\\') then outside else command (c = escapeMark)

/-- The characters of a text, each with whether it is shown. -/
def markShown (state : Control) : List Char → List (Char × Bool)
  | [] => []
  | c :: cs => (c, state = .outside && c ≠ escapeMark) :: markShown (state.after c) cs

end TextAdventure.Text
