import TextAdventure.Text.Search

/-!
# Styles of the terminal

Texts are set off by the control sequences that terminals know for color and style.
-/

namespace TextAdventure

inductive Style where
  | title
  | hint
  | narration
  | prompt
  | farewell

namespace Style

/-- The codes of weight and slant, and of the color after them. -/
def codes : Style → String
  | title => "1;4;38;2;223;77;10"
  | hint => "3;38;2;110;220;110"
  | narration => "38;2;102;208;250"
  | prompt => "1;38;2;75;180;255"
  | farewell => "3;38;2;220;180;40"

/-- The sequence that sets codes. -/
def sequence (codes : String) : List Char :=
  '\x1b' :: '[' :: (codes.toList ++ ['m'])

/-- The sequence that takes all styles off again. -/
def reset : List Char :=
  sequence "0"

/-- A text in a style, which goes on after what takes styles off in the text itself. Without color
the text is left as it is. -/
def paint (color : Bool) (style : Style) (text : String) : String :=
  if color then
    let on := sequence style.codes
    String.ofList (on ++ Text.replaceAll reset (reset ++ on) text.toList ++ reset)
  else text

end Style

end TextAdventure
