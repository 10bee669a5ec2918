import TextAdventure.Text.Blank
import TextAdventure.Text.Lowercase

/-!
# Normal forms of words

A player may say "the Brass Lamp" or " my lamp". Words are compared by their normal forms:
trimmed, in lower case, and without articles in front.
-/

namespace TextAdventure.Text

/-- Drops all articles in front, each with the blanks after it. -/
def dropArticles : List Char → List Char
  | 'a' :: ' ' :: rest => dropArticles rest
  | 'a' :: 'n' :: ' ' :: rest => dropArticles rest
  | 't' :: 'h' :: 'e' :: ' ' :: rest => dropArticles rest
  | 'm' :: 'y' :: ' ' :: rest => dropArticles rest
  | c :: rest => if isBlank c then dropArticles rest else c :: rest
  | [] => []

/-- The form in which words are compared. -/
def normal (word : String) : String :=
  String.ofList (dropArticles (lowercase (trim word.toList)))

end TextAdventure.Text
