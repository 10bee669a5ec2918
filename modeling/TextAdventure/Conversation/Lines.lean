/-!
# Lines of text

What is typed comes in lines, each with the line feed that ends it; only the last may be without.
-/

namespace TextAdventure

/-- The lines of a text, each with the line feed at its end. -/
def linesOf : List Char → List (List Char)
  | [] => []
  | c :: cs =>
    if c = '\n' then [c] :: linesOf cs
    else
      match linesOf cs with
      | line :: lines => (c :: line) :: lines
      | [] => [[c]]

/-- A line without the line feed at its end, nor a carriage return just before that. -/
def dropLineEnd (line : List Char) : List Char :=
  match line.reverse with
  | '\n' :: '\r' :: cs => cs.reverse
  | '\n' :: cs => cs.reverse
  | _ => line

/-- A line without any line feeds and carriage returns at its end. -/
def dropLineEnds (line : List Char) : List Char :=
  (line.reverse.dropWhile fun c => c = '\n' || c = '\r').reverse

end TextAdventure
