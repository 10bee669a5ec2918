/-!
# Finding and replacing parts of texts
-/

namespace TextAdventure.Text

/-- What follows a beginning, if the text has it. -/
def stripStart? : List Char → List Char → Option (List Char)
  | [], cs => some cs
  | _ :: _, [] => none
  | p :: ps, c :: cs => if p = c then stripStart? ps cs else none

theorem eq_append_of_stripStart? :
    ∀ {start cs rest : List Char}, stripStart? start cs = some rest → cs = start ++ rest
  | [], cs, rest, h => by simpa [stripStart?] using h
  | _ :: _, [], _, h => by simp [stripStart?] at h
  | p :: ps, c :: cs, rest, h => by
    rw [stripStart?] at h
    split at h
    · next eq => rw [eq, eq_append_of_stripStart? h, List.cons_append]
    · simp at h

/-- Replaces every occurrence of a part, left to right. An empty part occurs nowhere. -/
def replaceAll (part replacement : List Char) (cs : List Char) : List Char :=
  match cs with
  | [] => []
  | c :: cs =>
    match part with
    | [] => c :: cs
    | p :: ps =>
      match h : stripStart? (p :: ps) (c :: cs) with
      | some rest =>
        have : rest.length ≤ cs.length := by
          have := congrArg List.length (eq_append_of_stripStart? h)
          simp only [List.length_cons, List.length_append] at this
          omega
        replacement ++ replaceAll (p :: ps) replacement rest
      | none => c :: replaceAll (p :: ps) replacement cs
termination_by cs.length

/-- The parts between the occurrences of a character. -/
def splitOn (separator : Char) : List Char → List (List Char)
  | [] => [[]]
  | c :: cs =>
    if c = separator then [] :: splitOn separator cs
    else
      match splitOn separator cs with
      | part :: parts => (c :: part) :: parts
      | [] => [[c]]

end TextAdventure.Text
