import TextAdventure.Verb
import TextAdventure.Session

/-!
# Actions and outcomes

An action is what a player asks for, an outcome what they are told and what changes by it.
-/

namespace TextAdventure

/-- Whom or what a verb applies to, and the verb as the player said it. -/
structure Sentence where
  subject : Option String := none
  object : Option String := none
  verb : Option String := none
deriving DecidableEq, Inhabited

/-- A request of the player of a session. -/
structure Action where
  sessionId : String
  verb : Verb
  sentence : Sentence := {}
deriving DecidableEq

/-- Narration and the change of state that it implies. -/
structure Outcome where
  message : String
  update : Option Update := none
  /-- Whether the conversation ends here. -/
  close : Bool := false
  context : Option String := none
  cameFrom : Option String := none
deriving DecidableEq, Inhabited

namespace Outcome

/-- The newer of two references, the empty one counting as none. -/
def newest (previous latest : Option String) : Option String :=
  latest.filter (· ≠ "") <|> previous

/-- Two updates one after another, either of which may be missing. -/
def mergeUpdates : Option Update → Option Update → Option Update
  | some first, some second => some (first.merge second)
  | first, second => second <|> first

/-- Two messages with a space between them, unless one is empty. -/
def joinMessages (first second : String) : String :=
  if first = "" then second else if second = "" then first else first ++ " " ++ second

/-- One outcome followed by a later one. -/
def merge (earlier later : Outcome) : Outcome where
  message := joinMessages earlier.message later.message
  update := mergeUpdates earlier.update later.update
  close := earlier.close || later.close
  context := newest earlier.context later.context
  cameFrom := newest earlier.cameFrom later.cameFrom

end Outcome

end TextAdventure
