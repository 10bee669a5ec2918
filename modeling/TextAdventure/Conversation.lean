import TextAdventure.Conversation.Lines
import TextAdventure.Resolver

/-!
# Conversations

A conversation with a store begins by itself, then answers line by line until a turn ends it or
there are no more lines, and says something last. If the store fails it breaks off.
-/

namespace TextAdventure

/-- What a line brings. -/
structure Turn where
  shown : String
  /-- Whether the conversation ends with it. -/
  ends : Bool := false

structure Conversation (κ : Type) where
  /-- What is said before anything can fail. -/
  greeting : String
  opening : Attempt κ ResolveError String
  turn : List Char → Attempt κ ResolveError Turn
  closing : String

/-- All that was said, and why it broke off, if it did. -/
structure Transcript where
  shown : String
  failure : Option ResolveError := none

namespace Transcript

/-- The transcript with something said before it. -/
def after (shown : String) (t : Transcript) : Transcript :=
  { t with shown := shown ++ t.shown }

end Transcript

namespace Conversation

variable {κ : Type}

/-- The conversation over some lines, once it has begun. -/
def turns (c : Conversation κ) : List (List Char) → StateM κ Transcript
  | [] => return { shown := c.closing }
  | line :: lines => do
    match ← (c.turn line).run with
    | .error failure => return { shown := "", failure }
    | .ok turn =>
      if turn.ends then return { shown := turn.shown ++ c.closing }
      else return (← c.turns lines).after turn.shown

/-- The whole conversation over what is typed. -/
def run (c : Conversation κ) (typed : String) : StateM κ Transcript := do
  match ← c.opening.run with
  | .error failure => return { shown := c.greeting, failure }
  | .ok shown => return (← c.turns (linesOf typed.toList)).after (c.greeting ++ shown)

end Conversation

end TextAdventure
