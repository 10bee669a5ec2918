/-!
# Settings

What can be set from outside. Every setting has a default.
-/

namespace TextAdventure

/-- What the player is told when a sentence was not understood, as misunderstandings pile up. -/
structure FallbackMessages where
  /-- The first and the second time. -/
  confused : String := "You can't do that"
  /-- The third time. -/
  lost : String := "I don't understand that"
  /-- From then on. -/
  hint : String := "Try simple sentences with verbs like move, take, look, talk, and use."
deriving DecidableEq, Inhabited

structure Settings where
  /-- The world that new sessions start in. -/
  defaultWorld : String := "cottage"
  /-- The answer when nothing came of an action. -/
  apology : String := "Sorry, I didn't catch that."
  /-- The name of the markup element around every message. -/
  speechTag : String := "speak"
  /-- Where sessions are saved; they are kept in memory if it is not given. -/
  sessionDir : Option String := none
  fallback : FallbackMessages := {}
deriving DecidableEq, Inhabited

end TextAdventure
