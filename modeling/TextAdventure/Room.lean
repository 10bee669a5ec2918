import TextAdventure.Thing
import TextAdventure.Varying

/-!
# Rooms

A room is a place where the player can stand, with exits that may be locked, things that can be
addressed in it, and canned phrases that stand for whole actions while the player is there.
-/

namespace TextAdventure

/-- The rooms that exits lead to, by direction. -/
abbrev Exits := Dictionary String

/-- The message of a lock that is shut, and nothing when it is open. -/
abbrev Lock := Session → Option String

/-- An utterance that stands for a whole action. -/
structure Phrase where
  /-- What is said, in normal form. -/
  utterance : String
  verb : Verb
  sentence : Sentence

/-- The phrase of an utterance as the player may spell it. -/
def Phrase.said (utterance : String) (verb : Verb) (sentence : Sentence := {}) : Phrase :=
  { utterance := Text.normal utterance, verb, sentence }

structure Room where
  id : String
  name : String
  description : Varying String := .fixed ""
  exits : Varying Exits := .fixed ∅
  locks : Dictionary Lock := ∅
  things : List Thing := []
  /-- Narration that is added whenever the player arrives. -/
  ambient : Option Cue := none
  phrases : List Phrase := []

namespace Room

instance : Inhabited Room := ⟨{ id := "", name := "" }⟩

/-- The room with a fixed exit more, or the same room if its exits vary. -/
def addExit (r : Room) (direction target : String) : Room :=
  match r.exits with
  | .fixed exits => { r with exits := .fixed (exits.insert direction target) }
  | .derived _ => r

def describe (r : Room) (session : Session) : String :=
  r.description.resolve session (some Verb.look.name)

def exitsFor (r : Room) (session : Session) : Exits :=
  r.exits.resolve session (some Verb.move.name)

/-- The message of the lock on a direction, if there is one and it is shut. -/
def blocked (r : Room) (direction : String) (session : Session) : Option String :=
  (r.locks.get? direction).bind fun lock => lock session

/-- The first canned phrase with an utterance. -/
def phraseFor (r : Room) (utterance : String) : Option Phrase :=
  r.phrases.find? (·.utterance == Text.normal utterance)

end Room

end TextAdventure
