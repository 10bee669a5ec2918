import TextAdventure.Action

/-!
# Scripts

What a verb makes of a sentence is not a finished outcome but a script: outcomes, sequences of
scripts, and cues that are asked for their part only when their turn comes. Performing a script
reduces it to one outcome, left to right. Each step sees the session as the steps before it left
it, and the first step that closes the conversation is the last one performed.
-/

namespace TextAdventure

inductive Script where
  | leaf (outcome : Outcome)
  /-- A part that depends on the session and the verb, and may be nothing. -/
  | derived (cue : Session → String → Option Script)
  | sequence (items : List Script)

/-- Gives a script, or nothing, for a session and a verb. -/
abbrev Cue := Session → String → Option Script

namespace Script

instance : Inhabited Script := ⟨sequence []⟩

/-- A message and nothing else. -/
def say (message : String) : Script :=
  leaf { message }

/-- No message, but the thing that pronouns stand for from here on. -/
def about (reference : String) : Script :=
  leaf { message := "", context := reference }

/-- Another script after this one, in the same sequence if this one is a sequence. -/
def andThen : Script → Script → Script
  | sequence items, next => sequence (items ++ [next])
  | first, next => sequence [first, next]

/-- An outcome after what there is of earlier ones. -/
def after : Option Outcome → Outcome → Outcome
  | some earlier, outcome => earlier.merge outcome
  | none, outcome => outcome

mutual

/-- The outcome of a script, or nothing when no part of it has one. -/
def perform (verb : String) : Script → Session → Option Outcome
  | leaf outcome, _ => some outcome
  | derived cue, session => performCued verb (cue session verb) session
  | sequence items, session => performAll verb items session none

/-- The outcome of what a cue gave. -/
def performCued (verb : String) : Option Script → Session → Option Outcome
  | none, _ => none
  | some script, session => perform verb script session

/-- The outcome of a sequence from a point on: `session` is the session at that point and
`sofar` the outcome up to it. -/
def performAll (verb : String) : List Script → Session → Option Outcome → Option Outcome
  | [], _, sofar => sofar
  | item :: items, session, sofar =>
    match perform verb item session with
    | none => performAll verb items session sofar
    | some step =>
      let merged := after sofar step
      if merged.close then some merged
      else performAll verb items (session.apply (step.update.getD .empty)) (some merged)

end

end Script

end TextAdventure
