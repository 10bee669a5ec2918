import TextAdventure.Script
import TextAdventure.Text.Normal

/-!
# Things

A thing is any noun that a player can address: an item, a piece of scenery, a passage. It answers
to its words and to its id, and its verb table says what it does for each verb.
-/

namespace TextAdventure

/-- What comes of using one thing on another, or by itself. -/
inductive Reaction where
  | say (text : String)
  | run (cue : Cue)

/-- The reactions of a thing that is used together with others. -/
structure Reactions where
  /-- Reactions to particular things, by their ids. -/
  byId : Dictionary Reaction := ∅
  /-- The reaction to any thing that has none of its own. -/
  toAny : Option Reaction := none
  /-- The reaction when no second thing is named. -/
  alone : Option Reaction := none

/-- The reaction to a thing: the one to its id before the one to any. -/
def Reactions.to (r : Reactions) (id : Option String) : Option Reaction :=
  (id.bind r.byId.get?) <|> r.toAny

/-- An entry of a verb table. -/
inductive Handler where
  /-- A fixed reply. -/
  | literal (text : String)
  /-- Whatever the same thing does for another verb. -/
  | synonym (verb : String)
  | keyed (reactions : Reactions)
  | dynamic (cue : Cue)

def Handler.isKeyed : Handler → Bool
  | keyed _ => true
  | _ => false

structure Thing where
  /-- The words that it answers to, in normal form. -/
  keys : List String
  id : Option String := none
  name : Option String := none
  /-- Whether it can be seen in its room. -/
  visible : Session → Bool := fun _ => true
  /-- The direction that it leads, if it doubles as an exit. -/
  exit : Option String := none
  verbs : Dictionary Handler := ∅

namespace Thing

instance : Inhabited Thing := ⟨{ keys := [] }⟩

/-- A thing that answers to some words. -/
def called (words : List String) : Thing :=
  { keys := words.map Text.normal }

/-- The thing with an entry put into its verb table. -/
def on (t : Thing) (verb : String) (handler : Handler) : Thing :=
  { t with verbs := t.verbs.insert verb handler }

/-- Whether a word in normal form is one of the thing's words or its id. -/
def answersTo (t : Thing) (word : String) : Bool :=
  t.keys.contains word || t.id == some word

/-- How later sentences refer back to the thing: by its id, or else by its first word. -/
def reference (t : Thing) : String :=
  (t.id <|> t.keys.head?).getD ""

/-- The name that the player is shown. -/
def displayName (t : Thing) : String :=
  (t.name <|> t.keys.head?).getD "thing"

def handler? (t : Thing) (verb : String) : Option Handler :=
  t.verbs.get? verb

end Thing

end TextAdventure
