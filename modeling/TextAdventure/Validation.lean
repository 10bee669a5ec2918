import TextAdventure.World

/-!
# Checking worlds

What can be found wrong with a world without playing it: references to what does not exist, ids
used twice, things that nobody could name. Exits and texts that depend on the session are not
looked into.
-/

namespace TextAdventure

/-- What an id in a world is the id of. -/
inductive Kind where
  | room
  | thing
  | verb
deriving DecidableEq

def Kind.name : Kind → String
  | room => "room"
  | thing => "thing"
  | verb => "verb"

inductive Flaw where
  | duplicate (kind : Kind) (id : String)
  | missing (kind : Kind) (id place : String)
  | invalid (what : String)
deriving DecidableEq

def Flaw.describe : Flaw → String
  | duplicate kind id => "duplicate " ++ kind.name ++ " id '" ++ id ++ "'"
  | missing kind id place => "missing " ++ kind.name ++ " '" ++ id ++ "' (" ++ place ++ ")"
  | invalid what => "invalid value (" ++ what ++ ")"

namespace World

/-- The ids that reactions may name: those of items and of the things of effects. -/
def knownIds (w : World) : IdSet :=
  (IdSet.ofList w.items.keys).insertAll
    (w.effects.values.flatMap fun effect => effect.things.filterMap (·.id))

/-- The flaws of a list in which each id should stand once. -/
def repeated (seen : IdSet) : List String → List Flaw
  | [] => []
  | id :: ids =>
    if seen.contains id then .duplicate .thing id :: repeated seen ids
    else repeated (seen.insert id) ids

/-- The ids of things that more than one thing in the rooms has. -/
def repeatedThings (w : World) : List Flaw :=
  repeated ∅ (w.rooms.values.flatMap fun room => room.things.filterMap (·.id))

/-- The flaws of one entry of a thing's verb table. -/
def handlerFlaws (known : IdSet) (place : String) (thing : Thing) (verb : String) :
    Handler → List Flaw
  | .synonym target =>
    if thing.verbs.contains target then []
    else [.missing .verb target (place ++ " redirects '" ++ verb ++ "'")]
  | .keyed reactions =>
    (reactions.byId.keys.filter (!known.contains ·)).map fun id =>
      .missing .thing id (place ++ " '" ++ verb ++ "' phrase")
  | .literal _ => []
  | .dynamic _ => []

def thingFlaws (known : IdSet) (place : String) (thing : Thing) : List Flaw :=
  (if thing.keys.all (· == "") then [.invalid (place ++ " has no words to be called by")]
    else []) ++
    thing.verbs.toList.flatMap fun entry => handlerFlaws known place thing entry.1 entry.2

/-- The exits of a room, if they do not depend on the session. -/
def fixedExits (room : Room) : Option Exits :=
  match room.exits with
  | .fixed exits => some exits
  | .derived _ => none

/-- The flaws of a room's exits and locks. -/
def exitFlaws (w : World) (room : Room) (exits : Exits) : List Flaw :=
  ((exits.toList.filter fun way => !w.rooms.contains way.2).map fun way =>
    .missing .room way.2 ("exit " ++ way.1 ++ " of room '" ++ room.id ++ "'")) ++
    (room.locks.keys.filter (!exits.contains ·)).map fun direction =>
      .invalid ("room '" ++ room.id ++ "' locks " ++ direction ++ ", which is not an exit")

/-- The flaws of a thing that stands in a room. -/
def roomThingFlaws (known : IdSet) (room : Room) (thing : Thing) : List Flaw :=
  let place := "room '" ++ room.id ++ "' thing '" ++ thing.reference ++ "'"
  let leading :=
    match thing.exit, fixedExits room with
    | some direction, some exits =>
      if exits.contains direction then []
      else [.invalid (place ++ " leads " ++ direction ++ ", which is not an exit")]
    | _, _ => []
  leading ++ thingFlaws known place thing

def phraseFlaws (room : Room) : List Flaw :=
  (room.phrases.filter (·.verb == .fallback)).map fun phrase =>
    .invalid ("room '" ++ room.id ++ "' phrase '" ++ phrase.utterance ++ "' maps to fallback")

def roomFlaws (w : World) (known : IdSet) (room : Room) : List Flaw :=
  ((fixedExits room).map (w.exitFlaws room)).getD [] ++
    room.things.flatMap (roomThingFlaws known room) ++ phraseFlaws room

/-- All flaws that can be seen without playing. -/
def flaws (w : World) : List Flaw :=
  let known := w.knownIds
  (if w.rooms.contains w.start then []
    else [.missing .room w.start ("start of world '" ++ w.id ++ "'")]) ++
    w.repeatedThings ++
    w.rooms.values.flatMap (w.roomFlaws known) ++
    w.items.values.flatMap (fun item =>
      thingFlaws known ("item '" ++ item.reference ++ "'") item) ++
    w.effects.values.flatMap fun effect =>
      effect.things.flatMap (thingFlaws known ("effect '" ++ effect.id ++ "'"))

/-- A message with all flaws, unless there are none. -/
def complaint (w : World) : Option String :=
  let flaws := w.flaws
  if flaws.isEmpty then none
  else
    some ("world '" ++ w.id ++ "' has " ++ toString flaws.length ++ " problem(s): " ++
      String.intercalate "; " (flaws.map (·.describe)))

end World

end TextAdventure
