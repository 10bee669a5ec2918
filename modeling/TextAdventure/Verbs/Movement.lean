import TextAdventure.Lookup
import TextAdventure.Verbs.Handler
import TextAdventure.Verbs.Listing

/-!
# Movement

The verbs that change the player's room: `move` goes in a direction, and `moveTo` goes to a place
that is named by its direction, by a thing that leads there, or by its own name.
-/

namespace TextAdventure

/-- The full name of a direction that may be abbreviated, in normal form. -/
def expandDirection (direction : String) : String :=
  match Text.normal direction with
  | "n" => "north"
  | "s" => "south"
  | "e" => "east"
  | "w" => "west"
  | "ne" => "northeast"
  | "nw" => "northwest"
  | "se" => "southeast"
  | "sw" => "southwest"
  | "u" => "up"
  | "d" => "down"
  | other => other

namespace World

/-- The narration that follows an arrival: the room's own, then that of each active effect. -/
def ambience (w : World) (session : Session) (room : Room) : List Script :=
  let effects := (session.effects.toList.filterMap w.effects.get?).filterMap (·.ambient)
  (room.ambient.toList ++ effects).map .derived

/-- The first direction that leads from a room to another. -/
def wayTo (session : Session) (room : Room) (target : String) : Option String :=
  ((room.exitsFor session).toList.find? (·.2 == target)).map (·.1)

/-- What entering a room changes: the player stands in it, has seen both rooms, and remembers the
way back, or that there is none. -/
def arrivalUpdate (session : Session) (origin destination : Room) : Update where
  room := destination.id
  seen := some (session.seen.insertAll [origin.id, destination.id])
  cameFrom := some ((wayTo session destination origin.id).getD "")

/-- The player enters one room from another. -/
def arrive (w : World) (session : Session) (origin destination : Room) : Script :=
  let update := arrivalUpdate session origin destination
  let message :=
    if session.hasSeen destination.id then "You're back in the " ++ destination.name ++ "."
    else destination.describe (session.apply update)
  .sequence (.leaf { message, update := some update } :: w.ambience session destination)

/-- The direction of the first thing that a word may mean and that leads somewhere. -/
def lead (w : World) (session : Session) (word : String) : Option String :=
  (w.candidates session word).findSome? (·.exit)

/-- That there is no way in a direction. -/
def noWay (direction : String) : Script :=
  .say ("You can't go " ++ direction ++ " from here.")

/-- Goes in a direction, or whither a thing of that name leads. -/
def goToward (w : World) (session : Session) (here : Room) (word : String) : Script :=
  let exits := here.exitsFor session
  let direction := if exits.contains word then word else (w.lead session word).getD word
  match exits.get? direction with
  | none => noWay direction
  | some target =>
    match here.blocked direction session with
    | some message => .say message
    | none =>
      match w.rooms.get? target with
      | none => noWay direction
      | some destination => w.arrive session here destination

/-- Walks from the current room. The direction may be abbreviated, may be `back`, and may be a
word for a thing that leads somewhere. -/
def go (w : World) (session : Session) (direction : String) : Script :=
  match w.currentRoom session with
  | none => .say "You can't go anywhere from here."
  | some here =>
    let direction := expandDirection direction
    if direction = "back" then
      match session.cameFrom with
      | some back => w.goToward session here back
      | none => .say "You haven't come from anywhere."
    else w.goToward session here direction

/-- Whether a word in normal form is a room's name or its id. -/
def isNamed (room : Room) (word : String) : Bool :=
  Text.normal room.name == word || room.id == word

/-- The first direction to a room with a name or id. -/
def wayToNamed (w : World) (exits : Exits) (word : String) : Option String :=
  (exits.toList.find? fun way => (w.rooms.get? way.2).any (isNamed · word)).map (·.1)

end World

namespace Verbs

/-- The verb `move`. Without a direction it takes the only way out. -/
def move : VerbHandler := fun session world sentence =>
  match sentence.subject.filter fun word => Text.trim word.toList ≠ [] with
  | some direction => some (world.go session direction)
  | none =>
    (world.currentRoom session).map fun room =>
      match (room.exitsFor session).keys with
      | [] => .say "There's no way out of here."
      | [only] => world.go session only
      | directions =>
        .say ("Which way do you want to go? You can go " ++ joinList "or" directions ++ ".")

/-- Goes from a room to a place named by a word in normal form. -/
def goTo (session : Session) (world : World) (room : Room) (place : String) : Script :=
  let exits := room.exitsFor session
  if exits.contains (expandDirection place) then world.go session place
  else
    match world.lead session place with
    | some direction => world.go session direction
    | none =>
      if World.isNamed room place then .say ("You're already in the " ++ room.name ++ ".")
      else
        match world.wayToNamed exits place with
        | some direction => world.go session direction
        | none => .say ("You can't get to the " ++ place ++ " from here.")

/-- The verb `moveTo`. -/
def moveTo : VerbHandler := fun session world sentence =>
  match (sentence.subject.map Text.normal).filter (· ≠ "") with
  | none => some (.say "Where do you want to go?")
  | some place => (world.currentRoom session).map fun room => goTo session world room place

end Verbs

end TextAdventure
