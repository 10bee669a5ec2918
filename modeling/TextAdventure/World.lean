import TextAdventure.Catalog
import TextAdventure.Room

/-!
# Worlds

A world holds the rooms, items and effects of one adventure. It is built part by part and read
only afterwards. Things with ids in a room that is added are items too, so that they can still be
addressed once they are carried away; an item that is added by itself takes precedence over them.
-/

namespace TextAdventure

/-- A status that follows the player from room to room, with things that can be addressed
everywhere while it lasts. -/
structure Effect where
  id : String
  things : List Thing := []
  /-- Narration that is added whenever the player enters a room. -/
  ambient : Option Cue := none

instance : Inhabited Effect := ⟨{ id := "" }⟩

structure World where
  id : String
  /-- The room where sessions start. -/
  start : String
  rooms : Catalog Room.id := ∅
  items : Dictionary Thing := ∅
  effects : Catalog Effect.id := ∅
  /-- The addresses of sounds, by name. -/
  sounds : Dictionary String := ∅
  credits : String := ""

namespace World

instance : Inhabited World := ⟨{ id := "", start := "" }⟩

/-- Adds a thing of a room to the items, unless an item has its id or it has none. -/
def addRoomThing (items : Dictionary Thing) (thing : Thing) : Dictionary Thing :=
  match thing.id with
  | some id => items.insertNew id thing
  | none => items

/-- The world with a room added. -/
def addRoom (w : World) (room : Room) : World :=
  { w with
    rooms := w.rooms.file room
    items := room.things.foldl addRoomThing w.items }

/-- The world with an item added, or the same world if the item has no id. -/
def addItem (w : World) (thing : Thing) : World :=
  match thing.id with
  | some id => { w with items := w.items.insert id thing }
  | none => w

def addEffect (w : World) (effect : Effect) : World :=
  { w with effects := w.effects.file effect }

/-- The room that the session stands in. -/
def currentRoom (w : World) (session : Session) : Option Room :=
  w.rooms.get? session.room

/-- Speech markup that plays a sound, or nothing if the world has no such sound. -/
def play (w : World) (sound : String) : String :=
  match w.sounds.get? sound with
  | some url => "<audio src=\"" ++ url ++ "\"/>"
  | none => ""

end World

end TextAdventure
