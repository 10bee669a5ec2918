import TextAdventure.IdSet

/-!
# Sessions and updates

A session is all that is remembered about one player. It is never edited: an update names the
fields to be replaced and `Session.apply` builds the next session. Updates compose by
`Update.merge`, and applying a merge is applying its parts one after another.
-/

namespace TextAdventure

/-- Puzzle state by flag name. -/
abbrev Flags := Dictionary String

structure Session where
  id : String
  worldId : String
  room : String
  flags : Flags := ∅
  inventory : IdSet := ∅
  /-- The things that were removed from their rooms. -/
  gone : IdSet := ∅
  /-- The rooms that were visited. -/
  seen : IdSet := ∅
  effects : IdSet := ∅
  failures : UInt32 := 0
  /-- What the last answer was about: pronouns stand for it. -/
  context : Option String := none
  /-- The direction that leads back to the room before. -/
  cameFrom : Option String := none
deriving DecidableEq, Inhabited

/-- A partial session: each present field replaces the session's field as a whole. An empty
context or way back clears that field. -/
structure Update where
  room : Option String := none
  flags : Option Flags := none
  inventory : Option IdSet := none
  gone : Option IdSet := none
  seen : Option IdSet := none
  effects : Option IdSet := none
  failures : Option UInt32 := none
  context : Option String := none
  cameFrom : Option String := none
deriving DecidableEq, Inhabited

namespace Update

/-- The update that replaces nothing. -/
def empty : Update := {}

def isEmpty (u : Update) : Bool :=
  u == empty

/-- Everything but id and world as at the start, in a room. -/
def restart (room : String) : Update where
  room := room
  flags := some ∅
  inventory := some ∅
  gone := some ∅
  seen := some (.singleton room)
  effects := some ∅
  failures := some 0
  context := some ""
  cameFrom := some ""

/-- This update followed by a later one, whose fields win. -/
def merge (u later : Update) : Update where
  room := later.room <|> u.room
  flags := later.flags <|> u.flags
  inventory := later.inventory <|> u.inventory
  gone := later.gone <|> u.gone
  seen := later.seen <|> u.seen
  effects := later.effects <|> u.effects
  failures := later.failures <|> u.failures
  context := later.context <|> u.context
  cameFrom := later.cameFrom <|> u.cameFrom

end Update

/-- A text, or nothing for the empty one. -/
def presentText (text : String) : Option String :=
  if text = "" then none else some text

namespace Session

/-- A fresh session standing in the start room of a world. -/
def start (id worldId room : String) : Session :=
  { id, worldId, room, seen := .singleton room }

/-- The session with every field that the update carries replaced. -/
def apply (s : Session) (u : Update) : Session where
  id := s.id
  worldId := s.worldId
  room := u.room.getD s.room
  flags := u.flags.getD s.flags
  inventory := u.inventory.getD s.inventory
  gone := u.gone.getD s.gone
  seen := u.seen.getD s.seen
  effects := u.effects.getD s.effects
  failures := u.failures.getD s.failures
  context := (u.context.map presentText).getD s.context
  cameFrom := (u.cameFrom.map presentText).getD s.cameFrom

/-- The value of a flag, if it is set. -/
def flag? (s : Session) (name : String) : Option String :=
  s.flags.get? name

def carries (s : Session) (id : String) : Bool :=
  s.inventory.contains id

def isGone (s : Session) (id : String) : Bool :=
  s.gone.contains id

def hasSeen (s : Session) (room : String) : Bool :=
  s.seen.contains room

def hasEffect (s : Session) (id : String) : Bool :=
  s.effects.contains id

end Session

end TextAdventure
