import TextAdventure.World

/-!
# Finding the things that a word means

A word may mean things of the player's active effects, things carried, and things of the room, in
this order: the first one able to take a verb answers, so an effect's shadow hides the room's.
-/

namespace TextAdventure

namespace World

/-- The things of the active effects, in the order of the effects' ids. -/
def effectThings (w : World) (session : Session) : List Thing :=
  (session.effects.toList.filterMap w.effects.get?).flatMap (·.things)

/-- The things carried, in the order of their ids. -/
def carriedThings (w : World) (session : Session) : List Thing :=
  session.inventory.toList.filterMap w.items.get?

/-- Whether a thing of the current room is to be seen there. -/
def isPresent (session : Session) (thing : Thing) : Bool :=
  thing.visible session && !thing.id.any session.isGone

/-- The things to be seen in the current room. -/
def presentThings (w : World) (session : Session) : List Thing :=
  match w.currentRoom session with
  | some room => room.things.filter (isPresent session)
  | none => []

/-- Everything that can be addressed. -/
def addressable (w : World) (session : Session) : List Thing :=
  w.effectThings session ++ w.carriedThings session ++ w.presentThings session

/-- The things that a word may mean, first choice first. -/
def candidates (w : World) (session : Session) (word : String) : List Thing :=
  let key := Text.normal word
  if key = "" then [] else (w.addressable session).filter (·.answersTo key)

end World

end TextAdventure
