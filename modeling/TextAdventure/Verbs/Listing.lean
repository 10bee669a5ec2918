import TextAdventure.World

/-!
# Lists of items and exits

What the player carries and where they can go, in words. Rooms that the player has not seen yet
are not named.
-/

namespace TextAdventure

/-- Joins words for speech: "a", "a and b", "a, b, and c". -/
def joinList (conjunction : String) : List String → String
  | [] => ""
  | [only] => only
  | [first, second] => first ++ " " ++ conjunction ++ " " ++ second
  | items =>
    String.intercalate ", " items.dropLast ++ ", " ++ conjunction ++ " " ++ items.getLastD ""

namespace World

def inventoryListing (w : World) (session : Session) : String :=
  let names := (session.inventory.toList.filterMap w.items.get?).map (·.displayName)
  if names.isEmpty then "You aren't carrying anything."
  else "You're carrying " ++ joinList "and" names ++ "."

/-- A room by its id, if the player knows it. -/
def knownRoom (w : World) (session : Session) (room : String) : Option Room :=
  if session.hasSeen room then w.rooms.get? room else none

/-- A way out, with the room that it leads to if the player knows it. -/
def describeWay (w : World) (session : Session) (way : String × String) : String :=
  match w.knownRoom session way.2 with
  | some destination => way.1 ++ " to the " ++ destination.name
  | none => way.1

def exitsListing (w : World) (session : Session) : String :=
  let ways :=
    match w.currentRoom session with
    | some room => (room.exitsFor session).toList.map (w.describeWay session)
    | none => []
  if ways.isEmpty then "There's no obvious way out."
  else "You can go " ++ joinList "or" ways ++ "."

end World

end TextAdventure
