import TextAdventure.Verbs.Movement

/-!
# Looking around

What `look` says of words that mean no thing: the room, what is carried, the ways out, the
credits, or what lies in a direction.
-/

namespace TextAdventure.Verbs

def roomWords : List String := ["", "around", "room", "here"]

def inventoryWords : List String := ["inventory", "pockets", "bag", "backpack", "items"]

def exitWords : List String := ["exits", "exit", "doors", "ways out", "directions"]

/-- What lies in a direction, if there is an exit. -/
def lookToward (session : Session) (world : World) (room : Room) (word : String) :
    Option Script :=
  let direction := expandDirection word
  ((room.exitsFor session).get? direction).map fun target =>
    match world.knownRoom session target with
    | some destination => .say ("To the " ++ direction ++ " is the " ++ destination.name ++ ".")
    | none => .say ("You don't know what's " ++ direction ++ " of here.")

/-- What a word in normal form shows that means no thing. -/
def lookIn (session : Session) (world : World) (room : Room) (word : String) : Option Script :=
  if roomWords.contains word || Text.normal room.name == word then
    some (.say (room.describe session))
  else if inventoryWords.contains word then some (.say (world.inventoryListing session))
  else if exitWords.contains word then some (.say (world.exitsListing session))
  else if word = "credits" then
    if world.credits = "" then none else some (.say world.credits)
  else lookToward session world room word

/-- Looks at a word that means no thing. -/
def lookAround (session : Session) (world : World) (word : String) : Option Script :=
  (world.currentRoom session).bind fun room => lookIn session world room (Text.normal word)

end TextAdventure.Verbs
