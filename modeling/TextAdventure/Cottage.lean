import TextAdventure.World

/-!
# The cottage

The game that comes with the program: a pantry, a kitchen and a cellar. The lamp has to be lit to
get down into the cellar, where the fish is that the cat wants.
-/

namespace TextAdventure.Cottage

def name : String := "cottage"

/-- The effect of carrying a burning lamp. -/
def lamplight : String := "lamplight"

/-- A flag of the lamp, which is lit or not. -/
def isLit (session : Session) : Bool :=
  session.flag? "lamp" == some "lit"

def isCatFed (session : Session) : Bool :=
  session.flag? "cat" == some "fed"

/-- A cue that always has a message. -/
def saying (message : Session → String) : Cue := fun session _ =>
  some (.say (message session))

/-- Takes a thing out of its room into the inventory. -/
def take (id name : String) : Cue := fun session _ =>
  if session.carries id then some (.say ("You already have " ++ name ++ "."))
  else
    some (.leaf {
      message := "You pick up " ++ name ++ "."
      update := some {
        inventory := session.inventory.insert id
        gone := session.gone.insert id } })

/-- Lights the lamp, if it is carried. -/
def lightLamp : Cue := fun session _ =>
  if !session.carries "lamp" then some (.say "You'd better pick it up first.")
  else if isLit session then some (.say "It's already lit.")
  else
    some (.leaf {
      message := "The wick catches and the lamp glows warmly."
      update := some {
        flags := session.flags.insert "lamp" "lit"
        effects := session.effects.insert lamplight } })

def lamp : Thing :=
  { Thing.called ["lamp", "brass lamp", "lantern"] with
    id := "lamp"
    name := "a brass lamp" }
  |>.on "look" (.dynamic (saying fun session =>
    if isLit session then "The lamp burns with a steady flame."
    else "An old brass lamp. It isn't lit."))
  |>.on "take" (.dynamic (take "lamp" "the brass lamp"))
  |>.on "light" (.dynamic lightLamp)
  |>.on "use" (.synonym "light")

/-- The cat's answer, which ends the game once it is fed. -/
def talkToCat : Cue := fun session _ =>
  some (.leaf (
    if isCatFed session then
      { message := "The cat purrs and settles down to sleep. Thanks for playing!", close := true }
    else { message := "The cat meows pointedly in the direction of the cellar." }))

def feedCat : Cue := fun session _ =>
  some (.leaf {
    message := "The cat devours the fish and starts to purr."
    update := some {
      inventory := session.inventory.erase "fish"
      flags := session.flags.insert "cat" "fed" } })

def cat : Thing :=
  { Thing.called ["cat", "tabby"] with id := "cat" }
  |>.on "look" (.literal "A fat tabby cat, curled up by the hearth.")
  |>.on "attack" (.literal "You wouldn't dare.")
  |>.on "talk" (.dynamic talkToCat)
  |>.on "give" (.keyed {
    byId := Dictionary.ofList [("fish", .run feedCat)]
    toAny := some (.say "The cat sniffs it and looks away.") })

def fish : Thing :=
  { Thing.called ["fish", "salted fish"] with
    id := "fish"
    name := "a salted fish" }
  |>.on "look" (.literal "A whole fish, stiff with salt.")
  |>.on "eat" (.literal "It's far too salty.")
  |>.on "take" (.dynamic (take "fish" "a salted fish"))

def jars : Thing :=
  Thing.called ["jars", "jar", "shelves"]
  |>.on "look" (.literal "Jars of pickled everything. Nothing you'd want to eat.")
  |>.on "eat" (.literal "You think better of it.")

def doorway : Thing :=
  { Thing.called ["doorway", "door"] with exit := "north" }
  |>.on "look" (.literal "Warm air drifts through from the kitchen.")

def useKettle : Cue := fun session _ =>
  some (.leaf {
    message := "You set the kettle on. It starts to tick as it warms."
    update := some { flags := session.flags.insert "kettle" "on" } })

def kettle : Thing :=
  Thing.called ["kettle", "stove"]
  |>.on "look" (.literal "A dented kettle on a cold stove.")
  |>.on "use" (.dynamic useKettle)
  |>.on "light" (.synonym "use")

def trapdoor : Thing :=
  { Thing.called ["trapdoor", "trap door", "hatch"] with exit := "down" }
  |>.on "look" (.literal "A square hatch, propped open. Steps vanish into the dark.")
  |>.on "open" (.literal "It's already open.")
  |>.on "close" (.literal "It's stuck open.")

def barrel : Thing :=
  Thing.called ["barrel"] |>.on "look" (.literal "Salted fish, packed tight.")

def flame : Thing :=
  Thing.called ["flame", "light"] |>.on "look" (.literal "A small, steady flame.")

def pantry : Room where
  id := "pantry"
  name := "pantry"
  description := .fixed
    "You're in a cramped pantry. Shelves of jars line the walls, and a doorway leads north."
  exits := .fixed (Dictionary.ofList [("north", "kitchen")])
  things := [lamp, jars, doorway]
  phrases := [.said "leave" .move { subject := "north" }]

/-- The trapdoor can be used with a burning lamp only. -/
def trapdoorLock : Lock := fun session =>
  if isLit session && session.carries "lamp" then none
  else some "It's too dark to go down there without a light."

/-- The hungry cat notices whoever comes in. -/
def catWatches : Cue := fun session _ =>
  if isCatFed session then none else some (.say "The cat opens one eye and watches you.")

def kitchen : Room where
  id := "kitchen"
  name := "kitchen"
  description := .fixed
    ("A warm kitchen. A kettle sits on the stove, a cat dozes by the hearth, and a trapdoor in " ++
      "the floor leads down. The pantry is back to the south.")
  exits := .fixed (Dictionary.ofList [("south", "pantry"), ("down", "cellar")])
  locks := Dictionary.ofList [("down", trapdoorLock)]
  things := [cat, kettle, trapdoor]
  ambient := some catWatches
  phrases := [.said "climb down" .move { subject := "down" }]

/-- The cellar, with the markup of its sound. -/
def cellar (drip : String) : Room where
  id := "cellar"
  name := "cellar"
  description := .fixed
    "A damp cellar. A barrel of salted fish stands in the corner. Steps lead back up."
  exits := .fixed (Dictionary.ofList [("up", "kitchen")])
  things := [fish, barrel]
  ambient := some (saying fun _ => drip ++ " Water drips somewhere in the dark.")

def lamplightEffect : Effect where
  id := lamplight
  things := [flame]
  ambient := some (saying fun _ => "Your lamp throws long shadows.")

/-- The cottage before anything is built in it. -/
def site : World where
  id := name
  start := "pantry"
  sounds := Dictionary.ofList [("drip", "https://sounds.parley.invalid/drip.mp3")]
  credits := "The cottage was built as a Parley demo. Thanks for playing."

def world : World :=
  (((site.addRoom pantry).addRoom kitchen).addRoom (cellar (site.play "drip"))).addEffect
    lamplightEffect

end TextAdventure.Cottage
