import TextAdventure.Text.Lowercase

/-!
# Verbs

The closed set of verbs that actions are dispatched on. A verb's name is what the wire carries
and what the verb tables of things are keyed by.
-/

namespace TextAdventure

inductive Verb where
  | move | moveTo | inventory | exits | restart | idle | fallback | attack | give | openUp | close
  | take | eat | talk | use | tie | untie | light | look
deriving DecidableEq

namespace Verb

def all : List Verb :=
  [move, moveTo, inventory, exits, restart, idle, fallback, attack, give, openUp, close, take, eat,
    talk, use, tie, untie, light, look]

def name : Verb → String
  | move => "move"
  | moveTo => "moveTo"
  | inventory => "inventory"
  | exits => "exits"
  | restart => "restart"
  | idle => "idle"
  | fallback => "fallback"
  | attack => "attack"
  | give => "give"
  | openUp => "open"
  | close => "close"
  | take => "take"
  | eat => "eat"
  | talk => "talk"
  | use => "use"
  | tie => "tie"
  | untie => "untie"
  | light => "light"
  | look => "look"

/-- The verb with exactly this name. -/
def named? (name : String) : Option Verb :=
  all.find? (·.name == name)

/-- The verb with this name, ASCII letters in either case. -/
def called? (name : String) : Option Verb :=
  all.find? fun verb => Text.sameIgnoringAsciiCase verb.name.toList name.toList

/-- What is said of a name that no verb has. -/
def unknownMessage (name : String) : String :=
  "unknown verb '" ++ name ++ "'"

end Verb

end TextAdventure
