import TextAdventure.Action
import TextAdventure.Text.Blank
import TextAdventure.Text.Lowercase

/-!
# Typed lines

What a line typed at the prompt asks for. The first word chooses the verb, and a preposition
parts the rest into subject and object. No word is lost or moved but the filler in front.
-/

namespace TextAdventure

/-- What the player asks for at the prompt. -/
inductive Command where
  | act (verb : Verb) (sentence : Sentence)
  | help
  | quit
deriving DecidableEq

namespace Prompt

/-- The directions that are a whole command by themselves. -/
def directions : List String :=
  ["north", "south", "east", "west", "northeast", "northwest", "southeast", "southwest", "up",
    "down", "n", "s", "e", "w", "ne", "nw", "se", "sw", "u", "d", "back"]

/-- The words that part the subject from the object. -/
def splitters : List String := ["to", "with", "on", "at", "from", "into", "onto", "using"]

/-- The words that are dropped in front of a sentence. -/
def fillers : List String := ["at", "to", "up", "with", "around"]

/-- The verb that a word chooses. -/
def verbFor : String → Option Verb
  | "go" | "walk" | "move" | "head" | "run" => some .move
  | "enter" | "goto" => some .moveTo
  | "i" | "inv" | "inventory" => some .inventory
  | "exits" => some .exits
  | "restart" => some .restart
  | "wait" | "z" => some .idle
  | "attack" | "hit" | "kick" | "punch" => some .attack
  | "give" | "hand" | "offer" => some .give
  | "open" => some .openUp
  | "close" | "shut" => some .close
  | "take" | "get" | "grab" | "pick" => some .take
  | "eat" | "taste" => some .eat
  | "talk" | "speak" | "chat" | "ask" => some .talk
  | "use" => some .use
  | "tie" | "attach" => some .tie
  | "untie" | "detach" => some .untie
  | "light" | "ignite" => some .light
  | "look" | "l" | "examine" | "x" | "inspect" | "read" => some .look
  | _ => none

/-- Words as one text. -/
def phrase (words : List String) : String :=
  String.intercalate " " words

/-- The words without the fillers in front. -/
def dropFillers (words : List String) : List String :=
  words.dropWhile (fillers.contains ·)

/-- The words before and after the first splitter, if there are some on both sides. -/
def split (words : List String) : Option (List String × List String) :=
  match words.span fun word => !splitters.contains word with
  | ([], _) => none
  | (_, []) => none
  | (_, [_]) => none
  | (before, _ :: after) => some (before, after)

/-- The subject and object of the words after the verb. -/
def sentenceOf (words : List String) : Sentence :=
  let words := dropFillers words
  if words.isEmpty then {}
  else
    match split words with
    | some (subject, object) => { subject := phrase subject, object := phrase object }
    | none => { subject := phrase words }

/-- The place of a sentence such as "go to the kitchen", in the words after "go". -/
def destination (first : String) : List String → Option (List String)
  | second :: place =>
    if ["go", "walk", "head"].contains first && ["to", "into"].contains second && place ≠ [] then
      some place
    else none
  | [] => none

/-- What words in lower case ask for. -/
def ofWords : List String → Command
  | [] => .act .idle {}
  | first :: rest =>
    if rest = [] && (first = "quit" || first = "q") then .quit
    else if rest = [] && (first = "help" || first = "?") then .help
    else if rest = [] && directions.contains first then .act .move { subject := first }
    else
      match destination first rest with
      | some place => .act .moveTo { subject := phrase place, verb := "go" }
      | none =>
        .act ((verbFor first).getD .fallback) { sentenceOf rest with verb := first }

/-- What a typed line asks for. -/
def read (line : String) : Command :=
  ofWords ((Text.words (Text.lowercase (Text.trim line.toList))).map String.ofList)

end Prompt

end TextAdventure
