import TextAdventure.Conversation
import TextAdventure.Conversation.Style
import TextAdventure.Prompt
import TextAdventure.Wrap

/-!
# The game at a prompt

The player of one session types sentences and reads narration, wrapped to the terminal's width. The
game begins with a look around, and ends when the player quits or the story closes.
-/

namespace TextAdventure

/-- The version of the program. -/
def version : String := "0.3.0"

namespace Game

/-- The columns of a line of narration. -/
def width : Nat := 80

def title : String :=
  "PARLEY " ++ version ++ ": THE COTTAGE"

def pointer : String :=
  "Type \"help\" for a few pointers."

def help : String :=
  "Talk to the game in short sentences: \"look\", \"go north\", \"take the lamp\", " ++
    "\"give the fish to the cat\". \"inventory\" lists what you carry, \"exits\" shows the way " ++
    "out, \"restart\" starts over and \"quit\" leaves."

def goodbye : String := "Goodbye."

/-- A paragraph of its own. -/
def paragraph (color : Bool) (style : Style) (text : String) : String :=
  "\n" ++ style.paint color (Wrap.fill text width) ++ "\n"

/-- What the player reads of an answer. -/
def narrate (color : Bool) (outcome : Outcome) : String :=
  paragraph color (if outcome.close then .farewell else .narration)
    (Markup.toPlain outcome.message)

/-- What stands where the player types. -/
def prompt (color : Bool) : String :=
  Style.prompt.paint color "\n> "

end Game

namespace Resolver

variable {κ : Type}

/-- The conversation with the player of a session. -/
def game (r : Resolver) (store : Store κ) (color : Bool) (id : String) : Conversation κ where
  greeting :=
    Style.title.paint color Game.title ++ "\n" ++ Style.hint.paint color Game.pointer ++ "\n"
  opening := do
    let outcome ← r.resolve store { sessionId := id, verb := .look }
    return Game.narrate color outcome ++ Game.prompt color
  turn line := do
    match Prompt.read (String.ofList (dropLineEnds line)) with
    | .quit => return { shown := "", ends := true }
    | .help => return { shown := Game.paragraph color .hint Game.help ++ Game.prompt color }
    | .act verb sentence =>
      let outcome ← r.resolve store { sessionId := id, verb, sentence }
      let shown := Game.narrate color outcome
      if outcome.close then return { shown, ends := true }
      return { shown := shown ++ Game.prompt color }
  closing := Style.farewell.paint color Game.goodbye ++ "\n"

end Resolver

end TextAdventure
