import TextAdventure.Conversation
import TextAdventure.Text.Blank
import TextAdventure.Wire

/-!
# Conversations in lines of JSON

Each line that is not blank is an action and is answered by a line. A line that is no action gets
the fault that was found in it, and the conversation goes on.
-/

namespace TextAdventure

/-- What a line of JSON brings. -/
inductive Reply where
  | answer (outcome : Outcome)
  | rejected (fault : Json.Fault)

namespace Reply

/-- The reply to a line, without a line feed at the end. -/
def write (line : String) : Reply → String
  | answer outcome => Wire.write outcome
  | rejected fault =>
    String.ofList (Json.Writer.object [("error", Json.Writer.text (fault.describe line))])

end Reply

namespace Resolver

variable {κ : Type}

/-- The reply to a line, if it is not blank. -/
def reply (r : Resolver) (store : Store κ) (line : String) :
    Attempt κ ResolveError (Option Reply) := do
  if (Text.trim line.toList).isEmpty then return none
  match Wire.read line with
  | .ok action => return some (.answer (← r.resolve store action))
  | .error fault => return some (.rejected fault)

/-- The replies to some lines with the lines that they are for, and why they break off. -/
def replies (r : Resolver) (store : Store κ) :
    List String → StateM κ (List (String × Reply) × Option ResolveError)
  | [] => return ([], none)
  | line :: lines => do
    match ← (r.reply store line).run with
    | .error failure => return ([], some failure)
    | .ok none => r.replies store lines
    | .ok (some reply) =>
      let (others, failure) ← r.replies store lines
      return ((line, reply) :: others, failure)

/-- The conversation that answers actions in JSON. -/
def jsonConversation (r : Resolver) (store : Store κ) : Conversation κ where
  greeting := ""
  opening := return ""
  turn line := do
    let line := String.ofList (dropLineEnd line)
    match ← r.reply store line with
    | none => return { shown := "" }
    | some reply => return { shown := reply.write line ++ "\n" }
  closing := ""

end Resolver

end TextAdventure
