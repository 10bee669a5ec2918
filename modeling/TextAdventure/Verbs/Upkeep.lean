import TextAdventure.Settings
import TextAdventure.Verbs.Handler

/-!
# Keeping the conversation going

The verbs about the conversation itself: starting over, nudging a silent player, and coping with
sentences that nobody understood.
-/

namespace TextAdventure.Verbs

/-- The verb `restart`: everything back to the start room of the world. -/
def restart : VerbHandler := fun session world _ =>
  let update := Update.restart world.start
  let fresh := session.apply update
  (world.currentRoom fresh).map fun start =>
    .leaf { message := start.describe fresh, update := some update }

/-- The questions that a silent player may be asked. -/
def idlePrompts : List String :=
  ["Are you still there?", "Hello? Where did you go?", "Take your time. I'll wait.",
    "Still thinking it over?"]

/-- The verb `idle`: asks whether anybody is still there. -/
def idle (prompt : Varying String) : VerbHandler := fun session _ _ =>
  some (.say (prompt.resolve session (some Verb.idle.name)))

/-- The flag that counts misunderstandings in a row. -/
def triesFlag : String := "tries"

/-- From this many misunderstandings on there is only the hint. -/
def maxTries : UInt32 := 3

/-- The number that a text of decimal digits stands for, with or without a plus sign before it. -/
def count? (text : String) : Option UInt32 :=
  let digits :=
    match text.toList with
    | '+' :: digits => digits
    | digits => digits
  if digits ≠ [] && digits.all (·.isDigit) then
    let n := digits.foldl (fun n d => 10 * n + (d.toNat - '0'.toNat)) 0
    if n < UInt32.size then some (UInt32.ofNat n) else none
  else none

/-- The misunderstandings in a row so far, as far as they are counted. -/
def tries (session : Session) : UInt32 :=
  ((session.flag? triesFlag).bind count?).getD 0

/-- One more than a count, which stays at its greatest value. -/
def saturatingSucc (n : UInt32) : UInt32 :=
  if n.toNat + 1 < UInt32.size then n + 1 else n

/-- One more failure and one more misunderstanding in a row. The failures stay at the greatest
count. The sum for the flag is not checked for overflow: past the greatest count it starts from
zero, and is limited after that. -/
def misunderstanding (session : Session) : Update where
  flags := session.flags.insert triesFlag (toString (min (tries session + 1) maxTries))
  failures := saturatingSucc session.failures

/-- The verb `fallback`, for sentences that could not be understood. -/
def fallback (messages : FallbackMessages) : VerbHandler := fun session _ _ =>
  let n := tries session
  let message := if n < 2 then messages.confused else if n = 2 then messages.lost else messages.hint
  some (.leaf { message, update := some (misunderstanding session) })

end TextAdventure.Verbs
