import TextAdventure.Script
import TextAdventure.Proofs.Updates

/-!
# Performing a script keeps one outcome

A sequence is performed with two things kept from step to step: the session as the steps left it,
and the outcome so far. The first follows from the second: it is the session of the beginning
with what the outcome so far changes. So a sequence is a fold over its items that keeps only the
outcome so far (`Script.perform_sequence`), and a script put after another is performed in the
session that the other's outcome makes (`Script.perform_andThen`).
-/

namespace TextAdventure

namespace Script

/-- What the outcome so far changes: nothing if there is none yet. -/
def changeSofar (sofar : Option Outcome) : Update :=
  (sofar.map Outcome.change).getD .empty

/-- The outcome so far with one more item, performed in the session that the outcome so far makes
of the first one. An item without an outcome is passed over, and so is any item once the
conversation is closed. -/
def continueWith (verb : String) (session : Session) (sofar : Option Outcome) (item : Script) :
    Option Outcome :=
  if sofar.any (·.close) then sofar
  else
    match item.perform verb (session.apply (changeSofar sofar)) with
    | none => sofar
    | some step => some (after sofar step)

theorem continueWith_closed {verb : String} {session : Session} {sofar : Option Outcome}
    (h : sofar.any (·.close)) (item : Script) : continueWith verb session sofar item = sofar := by
  rw [continueWith, if_pos h]

theorem continueWith_none (verb : String) (session : Session) (item : Script) :
    continueWith verb session none item = item.perform verb session := by
  simp only [continueWith, changeSofar, Option.any_none, Bool.false_eq_true, ↓reduceIte,
    Option.map_none, Option.getD_none, Session.apply_empty]
  cases item.perform verb session <;> rfl

/-- Whatever comes after the conversation is closed has no part in the outcome. -/
theorem foldl_continueWith_closed {verb : String} {session : Session} {sofar : Option Outcome}
    (h : sofar.any (·.close)) :
    ∀ items : List Script, items.foldl (continueWith verb session) sofar = sofar
  | [] => rfl
  | item :: items => by
    rw [List.foldl_cons, continueWith_closed h, foldl_continueWith_closed h items]

theorem apply_changeSofar_after (session : Session) (sofar : Option Outcome) (step : Outcome) :
    session.apply (changeSofar (some (after sofar step)))
      = (session.apply (changeSofar sofar)).apply step.change := by
  cases sofar with
  | none => rfl
  | some earlier => exact session.apply_merge_change earlier step

/-- The session kept from step to step is the one that the outcome so far makes. -/
theorem performAll_eq_foldl (verb : String) (session : Session) :
    ∀ (items : List Script) (sofar : Option Outcome), sofar.any (·.close) = false →
      performAll verb items (session.apply (changeSofar sofar)) sofar
        = items.foldl (continueWith verb session) sofar
  | [], _, _ => by simp [performAll]
  | item :: items, sofar, hopen => by
    rw [performAll, List.foldl_cons, continueWith, hopen]
    simp only [Bool.false_eq_true, ↓reduceIte]
    rcases item.perform verb (session.apply (changeSofar sofar)) with _ | step
    · exact performAll_eq_foldl verb session items sofar hopen
    · have follows := apply_changeSofar_after session sofar step
      simp only [Outcome.change] at follows
      simp only [← follows]
      split
      · next hclose => exact (foldl_continueWith_closed (by simpa using hclose) items).symm
      · next hclose => exact performAll_eq_foldl verb session items _ (by simpa using hclose)

/-- A sequence is a fold that keeps nothing but the outcome so far. -/
theorem perform_sequence (verb : String) (items : List Script) (session : Session) :
    (sequence items).perform verb session = items.foldl (continueWith verb session) none := by
  rw [perform]
  exact performAll_eq_foldl verb session items none rfl

theorem perform_pair (verb : String) (first next : Script) (session : Session) :
    (sequence [first, next]).perform verb session
      = continueWith verb session (first.perform verb session) next := by
  rw [perform_sequence, List.foldl_cons, continueWith_none, List.foldl_cons, List.foldl_nil]

/-- A script put after another is performed in the session that the other's outcome makes. -/
theorem perform_andThen (verb : String) (first next : Script) (session : Session) :
    (first.andThen next).perform verb session
      = continueWith verb session (first.perform verb session) next := by
  cases first with
  | sequence items => rw [andThen, perform_sequence, perform_sequence, List.foldl_append]; rfl
  | leaf outcome => exact perform_pair verb (leaf outcome) next session
  | derived cue => exact perform_pair verb (derived cue) next session

theorem performCued_eq (verb : String) (given : Option Script) (session : Session) :
    performCued verb given session = given.bind (·.perform verb session) := by
  cases given <;> rw [performCued] <;> rfl

end Script

end TextAdventure
