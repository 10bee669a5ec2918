import TextAdventure.Proofs.Turns

/-!
# Players do not notice each other

A run does to the session of an id what the turns of that id do one after another, whatever stands
between them (`resolveAll_turns`). So the answers and the session that a player gets are those of
the run with only their own actions (`resolveAll_alone`).
-/

namespace TextAdventure

/-- The answers to steps of one player, and their session after the steps. -/
def turns (worlds : Shelf) :
    Option Session → List Step → List (Except ResolveError Outcome) × Option Session
  | stored, [] => ([], stored)
  | stored, (r, action) :: steps =>
    let (answer, after) := r.turn worlds stored action
    let (answers, last) := turns worlds after steps
    (answer :: answers, last)

/-- Whether a step is one of the player of a session. -/
def isOf (id : String) (step : Step) : Bool :=
  step.2.sessionId == id

/-- The answers to the steps of one player, of those to all steps. -/
def answersTo {α : Type} (id : String) : List Step → List α → List α
  | step :: steps, answer :: answers =>
    if isOf id step then answer :: answersTo id steps answers else answersTo id steps answers
  | _, _ => []

theorem resolveAll_turns (id : String) :
    ∀ (steps : List Step) (m : Memory),
      answersTo id steps (resolveAll Memory.store steps m).1
          = (turns m.worlds (m.sessions.get? id) (steps.filter (isOf id))).1
        ∧ (resolveAll Memory.store steps m).2.sessions.get? id
          = (turns m.worlds (m.sessions.get? id) (steps.filter (isOf id))).2
  | [], m => ⟨rfl, rfl⟩
  | (r, action) :: steps, m => by
    have resolves := r.resolve_eq_turn m action
    have kept := r.get?_resolve m action id
    rw [resolves] at kept
    have rest := resolveAll_turns id steps
      (m.keep (r.turn m.worlds (m.sessions.get? action.sessionId) action).2)
    rw [Memory.keep_worlds, kept] at rest
    rw [resolveAll_cons resolves, answersTo]
    by_cases own : isOf id (r, action)
    · obtain rfl : action.sessionId = id := eq_of_beq own
      rw [if_pos rfl] at rest
      rw [List.filter_cons_of_pos own, if_pos own, turns, rest.1]
      exact ⟨rfl, rest.2⟩
    · have other : id ≠ action.sessionId := fun eq => own (beq_iff_eq.2 eq.symm)
      rw [if_neg other] at rest
      rw [List.filter_cons_of_neg own, if_neg own]
      exact rest

theorem length_resolveAll {κ : Type} (store : Store κ) :
    ∀ (steps : List Step) (k : κ), (resolveAll store steps k).1.length = steps.length
  | [], _ => rfl
  | (_, _) :: steps, _ => congrArg (· + 1) (length_resolveAll store steps _)

theorem answersTo_eq_self {α : Type} {id : String} :
    ∀ {steps : List Step} {answers : List α}, (∀ step ∈ steps, isOf id step) →
      answers.length = steps.length → answersTo id steps answers = answers
  | [], [], _, _ => rfl
  | step :: steps, answer :: answers, own, same => by
    rw [answersTo, if_pos (own step List.mem_cons_self),
      answersTo_eq_self (fun step mem => own step (List.mem_cons_of_mem _ mem))
        (Nat.succ.inj same)]

/-- However the actions of several players are interleaved, each player gets the answers and is
left with the session that they would have if they had been alone with the store. -/
theorem resolveAll_alone (worlds : Shelf) (steps : List Step) (id : String) :
    answersTo id steps (resolveAll Memory.store steps { worlds }).1
        = (resolveAll Memory.store (steps.filter (isOf id)) { worlds }).1
      ∧ (resolveAll Memory.store steps { worlds }).2.sessions.get? id
        = (resolveAll Memory.store (steps.filter (isOf id)) { worlds }).2.sessions.get? id := by
  have own : ∀ step ∈ steps.filter (isOf id), isOf id step := fun _ mem =>
    (List.mem_filter.1 mem).2
  have among := resolveAll_turns id steps { worlds }
  have alone := resolveAll_turns id (steps.filter (isOf id)) { worlds }
  rw [answersTo_eq_self own (length_resolveAll _ _ _), List.filter_eq_self.2 own] at alone
  exact ⟨among.1.trans alone.1.symm, among.2.trans alone.2.symm⟩

end TextAdventure
