import TextAdventure.Proofs.Resolving

/-!
# Runs of actions

A run resolves a list of steps one after another. A step brings its own resolver with it, so that
a run says nothing about where the verbs' handlers come from: each may draw lots, or be replaced
from one action to the next. In one stored session of a registered world no step fails, and the
answers and the session after the run are those of the session and the world alone
(`resolveAll_stored`).
-/

namespace TextAdventure

/-- An action and the resolver that resolves it. -/
abbrev Step := Resolver × Action

/-- The answers to a list of steps, and what the store then keeps. -/
def resolveAll {κ : Type} (store : Store κ) :
    List Step → κ → List (Except ResolveError Outcome) × κ
  | [], k => ([], k)
  | (r, action) :: steps, k =>
    let (answer, k) := (r.resolve store action).run.run k
    let (answers, k) := resolveAll store steps k
    (answer :: answers, k)

/-- The answers to steps in one session. -/
def answersIn (world : World) : Session → List Step → List Outcome
  | _, [] => []
  | session, (r, action) :: steps =>
    r.answerIn session world action ::
      answersIn world (r.sessionAfter session world action) steps

/-- The session after steps in it. -/
def sessionAfterAll (world : World) : Session → List Step → Session
  | session, [] => session
  | session, (r, action) :: steps =>
    sessionAfterAll world (r.sessionAfter session world action) steps

theorem resolveAll_cons {κ : Type} {store : Store κ} {r : Resolver} {action : Action} {k k' : κ}
    {answer : Except ResolveError Outcome}
    (resolves : (r.resolve store action).run.run k = (answer, k')) (steps : List Step) :
    resolveAll store ((r, action) :: steps) k
      = (answer :: (resolveAll store steps k').1, (resolveAll store steps k').2) := by
  rw [resolveAll, resolves]

theorem resolveAll_append {κ : Type} (store : Store κ) (later : List Step) :
    ∀ (steps : List Step) (k : κ), resolveAll store (steps ++ later) k
      = ((resolveAll store steps k).1 ++ (resolveAll store later (resolveAll store steps k).2).1,
          (resolveAll store later (resolveAll store steps k).2).2)
  | [], _ => rfl
  | (r, action) :: steps, k => by
    rcases resolves : (r.resolve store action).run.run k with ⟨answer, k'⟩
    rw [List.cons_append, resolveAll_cons resolves, resolveAll_cons resolves,
      resolveAll_append store later steps]
    rfl

theorem sessionAfterAll_id (world : World) :
    ∀ (session : Session) (steps : List Step),
      (sessionAfterAll world session steps).id = session.id
  | _, [] => rfl
  | session, (r, action) :: steps =>
    sessionAfterAll_id world (r.sessionAfter session world action) steps

theorem sessionAfterAll_worldId (world : World) :
    ∀ (session : Session) (steps : List Step),
      (sessionAfterAll world session steps).worldId = session.worldId
  | _, [] => rfl
  | session, (r, action) :: steps =>
    sessionAfterAll_worldId world (r.sessionAfter session world action) steps

theorem sessionAfterAll_append (world : World) (later : List Step) :
    ∀ (session : Session) (steps : List Step), sessionAfterAll world session (steps ++ later)
      = sessionAfterAll world (sessionAfterAll world session steps) later
  | _, [] => rfl
  | session, (r, action) :: steps =>
    sessionAfterAll_append world later (r.sessionAfter session world action) steps

theorem answersIn_take (world : World) :
    ∀ (n : Nat) (session : Session) (steps : List Step),
      answersIn world session (steps.take n) = (answersIn world session steps).take n
  | 0, _, _ => by simp [answersIn]
  | _ + 1, _, [] => rfl
  | n + 1, session, (r, action) :: steps => by
    rw [List.take_succ_cons, answersIn, answersIn, List.take_succ_cons, answersIn_take world n]

/-- A run in one stored session neither fails nor depends on what else is stored. -/
theorem resolveAll_stored {id : String} {world : World} :
    ∀ {steps : List Step} {m : Memory} {session : Session},
      m.sessions.get? id = some session → m.worlds.get? session.worldId = some world →
      (∀ step ∈ steps, step.2.sessionId = id) →
      resolveAll Memory.store steps m
        = ((answersIn world session steps).map .ok,
            m.write (sessionAfterAll world session steps))
  | [], m, session, stored, _, _ => by
    have filed : m.sessions.get? session.id = some session := by rwa [m.sessions.named stored]
    exact congrArg (Prod.mk _) (Memory.write_eq_of_stored filed).symm
  | (r, action) :: steps, m, session, stored, registered, own => by
    have mine : action.sessionId = id := own (r, action) List.mem_cons_self
    have resolves := r.resolve_stored (mine ▸ stored) registered
    have named : session.id = id := m.sessions.named stored
    have stored' : (m.write (r.sessionAfter session world action)).sessions.get? id
        = some (r.sessionAfter session world action) := m.get?_write_of_id named
    have own' : ∀ step ∈ steps, step.2.sessionId = id := fun step h =>
      own step (List.mem_cons_of_mem _ h)
    have rest := resolveAll_stored stored' registered own'
    have same : session.id = (sessionAfterAll world session ((r, action) :: steps)).id :=
      (sessionAfterAll_id world session _).symm
    rw [resolveAll_cons resolves, rest]
    exact congrArg (Prod.mk _) (m.write_write same)

/-- A run that finds no session begins by writing a fresh one in the default world. -/
theorem resolveAll_fresh {r : Resolver} {action : Action} {world : World} {m : Memory}
    (absent : m.sessions.get? action.sessionId = none)
    (registered : m.worlds.get? r.settings.defaultWorld = some world) (steps : List Step) :
    resolveAll Memory.store ((r, action) :: steps) m
      = resolveAll Memory.store ((r, action) :: steps)
          (m.write (.start action.sessionId world.id world.start)) := by
  rw [resolveAll, r.resolve_fresh absent registered, ← resolveAll]

end TextAdventure
