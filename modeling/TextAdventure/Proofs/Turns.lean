import TextAdventure.Proofs.Runs

/-!
# Turns

An action concerns nothing of a memory but its worlds and the session of its own id. What comes of
it there is a turn (`Resolver.turn`): resolving over a memory gives the answer of the turn, which
may be an error, and stores the session after it (`Resolver.resolve_eq_turn`), so the sessions of
other ids stay as they are (`Resolver.get?_resolve`).
-/

namespace TextAdventure

namespace Memory

/-- The memory with a session written, if there is one. -/
def keep (m : Memory) : Option Session → Memory
  | some session => m.write session
  | none => m

@[simp] theorem keep_worlds (m : Memory) (session : Option Session) :
    (m.keep session).worlds = m.worlds := by
  cases session <;> rfl

/-- Only what is stored under the id of the session changes. -/
theorem get?_keep {m : Memory} {id : String} {session : Option Session}
    (own : ∀ s, session = some s → s.id = id)
    (absent : session = none → m.sessions.get? id = none) (key : String) :
    (m.keep session).sessions.get? key = if key = id then session else m.sessions.get? key := by
  cases session with
  | some s =>
    rw [← own s rfl]
    exact m.get?_write s key
  | none =>
    split
    · next eq => exact eq ▸ absent rfl
    · rfl

end Memory

namespace Resolver

variable (r : Resolver) (worlds : Shelf)

/-- The answer to an action in a session, and the session after it. -/
def turnIn (session : Session) (action : Action) : Except ResolveError Outcome × Session :=
  match worlds.world session.worldId with
  | .error cause => (.error ⟨.loading session.worldId session.id, cause⟩, session)
  | .ok world => (.ok (r.answerIn session world action), r.sessionAfter session world action)

/-- The answer to an action of a player, and their session after it. Without a session there is a
fresh one, if there is a default world for it. -/
def turn (stored : Option Session) (action : Action) :
    Except ResolveError Outcome × Option Session :=
  match stored with
  | some session => (r.turnIn worlds session action).map id some
  | none =>
    match worlds.world r.settings.defaultWorld with
    | .error cause => (.error ⟨.loadingDefault r.settings.defaultWorld, cause⟩, none)
    | .ok world =>
      (r.turnIn worlds (.start action.sessionId world.id world.start) action).map id some

theorem turnIn_eq {session : Session} {world : World}
    (registered : worlds.get? session.worldId = some world) (action : Action) :
    r.turnIn worlds session action
      = (.ok (r.answerIn session world action), r.sessionAfter session world action) := by
  rw [turnIn, Shelf.world, registered]

theorem turnIn_id (session : Session) (action : Action) :
    (r.turnIn worlds session action).2.id = session.id := by
  unfold turnIn
  split <;> rfl

theorem turn_id {stored : Option Session} {action : Action}
    (own : ∀ s, stored = some s → s.id = action.sessionId) :
    ∀ s, (r.turn worlds stored action).2 = some s → s.id = action.sessionId := by
  intro s after
  unfold turn at after
  split at after
  · next session =>
    cases after
    exact (r.turnIn_id worlds session action).trans (own session rfl)
  · split at after
    · cases after
    · cases after
      exact r.turnIn_id worlds _ action

/-- No turn takes the session away. -/
theorem eq_none_of_turn {stored : Option Session} {action : Action}
    (after : (r.turn worlds stored action).2 = none) : stored = none := by
  cases stored with
  | none => rfl
  | some session => cases after

theorem resolve_stored_eq {m : Memory} {action : Action} {session : Session}
    (stored : m.sessions.get? action.sessionId = some session) :
    (r.resolve Memory.store action).run.run m
      = ((r.turnIn m.worlds session action).1, m.write (r.turnIn m.worlds session action).2) := by
  rcases registered : m.worlds.get? session.worldId with _ | world
  · have filed : m.sessions.get? session.id = some session := by rwa [m.sessions.named stored]
    rw [resolve, Attempt.run_bind_ok (r.loadSession_stored stored),
      Attempt.run_bind_error (run_during_error (run_world_missing registered) _), turnIn,
      Shelf.world, registered]
    exact congrArg (Prod.mk _) (Memory.write_eq_of_stored filed).symm
  · rw [r.resolve_stored stored registered, r.turnIn_eq _ registered]

/-- Over a memory, an action is a turn of its own session. -/
theorem resolve_eq_turn (m : Memory) (action : Action) :
    (r.resolve Memory.store action).run.run m
      = ((r.turn m.worlds (m.sessions.get? action.sessionId) action).1,
          m.keep (r.turn m.worlds (m.sessions.get? action.sessionId) action).2) := by
  rcases stored : m.sessions.get? action.sessionId with _ | session
  · rcases registered : m.worlds.get? r.settings.defaultWorld with _ | world
    · rw [resolve, Attempt.run_bind_error (r.loadSession_missing stored registered), turn,
        Shelf.world, registered]
      rfl
    · rw [r.resolve_fresh stored registered, r.resolve_stored_eq (m.get?_write_of_id rfl), turn,
        Shelf.world, registered]
      exact congrArg (Prod.mk _) (m.write_write (r.turnIn_id _ _ _).symm)
  · exact r.resolve_stored_eq stored

/-- What an action leaves of the sessions: only its own is another. -/
theorem get?_resolve (m : Memory) (action : Action) (id : String) :
    ((r.resolve Memory.store action).run.run m).2.sessions.get? id
      = if id = action.sessionId then
          (r.turn m.worlds (m.sessions.get? action.sessionId) action).2
        else m.sessions.get? id := by
  rw [r.resolve_eq_turn]
  exact Memory.get?_keep (r.turn_id m.worlds fun s stored => m.sessions.named stored)
    (r.eq_none_of_turn m.worlds) id

theorem resolve_worlds (m : Memory) (action : Action) :
    ((r.resolve Memory.store action).run.run m).2.worlds = m.worlds := by
  rw [r.resolve_eq_turn, Memory.keep_worlds]

/-- A player of the default world has a turn in their session, or in a fresh one. -/
theorem turn_eq {world : World} {stored : Option Session} {action : Action} {session : Session}
    (registered : worlds.get? r.settings.defaultWorld = some world)
    (plays : ∀ s, stored = some s → s.worldId = world.id)
    (here : stored.getD (.start action.sessionId world.id world.start) = session) :
    r.turn worlds stored action
      = (.ok (r.answerIn session world action), some (r.sessionAfter session world action)) := by
  have own : worlds.get? world.id = some world := by rwa [worlds.named registered]
  subst here
  cases stored with
  | none =>
    have fresh : worlds.get? (Session.start action.sessionId world.id world.start).worldId
        = some world := own
    rw [turn, Shelf.world, registered]
    exact congrArg (Prod.map id some) (r.turnIn_eq worlds fresh action)
  | some session =>
    have known : worlds.get? session.worldId = some world := by rwa [plays session rfl]
    exact congrArg (Prod.map id some) (r.turnIn_eq worlds known action)

end Resolver

theorem resolveAll_worlds :
    ∀ (steps : List Step) (m : Memory), (resolveAll Memory.store steps m).2.worlds = m.worlds
  | [], _ => rfl
  | (r, action) :: steps, m =>
    (resolveAll_worlds steps _).trans (r.resolve_worlds m action)

end TextAdventure
