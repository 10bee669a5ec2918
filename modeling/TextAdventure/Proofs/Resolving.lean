import TextAdventure.Resolver
import TextAdventure.Store.Memory
import TextAdventure.Proofs.Updates

/-!
# Resolving an action in memory

Over a memory, what resolving does is said without the store: it gives the answer of the session
and the world that it finds (`Resolver.answerIn`), and writes the session with one update applied
(`Resolver.resolve_stored`). A restart, which deletes the session first, and an action that
changes nothing, which writes none, come to the same. A session that does not exist yet is
written at the start and then found (`Resolver.resolve_fresh`).
-/

namespace TextAdventure

namespace Attempt

variable {κ ε α β : Type}

theorem run_bind_ok {x : Attempt κ ε α} {k k' : κ} {a : α} (h : x.run.run k = (.ok a, k'))
    (f : α → Attempt κ ε β) : (x >>= f).run.run k = (f a).run.run k' := by
  rw [ExceptT.run_bind, StateT.run_bind, h]
  rfl

theorem run_bind_error {x : Attempt κ ε α} {k k' : κ} {e : ε}
    (h : x.run.run k = (.error e, k')) (f : α → Attempt κ ε β) :
    (x >>= f).run.run k = (.error e, k') := by
  rw [ExceptT.run_bind, StateT.run_bind, h]
  rfl

end Attempt

namespace Resolver

variable {κ α : Type} (r : Resolver)

theorem run_during_ok {operation : Attempt κ StoreError α} {k k' : κ} {a : α}
    (h : operation.run.run k = (.ok a, k')) (task : Task) :
    (during task operation).run.run k = (.ok a, k') := by
  show (operation.run >>= _ : StateM κ _).run k = _
  rw [StateT.run_bind, h]
  rfl

theorem run_during_error {operation : Attempt κ StoreError α} {k k' : κ} {cause : StoreError}
    (h : operation.run.run k = (.error cause, k')) (task : Task) :
    (during task operation).run.run k = (.error ⟨task, cause⟩, k') := by
  show (operation.run >>= _ : StateM κ _).run k = _
  rw [StateT.run_bind, h]
  rfl

theorem run_world {m : Memory} {id : String} {world : World}
    (registered : m.worlds.get? id = some world) :
    (Memory.store.world id).run.run m = (.ok world, m) := by
  show (m.worlds.world id, m) = _
  rw [Shelf.world, registered]

theorem run_world_missing {m : Memory} {id : String} (missing : m.worlds.get? id = none) :
    (Memory.store.world id).run.run m = (.error (.unknownWorld id), m) := by
  show (m.worlds.world id, m) = _
  rw [Shelf.world, missing]

/-- Every verb but `idle` has the handler of the table. -/
theorem handler_of_ne_idle {verb : Verb} (speaks : verb ≠ .idle) :
    r.handler verb = r.verbs verb := by
  unfold handler
  split
  · exact absurd rfl speaks
  · rfl

/-- An action that was understood comes to what it is. -/
theorem interpret_of_ne_fallback {action : Action} (understood : action.verb ≠ .fallback)
    (session : Session) (world : World) :
    interpret session world action = (action.verb, action.sentence) := by
  unfold interpret
  split
  · next isFallback _ => exact absurd isFallback understood
  · rfl

/-- The script of what an action comes to, if its verb has anything to say. -/
def scriptIn (session : Session) (world : World) (action : Action) : Option Script :=
  (r.handler (interpret session world action).1).bind fun handle =>
    handle session world (interpret session world action).2

/-- The outcome that an action has, if any, in a session and its world. -/
def outcomeIn (session : Session) (world : World) (action : Action) : Option Outcome :=
  r.outcomeOf session world (interpret session world action).1 (interpret session world action).2

theorem outcomeIn_eq (session : Session) (world : World) (action : Action) :
    r.outcomeIn session world action = (r.scriptIn session world action).bind
      (·.perform (interpret session world action).1.name session) := by
  rw [scriptIn, Option.bind_assoc]
  rfl

/-- The update that an action leads to: the empty one if nothing comes of it. -/
def updateIn (session : Session) (world : World) (action : Action) : Update :=
  ((r.outcomeIn session world action).map (savedUpdate session)).getD .empty

/-- The session after an action. -/
def sessionAfter (session : Session) (world : World) (action : Action) : Session :=
  session.apply (r.updateIn session world action)

/-- An action leaves the session as it is, or has an outcome whose update is saved. -/
theorem sessionAfter_cases (session : Session) (world : World) (action : Action) :
    r.sessionAfter session world action = session ∨
      ∃ outcome, r.outcomeIn session world action = some outcome ∧
        r.sessionAfter session world action = session.apply (savedUpdate session outcome) := by
  unfold sessionAfter updateIn
  rcases r.outcomeIn session world action with _ | outcome
  · exact .inl rfl
  · exact .inr ⟨outcome, rfl, rfl⟩

/-- The answer to an action. -/
def answerIn (session : Session) (world : World) (action : Action) : Outcome :=
  match r.outcomeIn session world action with
  | none => r.apology
  | some outcome => r.answer outcome (savedUpdate session outcome)

theorem answer_change (outcome : Outcome) (saved : Update) :
    (r.answer outcome saved).change = saved := by
  simp only [answer, Outcome.change]
  split
  · next h => exact (eq_of_beq h).symm
  · rfl

/-- An answer carries all that the action changes. -/
theorem answerIn_change (session : Session) (world : World) (action : Action) :
    (r.answerIn session world action).change = r.updateIn session world action := by
  rw [answerIn, updateIn]
  cases r.outcomeIn session world action with
  | none => rfl
  | some outcome => exact r.answer_change outcome _

theorem loadSession_stored {m : Memory} {id : String} {session : Session}
    (stored : m.sessions.get? id = some session) :
    (r.loadSession Memory.store id).run.run m = (.ok session, m) := by
  have reads : (Memory.store.read id).run.run m = (.ok (some session), m) := by
    rw [← stored]
    rfl
  rw [loadSession, Attempt.run_bind_ok (run_during_ok reads _)]
  rfl

theorem loadSession_fresh {m : Memory} {id : String} {world : World}
    (absent : m.sessions.get? id = none)
    (registered : m.worlds.get? r.settings.defaultWorld = some world) :
    (r.loadSession Memory.store id).run.run m
      = (.ok (.start id world.id world.start), m.write (.start id world.id world.start)) := by
  have reads : (Memory.store.read id).run.run m = (.ok none, m) := by
    rw [← absent]
    rfl
  rw [loadSession, Attempt.run_bind_ok (run_during_ok reads _)]
  show (during _ _ >>= _ : Attempt Memory ResolveError Session).run.run m = _
  rw [Attempt.run_bind_ok (run_during_ok (run_world registered) _)]
  rfl

theorem loadSession_missing {m : Memory} {id : String} (absent : m.sessions.get? id = none)
    (missing : m.worlds.get? r.settings.defaultWorld = none) :
    (r.loadSession Memory.store id).run.run m
      = (.error ⟨.loadingDefault r.settings.defaultWorld, .unknownWorld r.settings.defaultWorld⟩,
          m) := by
  have reads : (Memory.store.read id).run.run m = (.ok none, m) := by
    rw [← absent]
    rfl
  rw [loadSession, Attempt.run_bind_ok (run_during_ok reads _)]
  show (during _ _ >>= _ : Attempt Memory ResolveError Session).run.run m = _
  rw [Attempt.run_bind_error (run_during_error (run_world_missing missing) _)]

/-- A session that was loaded is stored, or was written when it was made. -/
theorem stored_of_load {m m' : Memory} {id : String} {session : Session}
    (loaded : (r.loadSession Memory.store id).run.run m = (.ok session, m')) :
    m'.sessions.get? id = some session := by
  rcases stored : m.sessions.get? id with _ | s
  · rcases registered : m.worlds.get? r.settings.defaultWorld with _ | world
    · rw [r.loadSession_missing stored registered] at loaded
      cases loaded
    · rw [r.loadSession_fresh stored registered] at loaded
      cases loaded
      exact m.get?_write_of_id rfl
  · rw [r.loadSession_stored stored] at loaded
    cases loaded
    exact stored

/-- What is saved is the session with the update applied, whether or not that is written. -/
theorem persist_stored {m : Memory} {session : Session}
    (stored : m.sessions.get? session.id = some session) (verb : Verb) (outcome : Outcome) :
    (persist Memory.store session verb outcome).run.run m
      = (.ok (savedUpdate session outcome),
          m.write (session.apply (savedUpdate session outcome))) := by
  unfold persist
  dsimp only
  split
  · exact congrArg (Prod.mk _) (m.write_delete (session.apply _))
  · split
    · next h =>
      rw [eq_of_beq h, Session.apply_empty, Memory.write_eq_of_stored stored]
      rfl
    · rfl

/-- In a stored session an action gets its answer there, and the session after it is stored. -/
theorem resolve_stored {m : Memory} {action : Action} {session : Session} {world : World}
    (stored : m.sessions.get? action.sessionId = some session)
    (registered : m.worlds.get? session.worldId = some world) :
    (r.resolve Memory.store action).run.run m
      = (.ok (r.answerIn session world action),
          m.write (r.sessionAfter session world action)) := by
  have filed : m.sessions.get? session.id = some session := by rwa [m.sessions.named stored]
  rw [resolve, Attempt.run_bind_ok (r.loadSession_stored stored),
    Attempt.run_bind_ok (run_during_ok (run_world registered) _)]
  unfold answerIn sessionAfter updateIn outcomeIn
  dsimp only
  cases r.outcomeOf session world _ _ with
  | none => exact congrArg (Prod.mk _) (Memory.write_eq_of_stored filed).symm
  | some outcome =>
    rw [Attempt.run_bind_ok (persist_stored filed _ outcome)]
    rfl

/-- Resolving goes on from the session that was loaded as if it had been stored all along. -/
theorem resolve_of_load {m m' : Memory} {action : Action} {session : Session}
    (loaded : (r.loadSession Memory.store action.sessionId).run.run m = (.ok session, m')) :
    (r.resolve Memory.store action).run.run m = (r.resolve Memory.store action).run.run m' := by
  rw [resolve, Attempt.run_bind_ok loaded,
    Attempt.run_bind_ok (r.loadSession_stored (r.stored_of_load loaded))]

/-- An action without a stored session finds a fresh one in the default world. -/
theorem resolve_fresh {m : Memory} {action : Action} {world : World}
    (absent : m.sessions.get? action.sessionId = none)
    (registered : m.worlds.get? r.settings.defaultWorld = some world) :
    (r.resolve Memory.store action).run.run m
      = (r.resolve Memory.store action).run.run
          (m.write (.start action.sessionId world.id world.start)) :=
  r.resolve_of_load (r.loadSession_fresh absent registered)

end Resolver

end TextAdventure
