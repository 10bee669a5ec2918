import TextAdventure.VerbTable
import TextAdventure.Proofs.Runs

/-!
# Replaying the answers

A client that starts from a fresh session and applies the update of each answer has the session
that is stored (`replay_reconstructs_session`): every update that the resolver saves is the one
that its answer carries, also where it differs from what the verb's handler gave, and an answer
without an update stands for an action that changed nothing.
-/

namespace TextAdventure

/-- The session with the updates of answers applied in order. -/
def Session.replay (session : Session) (answers : List Outcome) : Session :=
  answers.foldl (fun s answer => s.apply (answer.update.getD .empty)) session

theorem sessionAfterAll_eq_replay (world : World) :
    ∀ (session : Session) (steps : List Step),
      sessionAfterAll world session steps = session.replay (answersIn world session steps)
  | _, [] => rfl
  | session, (r, action) :: steps => by
    have step : session.apply ((r.answerIn session world action).update.getD .empty)
        = r.sessionAfter session world action :=
      congrArg session.apply (r.answerIn_change session world action)
    rw [sessionAfterAll, answersIn, Session.replay, List.foldl_cons, step,
      sessionAfterAll_eq_replay world _ steps]
    rfl

/-- Whatever the verbs do and the world holds, every action of a run for one session id is
answered, and after each of them the stored session is the fresh one with the updates of all
answers so far applied. -/
theorem replay_reconstructs_session {id name : String} {world : World} {m : Memory}
    {steps : List Step} (absent : m.sessions.get? id = none)
    (registered : m.worlds.get? name = some world)
    (starts : ∀ step ∈ steps, step.1.settings.defaultWorld = name)
    (own : ∀ step ∈ steps, step.2.sessionId = id) :
    ∃ answers : List Outcome, (resolveAll Memory.store steps m).1 = answers.map .ok
      ∧ ∀ n, 0 < n → n ≤ steps.length →
        (resolveAll Memory.store (steps.take n) m).2.sessions.get? id
          = some ((Session.start id world.id world.start).replay (answers.take n)) := by
  match steps, starts, own with
  | [], _, _ =>
    refine ⟨[], rfl, fun n hpos hle => ?_⟩
    rw [List.length_nil] at hle
    omega
  | (r, action) :: steps, starts, own =>
    obtain rfl : r.settings.defaultWorld = name := starts (r, action) List.mem_cons_self
    obtain rfl : action.sessionId = id := own (r, action) List.mem_cons_self
    have stored : (m.write (.start action.sessionId world.id world.start)).sessions.get?
        action.sessionId = some (.start action.sessionId world.id world.start) :=
      m.get?_write_of_id rfl
    have registered' : m.worlds.get? world.id = some world := by
      rwa [m.worlds.named registered]
    refine ⟨answersIn world (.start action.sessionId world.id world.start)
      ((r, action) :: steps), ?_, fun n hpos hle => ?_⟩
    · rw [resolveAll_fresh absent registered, resolveAll_stored stored registered' own]
    · obtain ⟨k, rfl⟩ : ∃ k, n = k + 1 := ⟨n - 1, by omega⟩
      have own' : ∀ step ∈ (r, action) :: steps.take k, step.2.sessionId = action.sessionId :=
        fun step h => own step (List.mem_of_mem_take (i := k + 1) h)
      rw [List.take_succ_cons, resolveAll_fresh absent registered,
        resolveAll_stored stored registered' own', ← answersIn_take, List.take_succ_cons,
        ← sessionAfterAll_eq_replay]
      exact Memory.get?_write_of_id _ (sessionAfterAll_id world _ _)

/-- A sentence that nobody understood, then a restart, with the standard verbs. -/
def stumble : List Step :=
  [Verb.fallback, Verb.restart].map fun verb =>
    ({ verbs := VerbTable.standard {} (.fixed "Hello?"), settings := {} },
      { sessionId := "player", verb })

/-- A cottage of one room. -/
def hut : World :=
  World.addRoom { id := "cottage", start := "hall" } { id := "hall", name := "hall" }

/-- The failure that was counted is in the first answer, and its reset in the second. -/
theorem replay_reconstructs_session_stumble :
    ∃ answers : List Outcome,
      (resolveAll Memory.store stumble { worlds := shelve [hut] }).1 = answers.map .ok
      ∧ ∀ n, 0 < n → n ≤ stumble.length →
        (resolveAll Memory.store (stumble.take n)
            { worlds := shelve [hut] }).2.sessions.get? "player"
          = some ((Session.start "player" hut.id hut.start).replay (answers.take n)) := by
  have starts : ∀ step ∈ stumble, step.1.settings.defaultWorld = "cottage" := by simp [stumble]
  have own : ∀ step ∈ stumble, step.2.sessionId = "player" := by simp [stumble]
  exact replay_reconstructs_session rfl rfl starts own

end TextAdventure
