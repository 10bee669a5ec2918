import TextAdventure.Proofs.Visits

/-!
# Starting over

A restart leaves nothing of what was played before it: the session after it is a fresh one
(`Resolver.sessionAfter_restart`), whatever is saved besides the update that the verb gives. Since a
run without a stored session begins in the same fresh one, whatever is played after a restart goes
as if nothing had been played before (`restart_resets`).
-/

namespace TextAdventure

/-- An outcome that starts over is saved as it is: its update speaks of every field. -/
theorem Resolver.savedUpdate_restart (session : Session) (message room : String) :
    savedUpdate session { message, update := some (.restart room) } = .restart room := rfl

section Restart

variable {r : Resolver} {world : World} {action : Action}

theorem Resolver.sessionAfter_restart (stands : r.verbs .restart = some Verbs.restart)
    (starts : (world.rooms.get? world.start).isSome) {session : Session}
    (restarts : (interpret session world action).1 = .restart) :
    r.sessionAfter session world action = .start session.id session.worldId world.start := by
  obtain ⟨start, found⟩ := Option.isSome_iff_exists.1 starts
  have standing : world.currentRoom (session.apply (.restart world.start)) = some start := found
  have handled : r.handler .restart = some Verbs.restart :=
    (r.handler_of_ne_idle (by decide)).trans stands
  rw [sessionAfter, updateIn, outcomeIn_eq, scriptIn, restarts, handled, Option.bind_some,
    Verbs.restart, standing, Option.map_some, Option.bind_some, Script.perform, Option.map_some,
    Option.getD_some, savedUpdate_restart, Session.apply_restart]

end Restart

/-- A step of a player by a resolver with a default world. -/
def Plays (name id : String) (step : Step) : Prop :=
  step.1.settings.defaultWorld = name ∧ step.2.sessionId = id

section Runs

variable {worlds : Shelf} {name id : String} {world : World}

/-- A run of one player goes as if they had a fresh session already. -/
theorem resolveAll_of_fresh (registered : worlds.get? name = some world) {steps : List Step}
    (own : ∀ step ∈ steps, Plays name id step) (played : steps ≠ []) :
    resolveAll Memory.store steps { worlds }
      = resolveAll Memory.store steps
          (Memory.write { worlds } (.start id world.id world.start)) := by
  match steps, own, played with
  | (r, action) :: steps, own, _ =>
    obtain ⟨rfl, rfl⟩ := own (r, action) List.mem_cons_self
    exact resolveAll_fresh rfl registered steps

/-- A player who goes on is answered as in their session, or in a fresh one if they have none. -/
theorem resolveAll_answers {m : Memory} (registered : m.worlds.get? name = some world)
    (home : (m.sessionOf world id).worldId = world.id) :
    ∀ {steps : List Step}, (∀ step ∈ steps, Plays name id step) →
      (resolveAll Memory.store steps m).1
        = (answersIn world (m.sessionOf world id) steps).map .ok
  | [], _ => rfl
  | (r, action) :: steps, own => by
    have named : m.worlds.get? world.id = some world := by rwa [m.worlds.named registered]
    have mine : ∀ step ∈ (r, action) :: steps, step.2.sessionId = id :=
      fun step mem => (own step mem).2
    obtain ⟨rfl, rfl⟩ := own (r, action) List.mem_cons_self
    rcases stored : m.sessions.get? action.sessionId with _ | session
    · have fresh : m.sessionOf world action.sessionId
          = .start action.sessionId world.id world.start := by rw [Memory.sessionOf, stored]; rfl
      have stored' : (m.write (.start action.sessionId world.id world.start)).sessions.get?
          action.sessionId = some (.start action.sessionId world.id world.start) :=
        Memory.get?_write_of_id m rfl
      rw [resolveAll_fresh stored registered, fresh, resolveAll_stored stored' named mine]
    · have theirs : m.sessionOf world action.sessionId = session := by
        rw [Memory.sessionOf, stored, Option.getD_some]
      rw [theirs] at home ⊢
      rw [resolveAll_stored stored (by rwa [home]) mine]

/-- What a run of one player leaves: their session, if they played at all. -/
theorem memoryAfter_own (registered : worlds.get? name = some world) {steps : List Step}
    (own : ∀ step ∈ steps, Plays name id step) (played : steps ≠ []) :
    memoryAfter worlds steps
      = Memory.write { worlds } (sessionAfterAll world (.start id world.id world.start) steps) := by
  have known : worlds.get? world.id = some world := by rwa [worlds.named registered]
  have stored : (Memory.write { worlds } (.start id world.id world.start)).sessions.get? id
      = some (.start id world.id world.start) := Memory.get?_write_of_id _ rfl
  rw [memoryAfter, resolveAll_of_fresh registered own played,
    resolveAll_stored stored known fun step mem => (own step mem).2]
  exact Memory.write_write _ (sessionAfterAll_id world _ _).symm

theorem sessionOf_memoryAfter (registered : worlds.get? name = some world) {steps : List Step}
    (own : ∀ step ∈ steps, Plays name id step) :
    (memoryAfter worlds steps).sessionOf world id
      = sessionAfterAll world (.start id world.id world.start) steps := by
  by_cases played : steps = []
  · subst played
    rfl
  · have named : (sessionAfterAll world (.start id world.id world.start) steps).id = id :=
      sessionAfterAll_id world _ steps
    rw [memoryAfter_own registered own played, Memory.sessionOf, Memory.get?_write_of_id _ named,
      Option.getD_some]

theorem memoryAfter_restart {before : List Step} {r : Resolver} {action : Action}
    (registered : worlds.get? name = some world)
    (starts : (world.rooms.get? world.start).isSome)
    (own : ∀ step ∈ before ++ [(r, action)], Plays name id step)
    (stands : r.verbs .restart = some Verbs.restart)
    (restarts : (Resolver.interpret ((memoryAfter worlds before).sessionOf world id) world
      action).1 = .restart) :
    memoryAfter worlds (before ++ [(r, action)])
      = Memory.write { worlds } (.start id world.id world.start) := by
  rw [sessionOf_memoryAfter registered fun step mem => own step (List.mem_append_left _ mem)]
    at restarts
  rw [memoryAfter_own registered own (by simp), sessionAfterAll_append, sessionAfterAll,
    sessionAfterAll, Resolver.sessionAfter_restart stands starts restarts, sessionAfterAll_id,
    sessionAfterAll_worldId]
  rfl

/-- Whatever a player did before they start over, by the verb or by a phrase of the room that stands
for it, they have a fresh session then, and are answered from there on as on their first visit. -/
theorem restart_resets {before later : List Step} {r : Resolver} {action : Action}
    (registered : worlds.get? name = some world)
    (starts : (world.rooms.get? world.start).isSome)
    (own : ∀ step ∈ before ++ [(r, action)] ++ later, Plays name id step)
    (stands : r.verbs .restart = some Verbs.restart)
    (restarts : (Resolver.interpret ((memoryAfter worlds before).sessionOf world id) world
      action).1 = .restart) :
    (memoryAfter worlds (before ++ [(r, action)])).sessions.get? id
        = some (.start id world.id world.start)
      ∧ (resolveAll Memory.store later (memoryAfter worlds (before ++ [(r, action)]))).1
        = (resolveAll Memory.store later { worlds }).1 := by
  have fresh := memoryAfter_restart registered starts
    (fun step mem => own step (List.mem_append_left _ mem)) stands restarts
  rw [fresh]
  refine ⟨Memory.get?_write_of_id _ rfl, ?_⟩
  by_cases played : later = []
  · subst played
    rfl
  · rw [resolveAll_of_fresh registered (fun step mem => own step (List.mem_append_right _ mem))
      played]

end Runs

/-- A hall with a hatch to a loft, where "start over" stands for a restart. -/
def reentry : World :=
  World.addRoom (World.addRoom { id := "cottage", start := "hall" }
      { id := "hall", name := "hall", exits := .fixed (Dictionary.ofList [("up", "loft")]) })
    { id := "loft", name := "loft", phrases := [.said "start over" .restart] }

/-- Up the hatch, then a phrase, and then up again. -/
theorem restart_resets_phrase :
    (memoryAfter (shelve [reentry]) ([played .move { subject := "u" }]
        ++ [played .fallback { verb := "Start over" }])).sessions.get? "player"
        = some (.start "player" "cottage" "hall")
      ∧ (resolveAll Memory.store [played .move { subject := "up" }]
          (memoryAfter (shelve [reentry]) ([played .move { subject := "u" }]
            ++ [played .fallback { verb := "Start over" }]))).1
        = (resolveAll Memory.store [played .move { subject := "up" }]
            { worlds := shelve [reentry] }).1 := by
  have restarts : (Resolver.interpret ((memoryAfter (shelve [reentry])
      [played .move { subject := "u" }]).sessionOf reentry "player") reentry
      ⟨"player", .fallback, { verb := "Start over" }⟩).1 = .restart := by
    decide +kernel
  have own : ∀ step ∈ [played .move { subject := "u" }]
      ++ [played .fallback { verb := "Start over" }] ++ [played .move { subject := "up" }],
      Plays "cottage" "player" step := by
    simp [Plays, played, Resolver.standard]
  exact @restart_resets _ "cottage" _ reentry _ _ _ _ rfl rfl own rfl restarts

end TextAdventure
