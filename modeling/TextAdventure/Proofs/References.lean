import TextAdventure.Proofs.Resolving

/-!
# What the next sentence refers to

An outcome may say what it is about in two ways: by a reference of its own, and by its update. The
way back is remembered as the outcome itself gives it. What it is about is too, unless the session
has been about it already and the update says something else, which then wins (`remembered_iff`,
`reference_forgotten`).
-/

namespace TextAdventure

theorem presentText_eq_some_iff {text reference : String} (present : reference ≠ "") :
    presentText text = some reference ↔ text = reference := by
  unfold presentText
  split
  · next empty => simp [empty, present.symm]
  · simp

namespace Resolver

variable {session : Session} {outcome : Outcome} {reference : String}

theorem context_savedUpdate_of_ne (about : outcome.context = some reference)
    (other : session.context ≠ some reference) :
    (savedUpdate session outcome).context = some reference := by
  simp [savedUpdate, about, other]

theorem context_savedUpdate_of_eq (about : outcome.context = some reference)
    (same : session.context = some reference) :
    (savedUpdate session outcome).context = outcome.change.context := by
  simp [savedUpdate, about, same, Outcome.change]

theorem context_saved_iff (about : outcome.context = some reference) (present : reference ≠ "") :
    (session.apply (savedUpdate session outcome)).context = some reference ↔
      ¬ (session.context = some reference ∧
        ∃ other, outcome.change.context = some other ∧ other ≠ reference) := by
  by_cases same : session.context = some reference
  · have saved := context_savedUpdate_of_eq about same
    rcases change : outcome.change.context with _ | other
    · simp [Session.apply, saved, change, same]
    · simp [Session.apply, saved, change, same, presentText_eq_some_iff present]
  · have saved := context_savedUpdate_of_ne about same
    simp [Session.apply, saved, same, presentText_eq_some_iff present]

theorem cameFrom_saved {way : String} (back : outcome.cameFrom = some way) (present : way ≠ "") :
    (session.apply (savedUpdate session outcome)).cameFrom = some way := by
  have saved : (savedUpdate session outcome).cameFrom = some way := by
    rw [savedUpdate, back]
    rfl
  simp [Session.apply, saved, presentText_eq_some_iff present]

end Resolver

/-- Of every script and in every session: the way back that its outcome gives is remembered, and so
is what the outcome is about, but where the session was about this before and the update of the
outcome has another reference, or the empty one that clears it. -/
theorem remembered_iff {r : Resolver} {m m' : Memory} {action : Action} {session : Session}
    {world : World} {script : Script} {outcome : Outcome}
    (loaded : (r.loadSession Memory.store action.sessionId).run.run m = (.ok session, m'))
    (registered : m'.worlds.get? session.worldId = some world)
    (comes : r.scriptIn session world action = some script)
    (performs : script.perform (Resolver.interpret session world action).1.name session
      = some outcome) :
    ∃ answer stored, ((r.resolve Memory.store action).run.run m).1 = .ok answer
      ∧ ((r.resolve Memory.store action).run.run m).2.sessions.get? action.sessionId = some stored
      ∧ (∀ reference, outcome.context = some reference → reference ≠ "" →
        (stored.context = some reference ↔ ¬ (session.context = some reference ∧
          ∃ other, outcome.change.context = some other ∧ other ≠ reference)))
      ∧ ∀ way, outcome.cameFrom = some way → way ≠ "" → stored.cameFrom = some way := by
  have stored := r.stored_of_load loaded
  have named : session.id = action.sessionId := m'.sessions.named stored
  have came : r.outcomeIn session world action = some outcome := by
    rw [r.outcomeIn_eq, comes, Option.bind_some, performs]
  have after : r.sessionAfter session world action
      = session.apply (Resolver.savedUpdate session outcome) := by
    rw [Resolver.sessionAfter, Resolver.updateIn, came]
    rfl
  rw [r.resolve_of_load loaded, r.resolve_stored stored registered]
  refine ⟨_, r.sessionAfter session world action, rfl, m'.get?_write_of_id named, ?_, ?_⟩
  · intro reference about present
    rw [after]
    exact Resolver.context_saved_iff about present
  · intro way back present
    rw [after]
    exact Resolver.cameFrom_saved back present

/-! ## An outcome with two references -/

/-- An outcome about the jars, the update of which has another reference. -/
def jars (reference : String) : Outcome where
  message := "Jars of pickled everything."
  update := some { context := some reference }
  context := some "jars"
  cameFrom := some "north"

/-- A resolver that has this outcome for every verb. -/
def showingJars (reference : String) : Resolver :=
  ⟨fun _ => some fun _ _ _ => some (.leaf (jars reference)), {}, none⟩

/-- A memory of one session, which is about something. -/
def pantry (context : Option String) : Memory :=
  Memory.write { worlds := shelve [{ id := "cottage", start := "pantry" }] }
    { Session.start "player" "cottage" "pantry" with context }

/-- The session was about the lamp, so the jars are remembered, whatever the update says. -/
theorem remembered_iff_jars :
    ∃ answer stored,
      (((showingJars "rope").resolve Memory.store ⟨"player", .look, {}⟩).run.run
          (pantry (some "lamp"))).1 = .ok answer
      ∧ (((showingJars "rope").resolve Memory.store ⟨"player", .look, {}⟩).run.run
          (pantry (some "lamp"))).2.sessions.get? "player" = some stored
      ∧ (∀ reference, (jars "rope").context = some reference → reference ≠ "" →
        (stored.context = some reference ↔ ¬ (some "lamp" = some reference ∧
          ∃ other, (jars "rope").change.context = some other ∧ other ≠ reference)))
      ∧ ∀ way, (jars "rope").cameFrom = some way → way ≠ "" → stored.cameFrom = some way :=
  @remembered_iff (showingJars "rope") (pantry (some "lamp")) _ ⟨"player", .look, {}⟩ _
    { id := "cottage", start := "pantry" } (.leaf (jars "rope")) _ rfl rfl rfl rfl

/-- The session was about the jars already, so the update wins, which clears the reference. -/
theorem reference_forgotten :
    (jars "").context = some "jars"
      ∧ ∃ stored,
        (((showingJars "").resolve Memory.store ⟨"player", .look, {}⟩).run.run
          (pantry (some "jars"))).2.sessions.get? "player" = some stored
        ∧ stored.context = none :=
  ⟨rfl, _, rfl, rfl⟩

end TextAdventure
