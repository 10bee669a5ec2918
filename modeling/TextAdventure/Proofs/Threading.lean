import TextAdventure.Proofs.Performance
import TextAdventure.Proofs.Resolving

/-!
# The session that a script sees is the one that is saved

While a script is performed, a working session is brought up to date step by step; what is saved
afterwards is the session of the beginning with one update applied, which the resolver makes of
the outcome. The two never drift apart (`perform_follows_saved_session`): a cue at the very end of
a script would be asked with the place, flags, things and effects that are then stored.
-/

namespace TextAdventure

/-- Two sessions agree on what has come of the play, if not on the failures and on what pronouns
and the way back refer to. -/
structure Session.SameProgress (s t : Session) : Prop where
  room : s.room = t.room
  flags : s.flags = t.flags
  inventory : s.inventory = t.inventory
  gone : s.gone = t.gone
  seen : s.seen = t.seen
  effects : s.effects = t.effects

namespace Script

/-- A cue at the very end of a script is asked with the session `last`. -/
def AsksLast (script : Script) (verb : String) (session last : Session) : Prop :=
  ∀ cue : Cue, (script.andThen (.derived cue)).perform verb session =
    match (cue last verb).bind (·.perform verb last) with
    | none => script.perform verb session
    | some step => some (after (script.perform verb session) step)

/-- A script that leaves the conversation open is followed in the session that its outcome
makes. -/
theorem asksLast_of_open {script : Script} {verb : String} {session : Session}
    (stays : ∀ outcome, script.perform verb session = some outcome → outcome.close = false) :
    script.AsksLast verb session
      (session.apply (changeSofar (script.perform verb session))) := by
  intro cue
  have hopen : (script.perform verb session).any (·.close) = false := by
    cases h : script.perform verb session with
    | none => rfl
    | some outcome => exact stays outcome h
  rw [perform_andThen, continueWith, hopen, perform, performCued_eq]
  rfl

end Script

/-- The failures and references that the resolver adds to an update are all that it adds. -/
theorem sameProgress_savedUpdate (session : Session) (outcome : Outcome) :
    (session.apply (Resolver.savedUpdate session outcome)).SameProgress
      (session.apply outcome.change) :=
  ⟨rfl, rfl, rfl, rfl, rfl, rfl⟩

theorem sameProgress_sessionAfter {r : Resolver} {session : Session} {world : World}
    {action : Action} {script : Script} (comes : r.scriptIn session world action = some script) :
    (r.sessionAfter session world action).SameProgress
      (session.apply (Script.changeSofar
        (script.perform (Resolver.interpret session world action).1.name session))) := by
  rw [Resolver.sessionAfter, Resolver.updateIn, r.outcomeIn_eq, comes, Option.bind_some]
  cases script.perform (Resolver.interpret session world action).1.name session with
  | none => exact ⟨rfl, rfl, rfl, rfl, rfl, rfl⟩
  | some outcome => exact sameProgress_savedUpdate session outcome

/-- A sequence is performed as a fold that keeps only the outcome so far, with each item in the
session that this outcome makes; the first part that closes the conversation is the last one that
counts; and after a script that leaves it open, a cue would see the session that is then
stored. -/
theorem perform_follows_saved_session :
    (∀ (verb : String) (items : List Script) (session : Session),
      (Script.sequence items).perform verb session
        = items.foldl (Script.continueWith verb session) none)
    ∧ (∀ (verb : String) (done rest : List Script) (session : Session) (outcome : Outcome),
      (Script.sequence done).perform verb session = some outcome → outcome.close = true →
        (Script.sequence (done ++ rest)).perform verb session = some outcome)
    ∧ ∀ (r : Resolver) (m m' : Memory) (action : Action) (session : Session) (world : World)
        (script : Script) (verb : Verb),
      (r.loadSession Memory.store action.sessionId).run.run m = (.ok session, m') →
      m'.worlds.get? session.worldId = some world →
      (Resolver.interpret session world action).1 = verb →
      r.scriptIn session world action = some script →
      (∀ outcome, script.perform verb.name session = some outcome → outcome.close = false) →
      ∃ last stored, script.AsksLast verb.name session last
        ∧ ((r.resolve Memory.store action).run.run m).2.sessions.get? action.sessionId
            = some stored
        ∧ stored.SameProgress last := by
  refine ⟨Script.perform_sequence, ?_, ?_⟩
  · intro verb done rest session outcome h hclose
    rw [Script.perform_sequence] at h ⊢
    rw [List.foldl_append, h]
    exact Script.foldl_continueWith_closed (by simpa using hclose) rest
  · rintro r m m' action session world script verb loaded registered rfl comes stays
    have stored := r.stored_of_load loaded
    have named : session.id = action.sessionId := m'.sessions.named stored
    refine ⟨_, r.sessionAfter session world action, Script.asksLast_of_open stays, ?_,
      sameProgress_sessionAfter comes⟩
    rw [r.resolve_of_load loaded, r.resolve_stored stored registered]
    exact m'.get?_write_of_id named

/-- A climb that ends in the loft, and the echo from there. -/
def climb : Script :=
  .sequence [.leaf { message := "You climb up.", update := some { room := "loft" } },
    .derived fun session _ => some (.say ("The " ++ session.room ++ " creaks."))]

/-- After a first climb, a cue would see the session that is stored. -/
theorem perform_follows_saved_session_climb :
    ∃ last stored, climb.AsksLast "move" (.start "player" "cottage" "cellar") last
      ∧ ((Resolver.resolve ⟨fun _ => some fun _ _ _ => some climb, {}, none⟩ Memory.store
            ⟨"player", .move, {}⟩).run.run
          { worlds := shelve [{ id := "cottage", start := "cellar" }] }).2.sessions.get? "player"
          = some stored
      ∧ stored.SameProgress last := by
  have stays : ∀ outcome, climb.perform "move" (.start "player" "cottage" "cellar") = some outcome →
      outcome.close = false := by
    intro outcome h
    cases h
    rfl
  exact perform_follows_saved_session.2.2 _ _ _ _ _ { id := "cottage", start := "cellar" } climb
    .move (by rfl) (by rfl) rfl rfl stays

end TextAdventure
