import TextAdventure.Proofs.Handlers

/-!
# The player changes room only by legal moves

In a world whose content leaves the room of the player alone, the standard verbs do not move them
but along a passage that is open to them, or back to the start (`standard_moves_legally`). This
rests on the room that an outcome leads to being that of one of its parts
(`Outcome.closedUnderMerge_leadsOnly`).
-/

namespace TextAdventure

/-- An outcome leads to no rooms but legal ones, if it leads anywhere. -/
def Outcome.LeadsOnly (legal : String → Prop) (outcome : Outcome) : Prop :=
  ∀ room, outcome.change.room = some room → legal room

theorem Outcome.closedUnderMerge_leadsOnly (legal : String → Prop) :
    ClosedUnderMerge (Outcome.LeadsOnly legal) := by
  intro earlier later hearlier hlater room h
  rw [change_merge, Update.merge, Option.orElse_eq_orElse, Option.orElse_eq_or,
    Option.or_eq_some_iff] at h
  rcases h with h | ⟨-, h⟩
  · exact hlater room h
  · exact hearlier room h

/-- A room where an action may leave the player: the start when they restart, or the end of a
passage. -/
def World.Legal (w : World) (session : Session) (verb : Verb) (room : String) : Prop :=
  (verb = .restart ∧ room = w.start) ∨
    ∃ origin direction destination, w.Passage session origin direction destination ∧
      room = destination.id

theorem Session.room_of_apply_ne {s : Session} {u : Update} (moved : (s.apply u).room ≠ s.room) :
    u.room = some (s.apply u).room := by
  unfold apply at moved ⊢
  rcases h : u.room with _ | room
  · rw [h] at moved
    exact absurd rfl moved
  · rfl

namespace World

variable {w : World} {session : Session}

theorem admits_leadsOnly (still : w.ContentAlways fun outcome => outcome.change.room = none)
    (verb : Verb) : Admits (Outcome.LeadsOnly (w.Legal session verb)) w session where
  words _ _ _ h := by cases h
  content := still.mono fun outcome unset room h => by
    rw [unset] at h
    cases h
  arrival passage _ room h := by
    cases h
    exact .inr ⟨_, _, _, passage, rfl⟩

theorem standard_leadsOnly (still : w.ContentAlways fun outcome => outcome.change.room = none)
    {wordings settings : Settings} {prompt : Varying String} {action : Action} {outcome : Outcome}
    (comes : (Resolver.standard wordings settings prompt).outcomeIn session w action
      = some outcome) :
    outcome.LeadsOnly (w.Legal session (Resolver.interpret session w action).1) := by
  refine Resolver.standard_outcomeIn (admits_leadsOnly still _)
    (Outcome.closedUnderMerge_leadsOnly _) ?_ ?_ comes
  · intro restarts _ room h
    cases h
    exact .inl ⟨restarts, rfl⟩
  · intro _ _ _ h
    cases h

end World

/-- If the stored room after an action is another one than before, the action came to a restart
and it is the start, or it lies at the end of a passage that was open to the player. -/
theorem standard_moves_legally {wordings settings : Settings} {prompt : Varying String}
    {m : Memory} {action : Action} {before : Session} {world : World}
    (stored : m.sessions.get? action.sessionId = some before)
    (registered : m.worlds.get? before.worldId = some world)
    (still : world.ContentAlways fun outcome => outcome.change.room = none) :
    ∃ after, (((Resolver.standard wordings settings prompt).resolve Memory.store action).run.run
          m).2.sessions.get? action.sessionId = some after ∧
      (after.room ≠ before.room →
        ((Resolver.interpret before world action).1 = .restart ∧ after.room = world.start) ∨
          ∃ origin direction destination,
            world.Passage before origin direction destination ∧
              after.room = destination.id) := by
  have named : before.id = action.sessionId := m.sessions.named stored
  refine ⟨(Resolver.standard wordings settings prompt).sessionAfter before world action, ?_, ?_⟩
  · rw [Resolver.resolve_stored _ stored registered]
    exact m.get?_write_of_id named
  · intro moved
    rcases Resolver.sessionAfter_cases (.standard wordings settings prompt) before world action
      with same | ⟨outcome, comes, eq⟩
    · exact absurd (congrArg Session.room same) moved
    · rw [eq] at moved ⊢
      exact World.standard_leadsOnly still comes _ (Session.room_of_apply_ne moved)

/-- A hall with a hatch to a loft. -/
def hatch : World :=
  World.addRoom (World.addRoom { id := "cottage", start := "hall" }
      { id := "hall", name := "hall", exits := .fixed (Dictionary.ofList [("up", "loft")]) })
    { id := "loft", name := "loft" }

theorem hatch_contentAlways (P : Outcome → Prop) : hatch.ContentAlways P :=
  ((World.EachCue.bare _ _).addRoom_silent rfl rfl).addRoom_silent rfl rfl

/-- Up the hatch, which is a passage. -/
theorem standard_moves_legally_up :
    ∃ after, (((Resolver.standard {} {} (.fixed "Hello?")).resolve Memory.store
        ⟨"player", .move, { subject := "u" }⟩).run.run
          (Memory.write { worlds := shelve [hatch] }
            (.start "player" "cottage" "hall"))).2.sessions.get? "player" = some after ∧
      after.room = "loft" ∧
      ∃ origin direction destination,
        hatch.Passage (.start "player" "cottage" "hall") origin direction destination ∧
          after.room = destination.id := by
  obtain ⟨after, stored, legal⟩ := @standard_moves_legally {} {} (.fixed "Hello?")
    (Memory.write { worlds := shelve [hatch] } (.start "player" "cottage" "hall"))
    ⟨"player", .move, { subject := "u" }⟩ (.start "player" "cottage" "hall") hatch rfl rfl
    (hatch_contentAlways _)
  have there : some after.room = some "loft" := by
    refine (congrArg (Option.map Session.room) stored).symm.trans ?_
    decide +kernel
  have loft : after.room = "loft" := Option.some.inj there
  refine ⟨after, stored, loft, ?_⟩
  obtain ⟨restarts, -⟩ | passage := legal (by rw [loft]; decide)
  · cases restarts
  · exact passage

end TextAdventure
