import TextAdventure.Proofs.Visits

/-!
# The way back

Where the exits of all rooms are fixed and the content of the world lets the player's place alone,
the way back that a session remembers is an exit of the room that the player stands in, and it leads
to the room that they left when they last entered one (`Memory.KnowsWay`). An arrival sets this up,
a restart forgets it, and nothing else touches it (`Update.KeepsWay`), so a run keeps it
(`resolveAll_knowsWay`), and going back takes the player there or meets a lock (`back_knows_way`).
-/

namespace TextAdventure

/-- The exits of all rooms are the same in every session. -/
def World.Literal (w : World) : Prop :=
  ∀ id room, w.rooms.get? id = some room → room.exits.isFixed

namespace World.Literal

theorem bare (id start : String) : World.Literal { id, start } :=
  fun _ _ found => by cases found

theorem addRoom {w : World} (h : w.Literal) {room : Room} (fixed : room.exits.isFixed) :
    (w.addRoom room).Literal := by
  intro id other found
  rw [World.addRoom, Catalog.get?_file] at found
  split at found
  · cases found
    exact fixed
  · exact h id other found

end World.Literal

/-- Whatever the content of a world is asked, what it gives changes neither the player's room nor
the way back. -/
def World.LeavesPlace (w : World) : Prop :=
  w.ContentAlways fun outcome =>
    outcome.change.room = none ∧ outcome.change.cameFrom = none ∧ outcome.cameFrom = none

theorem Room.exitsFor_of_isFixed {room : Room} (fixed : room.exits.isFixed) (s t : Session) :
    room.exitsFor s = room.exitsFor t := by
  unfold exitsFor
  cases h : room.exits with
  | fixed exits => rfl
  | derived exits =>
    rw [h] at fixed
    cases fixed

/-- Where all exits are fixed, they lead the same way in all sessions in a room. -/
theorem World.LeadsTo.of_room_eq {w : World} (literal : w.Literal) {s t : Session}
    {here destination : Room} {direction : String} (same : t.room = s.room)
    (leads : w.LeadsTo s here direction destination) :
    w.LeadsTo t here direction destination where
  here := by
    rw [currentRoom, same]
    exact leads.here
  exit := by
    rw [Room.exitsFor_of_isFixed (literal _ _ leads.here) t s]
    exact leads.exit
  there := leads.there

/-- The way back of a session, if it has any, is an exit to the room that was left. -/
def Session.KnowsWay (w : World) (left : Option String) (s : Session) : Prop :=
  ∀ way, s.cameFrom = some way →
    ∃ here origin, w.LeadsTo s here way origin ∧ left = some origin.id

/-- An update leaves the player's room and the way back as they are, or takes the player into a room
and gives the exit from there to the one that they stand in, or that there is none. -/
def Update.KeepsWay (w : World) (session : Session) (u : Update) : Prop :=
  (u.room = none ∧ u.cameFrom = none) ∨
    ∃ room way, u.room = some room ∧ u.cameFrom = some way ∧
      (way = "" ∨ ∃ here origin, w.rooms.get? room = some here ∧
        w.currentRoom session = some origin ∧ (here.exitsFor session).get? way = some origin.id)

section KeepsWay

variable {w : World} {session : Session}

theorem Update.KeepsWay.merge {u later : Update} (h : u.KeepsWay w session)
    (hlater : later.KeepsWay w session) : (u.merge later).KeepsWay w session := by
  rcases hlater with ⟨stays, silent⟩ | ⟨room, way, hroom, hway, leads⟩
  · unfold KeepsWay at h ⊢
    simpa only [Update.merge, stays, silent, Option.orElse_eq_orElse, Option.orElse_eq_or,
      Option.none_or] using h
  · refine .inr ⟨room, way, ?_, ?_, leads⟩
    · rw [Update.merge, hroom]
      rfl
    · rw [Update.merge, hway]
      rfl

theorem World.get?_wayTo {room : Room} {target way : String}
    (found : wayTo session room target = some way) :
    (room.exitsFor session).get? way = some target := by
  obtain ⟨⟨direction, goal⟩, hfind, rfl⟩ := Option.map_eq_some_iff.1 found
  obtain rfl : goal = target := by simpa using List.find?_some hfind
  exact Dictionary.get?_of_mem (List.mem_of_find?_eq_some hfind)

theorem World.keepsWay_arrival {origin destination : Room} {direction : String}
    (passage : w.Passage session origin direction destination) :
    (arrivalUpdate session origin destination).KeepsWay w session := by
  refine .inr ⟨_, _, rfl, rfl, ?_⟩
  rcases found : wayTo session destination origin.id with _ | way
  · exact .inl rfl
  · exact .inr ⟨destination, origin, passage.there, passage.here, get?_wayTo found⟩

/-- An outcome keeps the way, and gives none besides its update. -/
def Outcome.KeepsWay (w : World) (session : Session) (outcome : Outcome) : Prop :=
  outcome.change.KeepsWay w session ∧ outcome.cameFrom = none

theorem Outcome.closedUnderMerge_keepsWay : ClosedUnderMerge (Outcome.KeepsWay w session) := by
  rintro earlier later ⟨h, silent⟩ ⟨hlater, silent'⟩
  refine ⟨?_, ?_⟩
  · rw [Outcome.change_merge]
    exact h.merge hlater
  · rw [Outcome.merge, silent, silent']
    rfl

theorem World.admits_keepsWay (still : w.LeavesPlace) :
    Admits (Outcome.KeepsWay w session) w session where
  words _ _ := ⟨.inl ⟨rfl, rfl⟩, rfl⟩
  content := still.mono fun _ h => ⟨.inl ⟨h.1, h.2.1⟩, h.2.2⟩
  arrival passage _ := ⟨keepsWay_arrival passage, rfl⟩

theorem Resolver.updateIn_keepsWay (still : w.LeavesPlace) {name : String} {r : Resolver}
    (standard : r.IsStandard name) (action : Action) :
    (r.updateIn session w action).KeepsWay w session := by
  obtain ⟨wordings, settings, prompt, rfl, -⟩ := standard
  unfold updateIn
  rcases comes : (Resolver.standard wordings settings prompt).outcomeIn session w action
    with _ | outcome
  · exact .inl ⟨rfl, rfl⟩
  · have keeps : outcome.KeepsWay w session := by
      refine standard_outcomeIn (World.admits_keepsWay still) Outcome.closedUnderMerge_keepsWay
        ?_ ?_ comes
      · intro _ _
        exact ⟨.inr ⟨_, _, rfl, rfl, .inl rfl⟩, rfl⟩
      · intro _ _
        exact ⟨.inl ⟨rfl, rfl⟩, rfl⟩
    -- What else is saved does not touch the way back.
    have same : (savedUpdate session outcome).cameFrom = outcome.change.cameFrom := by
      rw [savedUpdate, keeps.2]
      rfl
    have kept := keeps.1
    unfold Update.KeepsWay at kept ⊢
    rw [← same] at kept
    exact kept

/-- The way back is known after an update that keeps it, from the room that is left by it. -/
theorem Session.KnowsWay.apply (literal : w.Literal) {left : Option String}
    (knows : session.KnowsWay w left) {u : Update} (keeps : u.KeepsWay w session) :
    (session.apply u).KnowsWay w (if u.room.isSome then some session.room else left) := by
  intro way came
  replace came : (u.cameFrom.map presentText).getD session.cameFrom = some way := came
  have room : (session.apply u).room = u.room.getD session.room := rfl
  rcases keeps with ⟨stays, silent⟩ | ⟨entered, back, hroom, hback, leads⟩
  · rw [silent] at came
    obtain ⟨here, origin, exit, same⟩ := knows way came
    rw [stays] at room ⊢
    exact ⟨here, origin, exit.of_room_eq literal room, same⟩
  · rw [hback, Option.map_some, Option.getD_some] at came
    -- There is a way, so it is not the empty one, which is forgotten.
    obtain ⟨here, origin, hhere, standing, exit⟩ := leads.resolve_left fun none => by
      rw [none] at came
      cases came
    obtain rfl : back = way := by
      unfold presentText at came
      split at came
      · cases came
      · exact Option.some.inj came
    have named : origin.id = session.room := w.rooms.named standing
    rw [hroom] at room ⊢
    refine ⟨here, origin, ⟨?_, ?_, ?_⟩, congrArg some named.symm⟩
    · rw [World.currentRoom, room]
      exact hhere
    · rw [Room.exitsFor_of_isFixed (literal _ _ hhere) _ session]
      exact exit
    · rw [named]
      exact standing

end KeepsWay

/-! ## Runs -/

/-- Whether an answer takes the player into a room. -/
def entersRoom : Except ResolveError Outcome → Bool
  | .ok answer => answer.change.room.isSome
  | .error _ => false

/-- The room that the player of a session left last, after one step more: the one where they stood
before it, if it took them into a room. -/
def leftAfter (world : World) (id : String) (step : Step) (m : Memory) (left : Option String) :
    Option String :=
  if step.2.sessionId = id ∧
      entersRoom ((step.1.resolve Memory.store step.2).run.run m).1 then
    some (m.sessionOf world id).room
  else left

/-- The room that the player of a session left when a run took them into one last. -/
def leftLast (world : World) (id : String) : List Step → Memory → Option String → Option String
  | [], _, left => left
  | (r, action) :: steps, m, left =>
    leftLast world id steps ((r.resolve Memory.store action).run.run m).2
      (leftAfter world id (r, action) m left)

/-- The stored session of a player, if there is one, is one of the world and knows the way back to
the room that they left last. -/
def Memory.KnowsWay (world : World) (id : String) (left : Option String) (m : Memory) : Prop :=
  ∀ session, m.sessions.get? id = some session →
    session.worldId = world.id ∧ session.KnowsWay world left

section Runs

variable {world : World} {name id : String} {m : Memory} {left : Option String}

theorem Memory.KnowsWay.sessionOf (knows : m.KnowsWay world id left) :
    (m.sessionOf world id).worldId = world.id ∧ (m.sessionOf world id).KnowsWay world left := by
  unfold Memory.sessionOf
  rcases stored : m.sessions.get? id with _ | session
  · exact ⟨rfl, nofun⟩
  · exact knows session stored

theorem resolve_own {r : Resolver} (registered : m.worlds.get? name = some world)
    (standard : r.IsStandard name) {action : Action}
    (knows : m.KnowsWay world action.sessionId left) :
    ((r.resolve Memory.store action).run.run m).1
        = .ok (r.answerIn (m.sessionOf world action.sessionId) world action) ∧
      ((r.resolve Memory.store action).run.run m).2.sessions.get? action.sessionId
        = some (r.sessionAfter (m.sessionOf world action.sessionId) world action) := by
  rw [Resolver.get?_resolve, if_pos rfl, Resolver.resolve_eq_turn,
    standard.turn registered fun s stored => (knows s stored).1]
  exact ⟨rfl, rfl⟩

theorem resolve_knowsWay {r : Resolver} (registered : m.worlds.get? name = some world)
    (literal : world.Literal) (still : world.LeavesPlace) (standard : r.IsStandard name)
    (action : Action) (knows : m.KnowsWay world id left) :
    ((r.resolve Memory.store action).run.run m).2.KnowsWay world id
      (leftAfter world id (r, action) m left) := by
  intro session stored
  rw [leftAfter]
  dsimp only
  by_cases own : action.sessionId = id
  · subst own
    obtain ⟨answered, after⟩ := resolve_own registered standard knows
    obtain rfl := Option.some.inj (after.symm.trans stored)
    obtain ⟨same, way⟩ := knows.sessionOf
    refine ⟨same, ?_⟩
    simp only [answered, entersRoom, Resolver.answerIn_change, true_and]
    exact way.apply literal (Resolver.updateIn_keepsWay still standard action)
  · rw [Resolver.get?_resolve, if_neg (Ne.symm own)] at stored
    rw [if_neg fun both => own both.1]
    exact knows session stored

theorem resolveAll_knowsWay (literal : world.Literal) (still : world.LeavesPlace) :
    ∀ {steps : List Step} {m : Memory} {left : Option String},
      m.worlds.get? name = some world → (∀ step ∈ steps, step.1.IsStandard name) →
      m.KnowsWay world id left →
      (resolveAll Memory.store steps m).2.KnowsWay world id (leftLast world id steps m left)
  | [], _, _, _, _, knows => knows
  | (r, action) :: steps, m, left, registered, standard, knows => by
    rcases resolves : (r.resolve Memory.store action).run.run m with ⟨answer, m'⟩
    have kept := r.resolve_worlds m action
    have knows' := resolve_knowsWay registered literal still
      (standard _ List.mem_cons_self) action knows
    rw [resolves] at kept knows'
    rw [resolveAll_cons resolves, leftLast, resolves]
    exact resolveAll_knowsWay literal still (kept ▸ registered)
      (fun step mem => standard step (List.mem_cons_of_mem _ mem)) knows'

end Runs

/-! ## Going back -/

theorem Outcome.closedUnderMerge_stays :
    ClosedUnderMerge fun outcome => outcome.change.room = none := by
  intro earlier later stays stays'
  rw [change_merge, Update.merge, stays, stays']
  rfl

section GoingBack

variable {w : World} {session : Session} {here origin : Room} {way : String}

theorem World.go_back (leads : w.LeadsTo session here way origin)
    (came : session.cameFrom = some way) {word : String} (back : Text.normal word = "back") :
    w.go session word =
      match here.blocked way session with
      | some message => .say message
      | none => w.arrive session here origin := by
  have direction : expandDirection word = "back" := by
    rw [expandDirection, back]
    rfl
  simp only [go, leads.here, direction, came, ↓reduceIte]
  exact goToward_of_leadsTo leads

theorem World.perform_arrive (still : w.LeavesPlace) {destination : Room}
    (there : w.rooms.get? destination.id = some destination) (verb : String) :
    ∃ outcome, (w.arrive session origin destination).perform verb session = some outcome ∧
      outcome.change.room = some destination.id := by
  rw [arrive, Script.perform_sequence, List.foldl_cons, Script.continueWith_none, Script.perform]
  have silent : w.ContentAlways fun outcome => outcome.change.room = none :=
    still.mono fun _ h => h.1
  refine Script.foldl_continueWith_keeps Outcome.closedUnderMerge_stays ?_
    (silent.ambience there) verb session rfl
  intro sofar step entered stays
  rw [Outcome.change_merge, Update.merge, stays, entered]
  rfl

variable {r : Resolver} {action : Action}

theorem Resolver.answerIn_say {message : String}
    (comes : r.scriptIn session w action = some (.say message)) :
    (r.answerIn session w action).message = Markup.finalize r.settings.speechTag message ∧
      (r.sessionAfter session w action).room = session.room := by
  have outcome : r.outcomeIn session w action = some { message } := by
    rw [outcomeIn_eq, comes, Option.bind_some, Script.say, Script.perform]
  rw [answerIn, sessionAfter, updateIn, outcome]
  exact ⟨rfl, rfl⟩

theorem Resolver.answerIn_arrive (still : w.LeavesPlace) {destination : Room}
    (there : w.rooms.get? destination.id = some destination)
    (comes : r.scriptIn session w action = some (w.arrive session origin destination)) :
    (r.answerIn session w action).change.room = some destination.id ∧
      (r.sessionAfter session w action).room = destination.id := by
  obtain ⟨outcome, performed, entered⟩ := World.perform_arrive still there
    (interpret session w action).1.name
  have update : (r.updateIn session w action).room = some destination.id := by
    rw [updateIn, outcomeIn_eq, comes, Option.bind_some, performed]
    exact entered
  refine ⟨by rw [answerIn_change, update], ?_⟩
  show (r.updateIn session w action).room.getD session.room = destination.id
  rw [update, Option.getD_some]

/-- What comes of going back to a room through an exit: the player hears that it is locked and stays,
or enters the room. -/
def Resolver.GoesBack (r : Resolver) (w : World) (session : Session) (action : Action)
    (here : Room) (way : String) (origin : Room) (answer : Outcome) (after : Session) : Prop :=
  (∃ message, here.blocked way session = some message
      ∧ answer.message = Markup.finalize r.settings.speechTag message
      ∧ after.room = session.room)
    ∨ (here.blocked way session = none
      ∧ r.scriptIn session w action = some (w.arrive session here origin)
      ∧ answer.change.room = some origin.id
      ∧ after.room = origin.id)

theorem Resolver.goesBack (still : w.LeavesPlace) {name : String} (standard : r.IsStandard name)
    (leads : w.LeadsTo session here way origin) (came : session.cameFrom = some way)
    {sentence : Sentence} {word : String}
    (means : interpret session w action = (.move, sentence))
    (subject : sentence.subject = some word) (back : Text.normal word = "back") :
    r.GoesBack w session action here way origin (r.answerIn session w action)
      (r.sessionAfter session w action) := by
  obtain ⟨wordings, settings, prompt, rfl, -⟩ := standard
  have spoken : Text.normal word ≠ "" := by simp [back]
  have script : (Resolver.standard wordings settings prompt).scriptIn session w action
      = some (match here.blocked way session with
        | some message => .say message
        | none => w.arrive session here origin) := by
    rw [scriptIn, means]
    exact (Verbs.move_of_subject subject spoken).trans
      (congrArg some (w.go_back leads came back))
  rcases locked : here.blocked way session with _ | message
  · rw [locked] at script
    exact .inr ⟨locked, script, answerIn_arrive still leads.there script⟩
  · rw [locked] at script
    exact .inl ⟨message, locked, answerIn_say script⟩

end GoingBack

/-- After every run, a way back that a stored session remembers is an exit of the room where the
player stands to the one that they left last; and if they then ask to go back, they come to that
room, unless the exit is locked: then they hear this and stay. -/
theorem back_knows_way {worlds : Shelf} {name id way : String} {world : World} {steps : List Step}
    {session : Session} (registered : worlds.get? name = some world) (literal : world.Literal)
    (still : world.LeavesPlace) (standard : ∀ step ∈ steps, step.1.IsStandard name)
    (stored : (memoryAfter worlds steps).sessions.get? id = some session)
    (came : session.cameFrom = some way) :
    ∃ here origin, world.LeadsTo session here way origin
      ∧ leftLast world id steps { worlds } none = some origin.id
      ∧ ∀ (r : Resolver) (action : Action) (sentence : Sentence) (word : String),
        r.IsStandard name → action.sessionId = id →
        Resolver.interpret session world action = (.move, sentence) →
        sentence.subject = some word → Text.normal word = "back" →
        ∃ answer after,
          ((r.resolve Memory.store action).run.run (memoryAfter worlds steps)).1 = .ok answer
          ∧ ((r.resolve Memory.store action).run.run (memoryAfter worlds steps)).2.sessions.get? id
            = some after
          ∧ r.GoesBack world session action here way origin answer after := by
  have fresh : Memory.KnowsWay world id none { worlds } := fun session stored => by cases stored
  have knows : (memoryAfter worlds steps).KnowsWay world id
      (leftLast world id steps { worlds } none) :=
    resolveAll_knowsWay literal still registered standard fresh
  have kept : (memoryAfter worlds steps).worlds.get? name = some world := by
    rwa [memoryAfter, resolveAll_worlds]
  obtain ⟨here, origin, leads, left⟩ := (knows session stored).2 way came
  refine ⟨here, origin, leads, left, ?_⟩
  intro r action sentence word standing own means subject back
  subst own
  obtain ⟨answered, after⟩ := resolve_own kept standing knows
  rw [Memory.sessionOf, stored, Option.getD_some] at answered after
  exact ⟨_, _, answered, after, Resolver.goesBack still standing leads came means subject back⟩

/-- A hall, and a loft at the top of the stairs. -/
def stairs : World :=
  World.addRoom (World.addRoom { id := "cottage", start := "hall" }
      { id := "hall", name := "hall", exits := .fixed (Dictionary.ofList [("up", "loft")]) })
    { id := "loft", name := "loft", exits := .fixed (Dictionary.ofList [("down", "hall")]) }

/-- A player who has come up the stairs. -/
def upstairs : Session :=
  { id := "player", worldId := "cottage", room := "loft", seen := .ofList ["hall", "loft"],
    cameFrom := "down" }

/-- Up the stairs, and back. -/
theorem back_knows_way_stairs :
    ∃ here origin, stairs.LeadsTo upstairs here "down" origin
      ∧ leftLast stairs "player" [played .move { subject := "up" }] { worlds := shelve [stairs] }
          none = some origin.id
      ∧ ∃ answer after,
        (((Resolver.standard {} {} (.fixed "Hello?")).resolve Memory.store
            ⟨"player", .move, { subject := "Back" }⟩).run.run
              (memoryAfter (shelve [stairs]) [played .move { subject := "up" }])).1 = .ok answer
        ∧ (((Resolver.standard {} {} (.fixed "Hello?")).resolve Memory.store
            ⟨"player", .move, { subject := "Back" }⟩).run.run
              (memoryAfter (shelve [stairs]) [played .move { subject := "up" }])).2.sessions.get?
                "player" = some after
        ∧ (Resolver.standard {} {} (.fixed "Hello?")).GoesBack stairs upstairs
            ⟨"player", .move, { subject := "Back" }⟩ here "down" origin answer after := by
  have literal : stairs.Literal := ((World.Literal.bare _ _).addRoom rfl).addRoom rfl
  have still : stairs.LeavesPlace :=
    ((World.EachCue.bare _ _).addRoom_silent rfl rfl).addRoom_silent rfl rfl
  have standard : ∀ step ∈ [played .move { subject := "up" }], step.1.IsStandard "cottage" := by
    intro step mem
    obtain rfl := List.mem_singleton.1 mem
    exact ⟨{}, {}, .fixed "Hello?", rfl, rfl⟩
  have stored : (memoryAfter (shelve [stairs])
      [played .move { subject := "up" }]).sessions.get? "player" = some upstairs := by
    decide +kernel
  obtain ⟨here, origin, leads, left, back⟩ :=
    back_knows_way rfl literal still standard stored rfl
  exact ⟨here, origin, leads, left, back _ _ { subject := "Back" } "Back"
    ⟨{}, {}, .fixed "Hello?", rfl, rfl⟩ rfl rfl rfl (by decide +kernel)⟩

end TextAdventure
