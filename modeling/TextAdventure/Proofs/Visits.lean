import TextAdventure.Proofs.LegalMoves
import TextAdventure.Proofs.Turns

/-!
# The rooms that a player remembers

In a world whose content leaves the player's room and the visited rooms alone, a stored session
always stands in a room of the world that it has seen, remembers no rooms but those of the world,
and forgets none but by a restart (`standard_sessions_settled`). What an action may change of this
is an arrival or a restart (`Update.Visits`), which merging keeps; the rest is one step of a
session (`Resolver.sessionAfter_settled`) and a run of turns.
-/

namespace TextAdventure

/-- The session belongs to the world and stands in one of its rooms, which it has seen; it has seen
no others than rooms of the world, and no reference of it is empty. -/
structure Session.Settled (w : World) (s : Session) : Prop where
  world : s.worldId = w.id
  standing : (w.currentRoom s).isSome
  arrived : s.room ∈ s.seen
  known : ∀ id ∈ s.seen, (w.rooms.get? id).isSome
  context : s.context ≠ some ""
  cameFrom : s.cameFrom ≠ some ""

/-- What it takes to put a player into a room: the room exists and is among those seen then, which
are no others than rooms of the world besides those seen before, none of which is forgotten unless
the player starts over. -/
structure World.Visit (w : World) (session : Session) (verb : Verb) (room : String)
    (seen : IdSet) : Prop where
  there : (w.rooms.get? room).isSome
  arrived : room ∈ seen
  known : ∀ id ∈ seen, id ∈ session.seen ∨ (w.rooms.get? id).isSome
  remembered : verb ≠ .restart → ∀ id ∈ session.seen, id ∈ seen

/-- Whatever the content of a world is asked, what it gives changes neither the player's room nor
the rooms seen. -/
def World.LeavesRooms (w : World) : Prop :=
  w.ContentAlways fun outcome => outcome.change.room = none ∧ outcome.change.seen = none

/-- An update leaves both the room and the rooms seen as they are, or changes both to those of a
visit. -/
def Update.Visits (visit : String → IdSet → Prop) (u : Update) : Prop :=
  (u.room = none ∧ u.seen = none) ∨
    ∃ room seen, u.room = some room ∧ u.seen = some seen ∧ visit room seen

theorem Update.Visits.merge {visit : String → IdSet → Prop} {u later : Update}
    (h : u.Visits visit) (hlater : later.Visits visit) : (u.merge later).Visits visit := by
  rcases hlater with ⟨stays, unseen⟩ | ⟨room, seen, hroom, hseen, visited⟩
  · unfold Visits at h ⊢
    simpa only [Update.merge, stays, unseen, Option.orElse_eq_orElse, Option.orElse_eq_or,
      Option.none_or] using h
  · refine .inr ⟨room, seen, ?_, ?_, visited⟩
    · rw [Update.merge, hroom]
      rfl
    · rw [Update.merge, hseen]
      rfl

theorem closedUnderMerge_visits (visit : String → IdSet → Prop) :
    ClosedUnderMerge fun outcome => outcome.change.Visits visit := by
  intro earlier later h hlater
  rw [Outcome.change_merge]
  exact h.merge hlater

theorem presentText_ne_empty (text : String) : presentText text ≠ some "" := by
  unfold presentText
  split
  · simp
  · next ne => simpa using ne

/-- Applying an update never leaves an empty reference. -/
theorem apply_reference_ne_empty {before change : Option String} (h : before ≠ some "") :
    (change.map presentText).getD before ≠ some "" := by
  cases change with
  | none => exact h
  | some text => exact presentText_ne_empty text

namespace Session

variable {w : World} {s : Session} {verb : Verb} {u : Update}

theorem Settled.apply (settled : s.Settled w) (visits : u.Visits (w.Visit s verb)) :
    (s.apply u).Settled w where
  world := settled.world
  context := apply_reference_ne_empty settled.context
  cameFrom := apply_reference_ne_empty settled.cameFrom
  standing := by
    show (w.rooms.get? (u.room.getD s.room)).isSome
    rcases visits with ⟨stays, -⟩ | ⟨room, seen, hroom, -, visit⟩
    · rw [stays]
      exact settled.standing
    · rw [hroom]
      exact visit.there
  arrived := by
    show u.room.getD s.room ∈ u.seen.getD s.seen
    rcases visits with ⟨stays, unseen⟩ | ⟨room, seen, hroom, hseen, visit⟩
    · rw [stays, unseen]
      exact settled.arrived
    · rw [hroom, hseen]
      exact visit.arrived
  known id mem := by
    replace mem : id ∈ u.seen.getD s.seen := mem
    rcases visits with ⟨-, unseen⟩ | ⟨room, seen, -, hseen, visit⟩
    · rw [unseen] at mem
      exact settled.known id mem
    · rw [hseen] at mem
      exact (visit.known id mem).elim (settled.known id) fun h => h

theorem seen_apply (visits : u.Visits (w.Visit s verb)) (goesOn : verb ≠ .restart) :
    ∀ room ∈ s.seen, room ∈ (s.apply u).seen := by
  intro room mem
  show room ∈ u.seen.getD s.seen
  rcases visits with ⟨-, unseen⟩ | ⟨_, seen, -, hseen, visit⟩
  · rwa [unseen]
  · rw [hseen]
    exact visit.remembered goesOn room mem

theorem settled_start {id : String} (starts : (w.rooms.get? w.start).isSome) :
    (start id w.id w.start).Settled w where
  world := rfl
  standing := starts
  arrived := IdSet.mem_singleton.2 rfl
  known room mem := by rwa [IdSet.mem_singleton.1 mem]
  context := nofun
  cameFrom := nofun

end Session

namespace World

variable {w : World} {session : Session}

theorem visit_of_passage {origin destination : Room} {direction : String} {verb : Verb}
    (passage : w.Passage session origin direction destination) :
    w.Visit session verb destination.id (session.seen.insertAll [origin.id, destination.id]) where
  there := by rw [passage.there]; rfl
  arrived := by simp
  known id mem := by
    rcases IdSet.mem_insertAll.1 mem with mem | mem
    · right
      simp only [List.mem_cons, List.not_mem_nil, or_false] at mem
      rcases mem with rfl | rfl
      · have here := passage.here
        rw [currentRoom] at here
        rw [w.rooms.named here, here]
        rfl
      · rw [passage.there]
        rfl
    · exact .inl mem
  remembered _ _ mem := IdSet.mem_insertAll.2 (.inr mem)

theorem visit_restart (starts : (w.rooms.get? w.start).isSome) :
    w.Visit session .restart w.start (.singleton w.start) where
  there := starts
  arrived := IdSet.mem_singleton.2 rfl
  known id mem := by
    rw [IdSet.mem_singleton.1 mem]
    exact .inr starts
  remembered h := absurd rfl h

theorem admits_visits (still : w.LeavesRooms) (verb : Verb) :
    Admits (fun outcome => outcome.change.Visits (w.Visit session verb)) w session where
  words _ _ := .inl ⟨rfl, rfl⟩
  content := still.mono fun _ => .inl
  arrival passage _ := .inr ⟨_, _, rfl, rfl, visit_of_passage passage⟩

theorem standard_visits (starts : (w.rooms.get? w.start).isSome) (still : w.LeavesRooms)
    {wordings settings : Settings} {prompt : Varying String} {action : Action} {outcome : Outcome}
    (comes : (Resolver.standard wordings settings prompt).outcomeIn session w action
      = some outcome) :
    outcome.change.Visits (w.Visit session (Resolver.interpret session w action).1) := by
  refine Resolver.standard_outcomeIn (admits_visits still _) (closedUnderMerge_visits _) ?_ ?_ comes
  · intro restarts _
    rw [restarts]
    exact .inr ⟨_, _, rfl, rfl, visit_restart starts⟩
  · intro _ _
    exact .inl ⟨rfl, rfl⟩

end World

namespace Resolver

variable {w : World} {session : Session} {wordings settings : Settings} {prompt : Varying String}

/-- An action keeps a session settled, and the rooms it has seen unless it comes to a restart. -/
theorem sessionAfter_settled (starts : (w.rooms.get? w.start).isSome) (still : w.LeavesRooms)
    (settled : session.Settled w) (action : Action) :
    ((standard wordings settings prompt).sessionAfter session w action).Settled w ∧
      ((interpret session w action).1 ≠ .restart →
        ∀ room ∈ session.seen,
          room ∈ ((standard wordings settings prompt).sessionAfter session w action).seen) := by
  rcases sessionAfter_cases (standard wordings settings prompt) session w action
    with same | ⟨outcome, comes, eq⟩
  · rw [same]
    exact ⟨settled, fun _ _ mem => mem⟩
  · rw [eq]
    have visits : (savedUpdate session outcome).Visits
        (w.Visit session (interpret session w action).1) :=
      World.standard_visits starts still comes
    exact ⟨settled.apply visits, Session.seen_apply visits⟩

end Resolver

/-- What an action makes of a stored session belongs to the same player and world and has forgotten
no room, unless the player has started over by it. -/
structure Session.GoesOn (w : World) (action : Action) (before after : Session) : Prop where
  id : after.id = before.id
  worldId : after.worldId = before.worldId
  seen : (before.id = action.sessionId ∧ (Resolver.interpret before w action).1 = .restart) ∨
    ∀ room ∈ before.seen, room ∈ after.seen

/-- All sessions that are stored are settled. -/
def Memory.Settled (w : World) (m : Memory) : Prop :=
  ∀ id session, m.sessions.get? id = some session → session.Settled w

/-- A resolver with the standard verbs, in whatever words, and a default world. -/
def Resolver.IsStandard (name : String) (r : Resolver) : Prop :=
  ∃ wordings settings prompt, r = .standard wordings settings prompt ∧
    settings.defaultWorld = name

theorem Resolver.IsStandard.defaultWorld {name : String} {r : Resolver}
    (standard : r.IsStandard name) : r.settings.defaultWorld = name := by
  obtain ⟨wordings, settings, prompt, rfl, named⟩ := standard
  exact named

section Runs

variable {world : World} {name : String} {m : Memory} {r : Resolver}

/-- The session in which a player acts: theirs, or a fresh one. -/
def Memory.sessionOf (m : Memory) (w : World) (id : String) : Session :=
  (m.sessions.get? id).getD (.start id w.id w.start)

theorem Memory.Settled.sessionOf (settled : m.Settled world)
    (starts : (world.rooms.get? world.start).isSome) (id : String) :
    (m.sessionOf world id).Settled world := by
  unfold Memory.sessionOf
  rcases stored : m.sessions.get? id with _ | session
  · exact Session.settled_start starts
  · exact settled id session stored

/-- A turn of a player of the world, in their session or in a fresh one. -/
theorem Resolver.IsStandard.turn (standard : r.IsStandard name)
    (registered : m.worlds.get? name = some world) {action : Action}
    (plays : ∀ s, m.sessions.get? action.sessionId = some s → s.worldId = world.id) :
    r.turn m.worlds (m.sessions.get? action.sessionId) action
      = (.ok (r.answerIn (m.sessionOf world action.sessionId) world action),
          some (r.sessionAfter (m.sessionOf world action.sessionId) world action)) := by
  obtain ⟨wordings, settings, prompt, rfl, rfl⟩ := standard
  exact Resolver.turn_eq _ m.worlds registered plays rfl

/-- What an action leaves stored where all sessions are settled. -/
theorem get?_resolve_settled (registered : m.worlds.get? name = some world)
    (settled : m.Settled world) (standard : r.IsStandard name) (action : Action) (id : String) :
    ((r.resolve Memory.store action).run.run m).2.sessions.get? id
      = if id = action.sessionId then
          some (r.sessionAfter (m.sessionOf world action.sessionId) world action)
        else m.sessions.get? id := by
  rw [Resolver.get?_resolve,
    standard.turn registered fun s stored => (settled _ s stored).world]

/-- An action keeps all sessions settled, and the player's own is stored after it. -/
theorem resolve_settled (registered : m.worlds.get? name = some world)
    (starts : (world.rooms.get? world.start).isSome) (still : world.LeavesRooms)
    (settled : m.Settled world) (standard : r.IsStandard name) (action : Action) :
    ((r.resolve Memory.store action).run.run m).2.Settled world := by
  intro id session stored
  rw [get?_resolve_settled registered settled standard] at stored
  split at stored
  · cases stored
    obtain ⟨wordings, settings, prompt, rfl, -⟩ := standard
    exact (Resolver.sessionAfter_settled starts still (settled.sessionOf starts _) action).1
  · exact settled id session stored

/-- What becomes of each session that is stored. -/
theorem resolve_goesOn (registered : m.worlds.get? name = some world)
    (starts : (world.rooms.get? world.start).isSome) (still : world.LeavesRooms)
    (settled : m.Settled world) (standard : r.IsStandard name) (action : Action) {id : String}
    {before : Session} (stored : m.sessions.get? id = some before) :
    ∃ after, ((r.resolve Memory.store action).run.run m).2.sessions.get? id = some after ∧
      before.GoesOn world action after := by
  rw [get?_resolve_settled registered settled standard]
  split
  · next eq =>
    subst eq
    rw [Memory.sessionOf, stored, Option.getD_some]
    obtain ⟨wordings, settings, prompt, rfl, -⟩ := standard
    refine ⟨_, rfl, rfl, rfl, ?_⟩
    by_cases restarts : (Resolver.interpret before world action).1 = .restart
    · exact .inl ⟨m.sessions.named stored, restarts⟩
    · exact .inr ((Resolver.sessionAfter_settled starts still
        (settled _ before stored) action).2 restarts)
  · exact ⟨before, stored, rfl, rfl, .inr fun _ mem => mem⟩

theorem resolveAll_settled (starts : (world.rooms.get? world.start).isSome)
    (still : world.LeavesRooms) :
    ∀ {steps : List Step} {m : Memory}, m.worlds.get? name = some world → m.Settled world →
      (∀ step ∈ steps, step.1.IsStandard name) →
      (resolveAll Memory.store steps m).2.worlds.get? name = some world ∧
        (resolveAll Memory.store steps m).2.Settled world
  | [], _, registered, settled, _ => ⟨registered, settled⟩
  | (r, action) :: steps, m, registered, settled, standard => by
    rcases resolves : (r.resolve Memory.store action).run.run m with ⟨answer, m'⟩
    have kept := r.resolve_worlds m action
    have settled' := resolve_settled registered starts still settled
      (standard _ List.mem_cons_self) action
    rw [resolves] at kept settled'
    rw [resolveAll_cons resolves]
    exact resolveAll_settled starts still (kept ▸ registered) settled'
      fun step mem => standard step (List.mem_cons_of_mem _ mem)

end Runs

/-- The memory after a run that starts without sessions. -/
def memoryAfter (worlds : Shelf) (steps : List Step) : Memory :=
  (resolveAll Memory.store steps { worlds }).2

/-- After every run all stored sessions are settled, and one action more stores the session of its
player, and every session that was stored goes on. -/
theorem standard_sessions_settled {worlds : Shelf} {name : String} {world : World}
    {steps : List Step} {r : Resolver} {action : Action}
    (registered : worlds.get? name = some world)
    (starts : (world.rooms.get? world.start).isSome) (still : world.LeavesRooms)
    (standard : ∀ step ∈ steps ++ [(r, action)], step.1.IsStandard name) :
    (∀ id session, (memoryAfter worlds steps).sessions.get? id = some session →
        session.Settled world)
    ∧ ((memoryAfter worlds (steps ++ [(r, action)])).sessions.get? action.sessionId).isSome
    ∧ ∀ id before, (memoryAfter worlds steps).sessions.get? id = some before →
        ∃ after, (memoryAfter worlds (steps ++ [(r, action)])).sessions.get? id = some after ∧
          before.GoesOn world action after := by
  have fresh : Memory.Settled world { worlds } := fun id session stored => by cases stored
  obtain ⟨registered', settled⟩ : (memoryAfter worlds steps).worlds.get? name = some world ∧
      (memoryAfter worlds steps).Settled world :=
    resolveAll_settled starts still registered fresh fun step mem =>
      standard step (List.mem_append_left _ mem)
  have last : r.IsStandard name := standard (r, action) (by simp)
  have next : memoryAfter worlds (steps ++ [(r, action)])
      = ((r.resolve Memory.store action).run.run (memoryAfter worlds steps)).2 := by
    rw [memoryAfter, resolveAll_append]
    rfl
  rw [next]
  refine ⟨settled, ?_, fun id before stored =>
    resolve_goesOn registered' starts still settled last action stored⟩
  rw [get?_resolve_settled registered' settled last, if_pos rfl]
  rfl

/-- An action of a player in the cottage. -/
def played (verb : Verb) (sentence : Sentence) : Step :=
  (.standard {} {} (.fixed "Hello?"), ⟨"player", verb, sentence⟩)

/-- Up the hatch, and then back to the start. -/
theorem standard_sessions_settled_hatch :
    ∃ before after,
      (memoryAfter (shelve [hatch]) [played .move { subject := "u" }]).sessions.get? "player"
          = some before ∧
        before.Settled hatch ∧ before.room = "loft" ∧
        (memoryAfter (shelve [hatch])
            ([played .move { subject := "u" }] ++ [played .restart {}])).sessions.get? "player"
          = some after ∧
        before.GoesOn hatch ⟨"player", .restart, {}⟩ after ∧ after.room = "hall" := by
  have standard : ∀ step ∈ [played .move { subject := "u" }] ++ [played .restart {}],
      step.1.IsStandard "cottage" := by
    simp only [List.cons_append, List.nil_append, List.mem_cons, List.not_mem_nil, or_false,
      forall_eq_or_imp, forall_eq]
    exact ⟨⟨{}, {}, .fixed "Hello?", rfl, rfl⟩, {}, {}, .fixed "Hello?", rfl, rfl⟩
  obtain ⟨settled, -, goesOn⟩ := @standard_sessions_settled (shelve [hatch]) "cottage" hatch
    [played .move { subject := "u" }] _ _ rfl rfl (hatch_contentAlways _) standard
  have up : ((memoryAfter (shelve [hatch]) [played .move { subject := "u" }]).sessions.get?
      "player").map Session.room = some "loft" := by decide +kernel
  have back : ((memoryAfter (shelve [hatch])
      ([played .move { subject := "u" }] ++ [played .restart {}])).sessions.get? "player").map
        Session.room = some "hall" := by decide +kernel
  obtain ⟨before, stored, loft⟩ := Option.map_eq_some_iff.1 up
  obtain ⟨after, next, goes⟩ := goesOn "player" before stored
  have hall : some after.room = some "hall" :=
    (congrArg (Option.map Session.room) next).symm.trans back
  exact ⟨before, after, stored, settled _ before stored, loft, next, goes, Option.some.inj hall⟩

end TextAdventure
