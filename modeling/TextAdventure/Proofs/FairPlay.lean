import TextAdventure.Proofs.CottageDeeds
import TextAdventure.Proofs.FailureCount
import TextAdventure.Proofs.Threading

/-!
# No cheating in the cottage

Nobody comes to the end of the game but by its steps: whoever stands in the cellar or has been there
carries the lamp and has lit it, the fish comes from there, and the cat is fed with it (`Fair`). To
be kept by every deed, this takes a little more, above all that the fish is not lost (`InPlay`,
`InPlay.deed`); so it holds of every stored session, and the conversation ends only with a sated cat
(`fair_play`).
-/

namespace TextAdventure.Cottage

/-- A session shows nothing that a player cannot have come by in the cottage: whoever has been in
the cellar has lit the lamp and carries it, and the cat is fed with a fish from there. -/
structure Fair (s : Session) : Prop where
  lamp : "lamp" ∈ s.inventory ↔ "lamp" ∈ s.gone
  lamplight : Cottage.lamplight ∈ s.effects ↔ isLit s = true
  lit : isLit s = true → "lamp" ∈ s.inventory
  cellar : s.room = "cellar" ∨ "cellar" ∈ s.seen → isLit s = true
  fishGone : "fish" ∈ s.gone → "cellar" ∈ s.seen
  fishCarried : "fish" ∈ s.inventory → "fish" ∈ s.gone
  fed : isCatFed s = true → "fish" ∈ s.gone ∧ "fish" ∉ s.inventory
  own : ∀ id ∈ s.inventory, id = "lamp" ∨ id = "fish"

/-- What is besides true of every session in the cottage. -/
structure InPlay (s : Session) : Prop extends Fair s where
  standing : s.room = "pantry" ∨ s.room = "kitchen" ∨ s.room = "cellar"
  arrived : s.room ∈ s.seen
  fishKept : "fish" ∈ s.gone → "fish" ∈ s.inventory ∨ isCatFed s = true
  taken : ∀ id ∈ s.gone, id = "lamp" ∨ id = "fish"

theorem inPlay_start (id worldId : String) : InPlay (.start id worldId "pantry") where
  lamp := Iff.rfl
  lamplight := iff_of_false (IdSet.not_mem_empty _) nofun
  lit := nofun
  cellar := by
    rintro (here | seen)
    · exact absurd here (by simp [Session.start])
    · exact absurd (IdSet.mem_singleton.1 seen) (by decide)
  fishGone := nofun
  fishCarried := nofun
  fed := nofun
  own := nofun
  standing := .inl rfl
  arrived := IdSet.mem_singleton.2 rfl
  fishKept := nofun
  taken := nofun

namespace InPlay

variable {s : Session}

/-- The game stands as before if no flag of it and nothing else is other than before. -/
theorem of_same (play : InPlay s) {t : Session} (lit : isLit t = isLit s)
    (fed : isCatFed t = isCatFed s) (room : t.room = s.room) (inventory : t.inventory = s.inventory)
    (gone : t.gone = s.gone) (seen : t.seen = s.seen) (effects : t.effects = s.effects) :
    InPlay t := by
  constructor
  · constructor
    all_goals simp only [lit, fed, room, inventory, gone, seen, effects]
    exacts [play.lamp, play.lamplight, play.lit, play.cellar, play.fishGone, play.fishCarried,
      play.fed, play.own]
  all_goals simp only [fed, room, inventory, gone, seen]
  exacts [play.standing, play.arrived, play.fishKept, play.taken]

theorem of_sameProgress (play : InPlay s) {t : Session} (same : t.SameProgress s) : InPlay t :=
  play.of_same (isLit_congr same.flags) (isCatFed_congr same.flags) same.room same.inventory
    same.gone same.seen same.effects

/-- No other flag than those of the lamp and the cat makes a difference. -/
theorem flag (play : InPlay s) {name value : String} (lamp : name ≠ "lamp") (cat : name ≠ "cat")
    (failures : Option UInt32) :
    InPlay (s.apply { flags := s.flags.insert name value, failures }) := by
  refine play.of_same ?_ ?_ rfl rfl rfl rfl rfl
  · exact (isLit_insert rfl).trans (if_neg lamp.symm)
  · exact (isCatFed_insert rfl).trans (if_neg cat.symm)

theorem walk (play : InPlay s) {direction target : String} (way : Way s direction target)
    (back : String) :
    InPlay (s.apply
      { room := target, seen := some (s.seen.insertAll [s.room, target]), cameFrom := back }) where
  lamp := play.lamp
  lamplight := play.lamplight
  lit := play.lit
  cellar := by
    have lit : target = "cellar" → isLit s = true := by
      cases way with
      | down here lit carried => exact fun _ => lit
      | north | south | up => exact nofun
    rintro (entered | seen)
    · exact lit entered
    · rcases IdSet.mem_insertAll.1 seen with passed | seen
      · simp only [List.mem_cons, List.not_mem_nil, or_false] at passed
        exact passed.elim (fun here => play.cellar (.inl here.symm)) (fun there => lit there.symm)
      · exact play.cellar (.inr seen)
  fishGone gone := IdSet.mem_insertAll.2 (.inr (play.fishGone gone))
  fishCarried := play.fishCarried
  fed := play.fed
  own := play.own
  standing := by
    cases way with
    | north | up => exact .inr (.inl rfl)
    | south => exact .inl rfl
    | down => exact .inr (.inr rfl)
  arrived := IdSet.mem_insertAll.2 (.inl (by simp [Session.apply]))
  fishKept := play.fishKept
  taken := play.taken

theorem take (play : InPlay s) {id room : String} (kept : (id, room) ∈ keptIn)
    (here : s.room = room) (present : id ∉ s.gone) :
    InPlay (s.apply { inventory := s.inventory.insert id, gone := s.gone.insert id }) := by
  simp only [keptIn, List.mem_cons, Prod.mk.injEq, List.not_mem_nil, or_false] at kept
  have named : id = "lamp" ∨ id = "fish" := kept.imp And.left And.left
  -- the fish lies in the cellar, so whoever takes it has been there
  have reached : "fish" = id → "cellar" ∈ s.seen := by
    rintro rfl
    obtain ⟨-, rfl⟩ := kept.resolve_left fun other => absurd other.1 (by decide)
    exact here ▸ play.arrived
  exact
    { lamp := by
        show "lamp" ∈ s.inventory.insert id ↔ "lamp" ∈ s.gone.insert id
        rw [IdSet.mem_insert, IdSet.mem_insert, play.lamp]
      lamplight := play.lamplight
      lit := fun lit => IdSet.mem_insert.2 (.inr (play.lit lit))
      cellar := play.cellar
      fishGone := fun gone => (IdSet.mem_insert.1 gone).elim reached play.fishGone
      fishCarried := fun carried =>
        IdSet.mem_insert.2 ((IdSet.mem_insert.1 carried).imp_right play.fishCarried)
      fed := fun fed => by
        obtain ⟨gone, eaten⟩ := play.fed fed
        refine ⟨IdSet.mem_insert.2 (.inr gone), fun carried => ?_⟩
        rcases IdSet.mem_insert.1 carried with rfl | carried
        · exact present gone
        · exact eaten carried
      own := fun other carried => by
        rcases IdSet.mem_insert.1 carried with rfl | carried
        · exact named
        · exact play.own other carried
      standing := play.standing
      arrived := play.arrived
      fishKept := fun gone => by
        rcases IdSet.mem_insert.1 gone with same | gone
        · exact .inl (IdSet.mem_insert.2 (.inl same))
        · exact (play.fishKept gone).imp_left fun carried => IdSet.mem_insert.2 (.inr carried)
      taken := fun other gone => by
        rcases IdSet.mem_insert.1 gone with rfl | gone
        · exact named
        · exact play.taken other gone }

theorem light (play : InPlay s) (carried : "lamp" ∈ s.inventory) :
    InPlay (s.apply
      { flags := s.flags.insert "lamp" "lit", effects := s.effects.insert lamplight }) := by
  have burns : ∀ t : Session, t.flags = s.flags.insert "lamp" "lit" → isLit t = true :=
    fun _ flags => isLit_insert flags
  have fed : ∀ t : Session, t.flags = s.flags.insert "lamp" "lit" → isCatFed t = isCatFed s :=
    fun _ flags => isCatFed_insert flags
  exact
    { lamp := play.lamp
      lamplight := iff_of_true (IdSet.mem_insert.2 (.inl rfl)) (burns _ rfl)
      lit := fun _ => carried
      cellar := fun _ => burns _ rfl
      fishGone := play.fishGone
      fishCarried := play.fishCarried
      fed := fun eaten => play.fed ((fed _ rfl).symm.trans eaten)
      own := play.own
      standing := play.standing
      arrived := play.arrived
      fishKept := fun gone => (play.fishKept gone).imp_right (fed _ rfl).trans
      taken := play.taken }

theorem feed (play : InPlay s) (carried : "fish" ∈ s.inventory) :
    InPlay (s.apply
      { inventory := s.inventory.erase "fish", flags := s.flags.insert "cat" "fed" }) := by
  have lit : ∀ t : Session, t.flags = s.flags.insert "cat" "fed" → isLit t = isLit s :=
    fun _ flags => isLit_insert flags
  have fed : ∀ t : Session, t.flags = s.flags.insert "cat" "fed" → isCatFed t = true :=
    fun _ flags => isCatFed_insert flags
  have kept : "lamp" ∈ s.inventory.erase "fish" ↔ "lamp" ∈ s.inventory := by simp
  exact
    { lamp := kept.trans play.lamp
      lamplight := play.lamplight.trans (Iff.of_eq (congrArg (· = true) (lit _ rfl).symm))
      lit := fun burns => kept.2 (play.lit ((lit _ rfl).symm.trans burns))
      cellar := fun reached => (lit _ rfl).trans (play.cellar reached)
      fishGone := play.fishGone
      fishCarried := fun kept => absurd rfl (IdSet.mem_erase.1 kept).1
      fed := fun _ => ⟨play.fishCarried carried, fun kept => (IdSet.mem_erase.1 kept).1 rfl⟩
      own := fun id kept => play.own id (IdSet.mem_erase.1 kept).2
      standing := play.standing
      arrived := play.arrived
      fishKept := fun _ => .inr (fed _ rfl)
      taken := play.taken }

/-- Every deed leaves the game in play. -/
theorem deed (play : InPlay s) {verb : Verb} {u : Update} {close : Bool}
    (deed : Deed s verb u close) : InPlay (s.apply u) := by
  cases deed with
  | words => exact play
  | walk way => exact play.walk way _
  | restart => exact inPlay_start s.id s.worldId
  | misunderstanding => exact play.flag (by decide) (by decide) _
  | take kept here present => exact play.take kept here present
  | light carried => exact play.light carried
  | kettle => exact play.flag (by decide) (by decide) none
  | feed here carried => exact play.feed carried
  | farewell => exact play

end InPlay

/-! ## Runs -/

/-- Whether an answer ends the conversation. -/
def endsTalk : Except ResolveError Outcome → Bool
  | .ok answer => answer.close
  | .error _ => false

/-- The cat is fed, and the player is with it. -/
structure Sated (s : Session) : Prop where
  here : s.room = "kitchen"
  fed : isCatFed s = true

section Runs

variable {r : Resolver} {s : Session} {action : Action} {default : String}

theorem InPlay.sessionAfter (play : InPlay s) (standard : r.IsStandard default) (action : Action) :
    InPlay (r.sessionAfter s world action) := by
  obtain ⟨wordings, settings, prompt, rfl, -⟩ := standard
  rcases Resolver.sessionAfter_cases (.standard wordings settings prompt) s world action
    with same | ⟨outcome, comes, eq⟩
  · rwa [same]
  · rw [eq]
    exact (play.deed (outcomeIn_deed play.own comes)).of_sameProgress
      (sameProgress_savedUpdate s outcome)

theorem Deed.eq_empty_of_close {verb : Verb} {u : Update} (deed : Deed s verb u true) :
    u = .empty ∧ Sated s := by
  cases deed with
  | farewell here fed => exact ⟨rfl, here, fed⟩

theorem Sated.of_sameProgress (sated : Sated s) {t : Session} (same : t.SameProgress s) :
    Sated t where
  here := same.room.trans sated.here
  fed := (isCatFed_congr same.flags).trans sated.fed

/-- Only with a sated cat the conversation ends, and it is so afterwards too. -/
theorem InPlay.sated_of_close (play : InPlay s) (standard : r.IsStandard default)
    (closes : (r.answerIn s world action).close = true) :
    Sated s ∧ Sated (r.sessionAfter s world action) := by
  obtain ⟨wordings, settings, prompt, rfl, -⟩ := standard
  rw [Resolver.answerIn] at closes
  split at closes
  · exact absurd closes Bool.false_ne_true
  · next outcome comes =>
    have deed := outcomeIn_deed play.own comes
    rw [show outcome.close = true from closes] at deed
    obtain ⟨still, sated⟩ := deed.eq_empty_of_close
    refine ⟨sated, sated.of_sameProgress ?_⟩
    have same := sameProgress_savedUpdate s outcome
    rw [still, Session.apply_empty] at same
    rwa [Resolver.sessionAfter, Resolver.updateIn, comes]

theorem inPlay_sessionAfterAll :
    ∀ {steps : List Step} {s : Session}, (∀ step ∈ steps, step.1.IsStandard name) → InPlay s →
      InPlay (sessionAfterAll world s steps)
  | [], _, _, play => play
  | (r, action) :: steps, _, standard, play => by
    rw [sessionAfterAll]
    exact inPlay_sessionAfterAll (fun step mem => standard step (List.mem_cons_of_mem _ mem))
      (play.sessionAfter (standard _ List.mem_cons_self) action)

variable {worlds : Shelf} {steps : List Step}

theorem inPlay_stored (registered : worlds.get? name = some world)
    (standard : ∀ step ∈ steps, step.1.IsStandard name) {id : String} {session : Session}
    (stored : (memoryAfter worlds steps).sessions.get? id = some session) :
    InPlay session ∧ session.worldId = world.id := by
  rw [get?_memoryAfter registered fun step mem => (standard step mem).defaultWorld] at stored
  split at stored
  · cases stored
  · cases stored
    refine ⟨inPlay_sessionAfterAll ?_ (inPlay_start id world.id), sessionAfterAll_worldId _ _ _⟩
    exact fun step mem => standard step (List.mem_filter.1 mem).1

theorem inPlay_sessionOf (registered : worlds.get? name = some world)
    (standard : ∀ step ∈ steps, step.1.IsStandard name) (id : String) :
    InPlay ((memoryAfter worlds steps).sessionOf world id) ∧
      ((memoryAfter worlds steps).sessionOf world id).worldId = world.id := by
  unfold Memory.sessionOf
  rcases stored : (memoryAfter worlds steps).sessions.get? id with _ | session
  · exact ⟨inPlay_start id world.id, rfl⟩
  · exact inPlay_stored registered standard stored

end Runs

/-- In the cottage, whatever anybody asks for from the start on, every stored session is a fair one,
and no conversation ends but in the kitchen with the cat fed. -/
theorem fair_play {worlds : Shelf} {steps : List Step} (registered : worlds.get? name = some world)
    (standard : ∀ step ∈ steps, step.1.IsStandard name) :
    (∀ id session, (memoryAfter worlds steps).sessions.get? id = some session → Fair session)
    ∧ ∀ (r : Resolver) (action : Action), r.IsStandard name →
        endsTalk ((r.resolve Memory.store action).run.run (memoryAfter worlds steps)).1 = true →
        ∃ before after,
          (memoryAfter worlds steps).sessions.get? action.sessionId = some before
          ∧ ((r.resolve Memory.store action).run.run
              (memoryAfter worlds steps)).2.sessions.get? action.sessionId = some after
          ∧ Sated before ∧ Sated after := by
  refine ⟨fun id session stored => (inPlay_stored registered standard stored).1.toFair, ?_⟩
  intro r action last ends
  have kept : (memoryAfter worlds steps).worlds.get? name = some world := by
    rwa [memoryAfter, resolveAll_worlds]
  have plays : ∀ s, (memoryAfter worlds steps).sessions.get? action.sessionId = some s →
      s.worldId = world.id := fun s stored => (inPlay_stored registered standard stored).2
  rw [Resolver.resolve_eq_turn, last.turn kept plays] at ends
  rw [Resolver.get?_resolve, if_pos rfl, last.turn kept plays]
  rcases stored : (memoryAfter worlds steps).sessions.get? action.sessionId with _ | before
  · -- A fresh session is not in the kitchen.
    rw [Memory.sessionOf, stored, Option.getD_none] at ends
    have here : "pantry" = "kitchen" := ((inPlay_start _ _).sated_of_close last ends).1.here
    exact absurd here (by decide)
  · rw [Memory.sessionOf, stored, Option.getD_some] at ends ⊢
    obtain ⟨sated, sated'⟩ := (inPlay_stored registered standard stored).1.sated_of_close last ends
    exact ⟨before, _, rfl, rfl, sated, sated'⟩

/-- All that it takes to feed the cat. -/
def supper : List Step :=
  [played .take { subject := "lamp" }, played .use { subject := "it" },
    played .move { subject := "n" }, played .fallback { verb := "climb", subject := "down" },
    played .take { subject := "fish" }, played .move { subject := "back" },
    played .give { subject := "cat", object := "salted fish" }]

/-- The cat is fed by a player who then talks to it. -/
theorem fair_play_supper :
    (∀ id session, (memoryAfter (shelve [world]) supper).sessions.get? id = some session →
        Fair session)
    ∧ ∃ before after,
        (memoryAfter (shelve [world]) supper).sessions.get? "player" = some before
        ∧ (((Resolver.standard {} {} (.fixed "Hello?")).resolve Memory.store
            ⟨"player", .talk, { subject := "cat" }⟩).run.run
              (memoryAfter (shelve [world]) supper)).2.sessions.get? "player" = some after
        ∧ Sated before ∧ Sated after := by
  have standard : ∀ step ∈ supper, step.1.IsStandard name := by
    intro step mem
    simp only [supper, List.mem_cons, List.not_mem_nil, or_false] at mem
    rcases mem with rfl | rfl | rfl | rfl | rfl | rfl | rfl <;>
      exact ⟨{}, {}, .fixed "Hello?", rfl, rfl⟩
  obtain ⟨fair, sated⟩ := @fair_play (shelve [world]) supper rfl standard
  exact ⟨fair, sated (.standard {} {} (.fixed "Hello?")) ⟨"player", .talk, { subject := "cat" }⟩
    ⟨{}, {}, .fixed "Hello?", rfl, rfl⟩ (by decide +kernel)⟩

end TextAdventure.Cottage
