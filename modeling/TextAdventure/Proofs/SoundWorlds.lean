import TextAdventure.Validation

/-!
# Sound worlds

What there is to find wrong with a world without playing it, said of the world itself
(`World.IsSound`): where it starts, how its things are told apart, where its exits lead, and what the
entries of its things refer to. Each check finds a flaw just where one of these conditions fails, so
all of them together find none just in the sound worlds (`flaws_eq_nil_iff`).
-/

namespace TextAdventure

/-- Somebody could name the thing, and what its entries refer to is there. -/
structure Thing.IsSound (known : String → Prop) (thing : Thing) : Prop where
  called : ∃ key ∈ thing.keys, key ≠ ""
  redirects : ∀ {verb target}, thing.handler? verb = some (.synonym target) →
    (thing.handler? target).isSome
  reactions : ∀ {verb reactions id}, thing.handler? verb = some (.keyed reactions) →
    reactions.byId.contains id → known id

/-- An item has the id, or a thing of an effect has it. -/
def World.Knows (w : World) (id : String) : Prop :=
  w.items.contains id ∨
    ∃ name effect, w.effects.get? name = some effect ∧ ∃ thing ∈ effect.things, thing.id = some id

/-- What is asked of a room is asked of its exits only if they are fixed. -/
structure Room.IsSound (w : World) (room : Room) : Prop where
  targets : ∀ {exits}, room.exits = .fixed exits →
    ∀ {direction target}, exits.get? direction = some target → w.rooms.contains target
  locks : ∀ {exits}, room.exits = .fixed exits →
    ∀ {direction}, room.locks.contains direction → exits.contains direction
  leads : ∀ {exits}, room.exits = .fixed exits →
    ∀ thing ∈ room.things, ∀ direction ∈ thing.exit, exits.contains direction
  things : ∀ thing ∈ room.things, thing.IsSound w.Knows
  phrases : ∀ phrase ∈ room.phrases, phrase.verb ≠ .fallback

structure World.IsSound (w : World) : Prop where
  start : w.rooms.contains w.start
  distinct : (w.rooms.values.flatMap fun room => room.things.filterMap (·.id)).Nodup
  rooms : ∀ {id room}, w.rooms.get? id = some room → room.IsSound w
  items : ∀ {id item}, w.items.get? id = some item → item.IsSound w.Knows
  effects : ∀ {id effect}, w.effects.get? id = some effect →
    ∀ thing ∈ effect.things, thing.IsSound w.Knows

namespace World

variable {w : World} {known : IdSet} {place : String}

theorem repeated_eq_nil_iff : ∀ {ids : List String} {seen : IdSet},
    repeated seen ids = [] ↔ ids.Nodup ∧ ∀ id ∈ ids, id ∉ seen
  | [], _ => by simp [repeated]
  | id :: ids, seen => by
    rw [repeated, List.nodup_cons]
    split
    · next here =>
      refine iff_of_false (List.cons_ne_nil _ _) ?_
      rintro ⟨-, fresh⟩
      exact fresh id List.mem_cons_self here
    · next unseen =>
      have unseen : id ∉ seen := unseen
      rw [repeated_eq_nil_iff]
      constructor
      · rintro ⟨nodup, fresh⟩
        refine ⟨⟨fun mem => fresh id mem (IdSet.mem_insert.2 (.inl rfl)), nodup⟩, ?_⟩
        intro other mem
        rcases List.mem_cons.1 mem with rfl | mem
        · exact unseen
        · exact fun before => fresh other mem (IdSet.mem_insert.2 (.inr before))
      · rintro ⟨⟨notMem, nodup⟩, fresh⟩
        refine ⟨nodup, fun other mem before => ?_⟩
        rcases IdSet.mem_insert.1 before with rfl | before
        · exact notMem mem
        · exact fresh other (List.mem_cons_of_mem _ mem) before

theorem repeatedThings_eq_nil_iff : w.repeatedThings = [] ↔
    (w.rooms.values.flatMap fun room => room.things.filterMap (·.id)).Nodup := by
  rw [repeatedThings, repeated_eq_nil_iff]
  exact and_iff_left fun id _ => IdSet.not_mem_empty id

theorem mem_knownIds {id : String} : id ∈ w.knownIds ↔ w.Knows id := by
  have things : id ∈ (w.effects.values.flatMap fun effect => effect.things.filterMap (·.id)) ↔
      ∃ name effect, w.effects.get? name = some effect ∧
        ∃ thing ∈ effect.things, thing.id = some id := by
    simp only [List.mem_flatMap, List.mem_filterMap, Dictionary.mem_values]
    exact ⟨fun ⟨effect, ⟨name, found⟩, thing⟩ => ⟨name, effect, found, thing⟩,
      fun ⟨name, effect, found, thing⟩ => ⟨effect, ⟨name, found⟩, thing⟩⟩
  have items : id ∈ IdSet.ofList w.items.keys ↔ w.items.contains id := by
    rw [IdSet.ofList, IdSet.mem_insertAll, Dictionary.mem_keys]
    exact or_iff_left (IdSet.not_mem_empty id)
  rw [knownIds, IdSet.mem_insertAll, things, items, Knows, or_comm]

/-! ## What each check finds -/

theorem unless_eq_nil_iff {p : Prop} [Decidable p] {flaw : Flaw} :
    (if p then [] else [flaw]) = [] ↔ p := by
  split
  · next holds => exact iff_of_true rfl holds
  · next fails => exact iff_of_false (List.cons_ne_nil _ _) fails

theorem handlerFlaws_eq_nil_iff {thing : Thing} {verb : String} {handler : Handler} :
    handlerFlaws known place thing verb handler = [] ↔
      (∀ target, handler = .synonym target → (thing.handler? target).isSome) ∧
        ∀ reactions, handler = .keyed reactions →
          ∀ id, reactions.byId.contains id → id ∈ known := by
  cases handler with
  | literal text => simp [handlerFlaws]
  | dynamic cue => simp [handlerFlaws]
  | synonym target =>
    rw [handlerFlaws, unless_eq_nil_iff]
    simp [Dictionary.contains, Thing.handler?]
  | keyed reactions =>
    simp only [handlerFlaws, List.map_eq_nil_iff, List.filter_eq_nil_iff, Dictionary.mem_keys]
    simp [IdSet.mem_def]

theorem thingFlaws_eq_nil_iff {thing : Thing} :
    thingFlaws known place thing = [] ↔ thing.IsSound (· ∈ known) := by
  rw [thingFlaws, List.append_eq_nil_iff, List.flatMap_eq_nil_iff]
  have called : (if thing.keys.all (· == "") then
      [Flaw.invalid (place ++ " has no words to be called by")] else []) = [] ↔
        ∃ key ∈ thing.keys, key ≠ "" := by
    simp
  rw [called]
  constructor
  · rintro ⟨called, entries⟩
    refine ⟨called, ?_, ?_⟩
    · intro verb target entry
      exact (handlerFlaws_eq_nil_iff.1 (entries _ (Dictionary.mem_toList.2 entry))).1 target rfl
    · intro verb reactions id entry
      exact (handlerFlaws_eq_nil_iff.1 (entries _ (Dictionary.mem_toList.2 entry))).2 _ rfl id
  · rintro ⟨called, redirects, reactions⟩
    refine ⟨called, ?_⟩
    rintro ⟨verb, handler⟩ mem
    have entry : thing.handler? verb = some handler := Dictionary.mem_toList.1 mem
    refine handlerFlaws_eq_nil_iff.2 ⟨?_, ?_⟩
    · rintro target rfl
      exact redirects entry
    · rintro keyed rfl id
      exact reactions entry

theorem exitFlaws_eq_nil_iff {room : Room} {exits : Exits} :
    w.exitFlaws room exits = [] ↔
      (∀ direction target, exits.get? direction = some target → w.rooms.contains target) ∧
        ∀ direction, room.locks.contains direction → exits.contains direction := by
  rw [exitFlaws, List.append_eq_nil_iff, List.map_eq_nil_iff, List.map_eq_nil_iff,
    List.filter_eq_nil_iff, List.filter_eq_nil_iff]
  simp [Dictionary.mem_toList, Dictionary.mem_keys]

theorem roomThingFlaws_eq_nil_iff {room : Room} {thing : Thing} :
    roomThingFlaws known room thing = [] ↔
      (∀ exits, room.exits = .fixed exits →
        ∀ direction ∈ thing.exit, exits.contains direction) ∧ thing.IsSound (· ∈ known) := by
  rw [roomThingFlaws, List.append_eq_nil_iff, thingFlaws_eq_nil_iff, fixedExits]
  cases room.exits with
  | derived exits => simp
  | fixed exits =>
    cases thing.exit with
    | none => simp
    | some direction =>
      dsimp only
      rw [unless_eq_nil_iff]
      simp

theorem phraseFlaws_eq_nil_iff {room : Room} :
    phraseFlaws room = [] ↔ ∀ phrase ∈ room.phrases, phrase.verb ≠ .fallback := by
  rw [phraseFlaws, List.map_eq_nil_iff, List.filter_eq_nil_iff]
  simp

theorem roomFlaws_eq_nil_iff {room : Room} (same : ∀ id, id ∈ known ↔ w.Knows id) :
    w.roomFlaws known room = [] ↔ room.IsSound w := by
  have known_eq : (· ∈ known) = w.Knows := funext fun id => propext (same id)
  rw [roomFlaws, List.append_eq_nil_iff, List.append_eq_nil_iff, List.flatMap_eq_nil_iff,
    phraseFlaws_eq_nil_iff]
  simp only [roomThingFlaws_eq_nil_iff, known_eq]
  have passages : ((fixedExits room).map (w.exitFlaws room)).getD [] = [] ↔
      ∀ exits, room.exits = .fixed exits → w.exitFlaws room exits = [] := by
    unfold fixedExits
    cases room.exits <;> simp
  rw [passages]
  simp only [exitFlaws_eq_nil_iff]
  constructor
  · rintro ⟨⟨exits, things⟩, phrases⟩
    exact
      { targets := fun fixed => (exits _ fixed).1 _ _
        locks := fun fixed => (exits _ fixed).2 _
        leads := fun fixed thing mem => (things thing mem).1 _ fixed
        things := fun thing mem => (things thing mem).2
        phrases }
  · intro sound
    exact ⟨⟨fun _ fixed => ⟨fun _ _ => sound.targets fixed, fun _ => sound.locks fixed⟩,
      fun thing mem => ⟨fun _ fixed => sound.leads fixed thing mem, sound.things thing mem⟩⟩,
      sound.phrases⟩

end World

/-- The check of a world finds nothing wrong just with the sound ones. -/
theorem flaws_eq_nil_iff (w : World) : w.flaws = [] ↔ w.IsSound := by
  have known_eq : (· ∈ w.knownIds) = w.Knows := funext fun _ => propext World.mem_knownIds
  rw [World.flaws]
  simp only [List.append_eq_nil_iff, List.flatMap_eq_nil_iff, World.unless_eq_nil_iff,
    World.repeatedThings_eq_nil_iff, World.roomFlaws_eq_nil_iff fun _ => World.mem_knownIds,
    World.thingFlaws_eq_nil_iff, known_eq, Dictionary.mem_values]
  constructor
  · rintro ⟨⟨⟨⟨start, distinct⟩, rooms⟩, items⟩, effects⟩
    exact
      { start, distinct
        rooms := fun found => rooms _ ⟨_, found⟩
        items := fun found => items _ ⟨_, found⟩
        effects := fun found => effects _ ⟨_, found⟩ }
  · intro sound
    exact ⟨⟨⟨⟨sound.start, sound.distinct⟩, fun _ ⟨_, found⟩ => sound.rooms found⟩,
      fun _ ⟨_, found⟩ => sound.items found⟩, fun _ ⟨_, found⟩ => sound.effects found⟩

end TextAdventure
