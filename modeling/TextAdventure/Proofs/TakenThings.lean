import Mathlib.Data.List.Pairwise
import TextAdventure.Proofs.Building
import TextAdventure.Proofs.Content
import TextAdventure.Proofs.SoundWorlds

/-!
# Addressing what was taken

A thing that was taken is looked up among the items, by its id. There it is itself, unless an item
of its id was added besides, or an earlier room had a thing of its id and was replaced: the check of
a world compares the things of its rooms only with one another (`eq_of_flaws_eq_nil`). Then it still
answers to a word just if what stands under its id does (`taken_addressable_iff`,
`taken_thing_lost`).
-/

namespace TextAdventure

/-- Whoever carries the thing of an id can address one of this id by a word. -/
def World.StaysAddressable (w : World) (id word : String) : Prop :=
  ∀ session : Session, id ∈ session.inventory →
    ∃ thing ∈ w.candidates session word, thing.id = some id

/-- Someone nowhere who has taken the thing of an id, and nothing else. -/
def taker (id : String) : Session where
  id := ""
  worldId := ""
  room := ""
  inventory := .singleton id
  gone := .singleton id

/-- No item of the id was added by itself, and no room that had a thing of it was replaced. -/
structure World.Undisputed (w : World) (parts : List Part) (id : String) : Prop where
  noItem : ∀ item, .item item ∈ parts → item.id ≠ some id
  kept : ∀ room, .room room ∈ parts → (∃ thing ∈ room.things, thing.id = some id) →
    w.rooms.get? room.id = some room

namespace World

variable {w : World} {id word : String}

theorem addressable_taker {thing : Thing} (mem : thing ∈ w.addressable (taker id))
    (named : thing.id = some id) : w.items.get? id = some thing := by
  rcases mem_addressable.1 mem with effect | carried | present
  · cases effect
  · obtain ⟨own, taken, found⟩ := mem_carriedThings.1 carried
    obtain rfl := IdSet.mem_singleton.1 taken
    exact found
  · obtain ⟨-, -, left⟩ := mem_presentThings.1 present
    have gone : (taker id).isGone id := IdSet.mem_singleton.2 rfl
    simp [named, gone] at left

theorem staysAddressable_iff (named : ∀ item, w.items.get? id = some item → item.id = some id) :
    w.StaysAddressable id word ↔
      Text.normal word ≠ "" ∧
        ∃ item, w.items.get? id = some item ∧ item.answersTo (Text.normal word) := by
  constructor
  · intro stays
    obtain ⟨thing, mem, own⟩ := stays (taker id) (IdSet.mem_singleton.2 rfl)
    obtain ⟨spoken, mem, answers⟩ := mem_candidates.1 mem
    exact ⟨spoken, thing, addressable_taker mem own, answers⟩
  · rintro ⟨spoken, item, found, answers⟩ session carried
    refine ⟨item, mem_candidates.2 ⟨spoken, ?_, answers⟩, named item found⟩
    exact mem_addressable.2 (.inr (.inl (mem_carriedThings.2 ⟨id, carried, found⟩)))

theorem not_staysAddressable (lost : w.candidates (taker id) word = []) :
    ¬ w.StaysAddressable id word := by
  intro stays
  obtain ⟨thing, mem, -⟩ := stays (taker id) (IdSet.mem_singleton.2 rfl)
  rw [lost] at mem
  cases mem

/-- In a world without flaws two things of rooms have different ids. -/
theorem eq_of_flaws_eq_nil (accepted : w.flaws = []) {name name' : String} {room room' : Room}
    {thing thing' : Thing} (found : w.rooms.get? name = some room)
    (found' : w.rooms.get? name' = some room') (mem : thing ∈ room.things)
    (mem' : thing' ∈ room'.things) (named : thing.id = some id) (named' : thing'.id = some id) :
    thing = thing' := by
  simp only [flaws, List.append_eq_nil_iff] at accepted
  have distinct := repeatedThings_eq_nil_iff.1 accepted.1.1.1.2
  rw [← List.filterMap_flatMap, List.Nodup, List.pairwise_filterMap] at distinct
  have inRooms : ∀ {name room thing}, w.rooms.get? name = some room → thing ∈ room.things →
      thing ∈ w.rooms.values.flatMap (·.things) := fun found mem =>
    List.mem_flatMap.2 ⟨_, Dictionary.mem_values.2 ⟨_, found⟩, mem⟩
  have symmetric : Std.Symm fun a b : Thing =>
      ∀ i, a.id = some i → ∀ j, b.id = some j → i ≠ j :=
    ⟨fun _ _ apart i hi j hj same => apart j hj i hi same.symm⟩
  by_contra different
  exact distinct.forall (inRooms found mem) (inRooms found' mem') different id named id named' rfl

end World

/-- In a world without flaws a thing of a room can be addressed by one of its words by whoever
carries it, just if what stands under its id answers to the word: the last item of the id that was
added by itself or, without one, the first thing of the id in a room. That is the thing itself, if
no such item was added and no room with such a thing was replaced; it answers to its words in normal
form. -/
theorem taken_addressable_iff {site : World} (bare : site.IsBare) {parts : List Part}
    (accepted : (site.addAll parts).flaws = []) {room : Room} {thing : Thing} {id key : String}
    (stands : (site.addAll parts).rooms.get? room.id = some room) (mem : thing ∈ room.things)
    (named : thing.id = some id) (word : key ∈ thing.keys) :
    ((site.addAll parts).StaysAddressable id key ↔
        Text.normal key ≠ "" ∧
          ∃ item, World.itemOf parts id = some item ∧ item.answersTo (Text.normal key)) ∧
      ((site.addAll parts).Undisputed parts id → Text.normal key = key → key ≠ "" →
        (site.addAll parts).StaysAddressable id key) := by
  have under : (site.addAll parts).items.get? id = World.itemOf parts id :=
    World.get?_items_of_bare bare
  have stays : (site.addAll parts).StaysAddressable id key ↔
      Text.normal key ≠ "" ∧
        ∃ item, World.itemOf parts id = some item ∧ item.answersTo (Text.normal key) := by
    rw [World.staysAddressable_iff, under]
    intro item found
    rw [under] at found
    exact (World.itemOf_cases found).1
  refine ⟨stays, fun undisputed normal spoken => stays.2 ?_⟩
  rw [normal]
  have added := World.mem_of_get?_rooms bare stands
  obtain ⟨item, found⟩ := Option.isSome_iff_exists.1 (World.isSome_itemOf added mem named)
  refine ⟨spoken, item, found, ?_⟩
  -- what stands under the id comes from a room, and this room is still there
  obtain ⟨own, alone | ⟨-, room', added', mem'⟩⟩ := World.itemOf_cases found
  · exact absurd own (undisputed.noItem item alone)
  · have stands' := undisputed.kept room' added' ⟨item, mem', own⟩
    obtain rfl := World.eq_of_flaws_eq_nil accepted stands stands' mem mem' named own
    simp [Thing.answersTo, word]

def sword : Thing := { Thing.called ["sword", "the Weapon"] with id := "sword" }

def armoury (things : List Thing) : Room := { id := "armoury", name := "armoury", things }

def castle : World := { id := "cottage", start := "armoury" }

def arms : List Part :=
  [.room (armoury [sword]), .item { Thing.called ["purse"] with id := "purse" }]

theorem taken_addressable_iff_sword :
    (castle.addAll arms).flaws = [] ∧ (castle.addAll arms).Undisputed arms "sword" ∧
      (castle.addAll arms).StaysAddressable "sword" "weapon" := by
  have accepted : (castle.addAll arms).flaws = [] := by decide +kernel
  have stands : (castle.addAll arms).rooms.get? (armoury [sword]).id = some (armoury [sword]) := rfl
  have undisputed : (castle.addAll arms).Undisputed arms "sword" := by
    constructor
    · intro item mem
      obtain rfl : item = { Thing.called ["purse"] with id := "purse" } := by
        simpa [arms] using mem
      decide
    · intro room mem _
      obtain rfl : room = armoury [sword] := by simpa [arms] using mem
      exact stands
  refine ⟨accepted, undisputed, ?_⟩
  have word : "weapon" ∈ sword.keys := by decide +kernel
  have present : sword ∈ (armoury [sword]).things := List.mem_singleton_self sword
  exact (taken_addressable_iff ⟨rfl, rfl, rfl⟩ accepted stands present rfl word).2 undisputed rfl
    (by decide)

/-- What is left of a broken sword. -/
def hilt : Thing := { Thing.called ["hilt"] with id := "sword" }

/-- In worlds without flaws a sword that was taken is no longer the weapon that it was, since a
broken one was added by itself, or since the armoury was replaced that had the broken one in it. -/
theorem taken_thing_lost :
    "weapon" ∈ sword.keys ∧
      ∀ w ∈ [castle.addAll [.room (armoury [sword]), .item hilt],
          castle.addAll [.room (armoury [hilt]), .room (armoury [sword])]],
        w.flaws = [] ∧ w.rooms.get? "armoury" = some (armoury [sword]) ∧
          w.candidates (taker "sword") "weapon" = [] ∧ ¬ w.StaysAddressable "sword" "weapon" := by
  refine ⟨by decide +kernel, List.forall_mem_cons.2 ⟨?_, List.forall_mem_singleton.2 ?_⟩⟩
  · have lost : (castle.addAll [.room (armoury [sword]), .item hilt]).candidates (taker "sword")
        "weapon" = [] := rfl
    exact ⟨rfl, rfl, lost, World.not_staysAddressable lost⟩
  · have lost : (castle.addAll [.room (armoury [hilt]), .room (armoury [sword])]).candidates
        (taker "sword") "weapon" = [] := rfl
    exact ⟨rfl, rfl, lost, World.not_staysAddressable lost⟩

end TextAdventure
