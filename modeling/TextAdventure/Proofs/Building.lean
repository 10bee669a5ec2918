import TextAdventure.World

/-!
# Worlds built part by part

A world is built by adding rooms, items and effects one after another (`World.addAll`). Under an id
there is then the last item of this id that was added by itself or, without one, the first thing of
this id in a room (`get?_items_addAll`), and the room with an id is the last one added
(`get?_rooms_addAll`).
-/

namespace TextAdventure

/-- What can be added to a world. -/
inductive Part where
  | room (room : Room)
  | item (thing : Thing)
  | effect (effect : Effect)

namespace Part

/-- The part, if it is a room with an id. -/
def room? (id : String) : Part → Option Room
  | room r => if r.id = id then some r else none
  | item _ | effect _ => none

/-- The part, if it is an effect with an id. -/
def effect? (id : String) : Part → Option Effect
  | effect e => if e.id = id then some e else none
  | room _ | item _ => none

/-- The part, if it is an item with an id. -/
def item? (id : String) : Part → Option Thing
  | item thing => if thing.id = some id then some thing else none
  | room _ | effect _ => none

/-- The first thing with an id in the part, if it is a room. -/
def thingIn? (id : String) : Part → Option Thing
  | room r => r.things.find? fun thing => thing.id = some id
  | item _ | effect _ => none

variable {id : String} {part : Part} {thing : Thing}

theorem room?_eq_some_iff {room : Room} :
    part.room? id = some room ↔ part = .room room ∧ room.id = id := by
  cases part with
  | room other =>
    rw [room?, Option.ite_none_right_eq_some, Part.room.injEq, Option.some.injEq, and_comm]
    exact and_congr_right fun same => by rw [same]
  | item _ => exact iff_of_false nofun nofun
  | effect _ => exact iff_of_false nofun nofun

theorem effect?_eq_some_iff {effect : Effect} :
    part.effect? id = some effect ↔ part = .effect effect ∧ effect.id = id := by
  cases part with
  | effect other =>
    rw [effect?, Option.ite_none_right_eq_some, Part.effect.injEq, Option.some.injEq, and_comm]
    exact and_congr_right fun same => by rw [same]
  | room _ => exact iff_of_false nofun nofun
  | item _ => exact iff_of_false nofun nofun

theorem item?_eq_some_iff :
    part.item? id = some thing ↔ part = .item thing ∧ thing.id = some id := by
  cases part with
  | item other =>
    rw [item?, Option.ite_none_right_eq_some, Part.item.injEq, Option.some.injEq, and_comm]
    exact and_congr_right fun same => by rw [same]
  | room _ => exact iff_of_false nofun nofun
  | effect _ => exact iff_of_false nofun nofun

theorem thingIn?_eq_some_iff :
    part.thingIn? id = some thing ↔ ∃ room, part = .room room ∧ thing.id = some id ∧
      ∃ early late, room.things = early ++ thing :: late ∧ ∀ t ∈ early, t.id ≠ some id := by
  cases part with
  | room room =>
    rw [thingIn?, List.find?_eq_some_iff_append]
    simp
  | item _ => exact iff_of_false nofun nofun
  | effect _ => exact iff_of_false nofun nofun

theorem thingIn?_eq_none_iff :
    part.thingIn? id = none ↔ ∀ room, part = .room room → ∀ t ∈ room.things, t.id ≠ some id := by
  cases part with
  | room room => simp [thingIn?]
  | item _ => exact iff_of_true rfl nofun
  | effect _ => exact iff_of_true rfl nofun

end Part

namespace World

def add (w : World) : Part → World
  | .room room => w.addRoom room
  | .item thing => w.addItem thing
  | .effect effect => w.addEffect effect

def addAll (w : World) (parts : List Part) : World :=
  parts.foldl add w

/-- There is nothing in the world. -/
structure IsBare (w : World) : Prop where
  rooms : w.rooms = ∅
  items : w.items = ∅
  effects : w.effects = ∅

/-- The thing of an id among the items of a world that is built of some parts. -/
def itemOf (parts : List Part) (id : String) : Option Thing :=
  (parts.reverse.findSome? (·.item? id)).or (parts.findSome? (·.thingIn? id))

variable {id : String}

theorem get?_addRoomThing (items : Dictionary Thing) (thing : Thing) (id : String) :
    (addRoomThing items thing).get? id =
      (items.get? id).or (if thing.id = some id then some thing else none) := by
  unfold addRoomThing
  rcases thing.id with _ | own
  · simp
  · dsimp only
    rw [Dictionary.get?_insertNew]
    by_cases same : id = own
    · subst same
      cases items.get? id <;> simp
    · simp [same, Ne.symm same]

theorem get?_foldl_addRoomThing (id : String) :
    ∀ (things : List Thing) (items : Dictionary Thing),
      (things.foldl addRoomThing items).get? id =
        (items.get? id).or (things.find? fun thing => thing.id = some id)
  | [], items => by simp
  | thing :: things, items => by
    rw [List.foldl_cons, get?_foldl_addRoomThing id things, get?_addRoomThing, Option.or_assoc,
      List.find?_cons]
    by_cases own : thing.id = some id
    · simp [own]
    · simp [own]

theorem get?_items_add (w : World) (part : Part) (id : String) :
    (w.add part).items.get? id =
      (part.item? id).or ((w.items.get? id).or (part.thingIn? id)) := by
  cases part with
  | room room => exact get?_foldl_addRoomThing id room.things w.items
  | effect effect => exact (Option.or_none).symm
  | item thing =>
    rw [add, addItem, Part.item?, Part.thingIn?, Option.or_none]
    rcases thing.id with _ | own
    · rfl
    · dsimp only
      rw [Dictionary.get?_insert]
      by_cases same : id = own
      · simp [same]
      · simp [same, Ne.symm same]

theorem get?_items_addAll : ∀ (parts : List Part) (w : World) (id : String),
    (w.addAll parts).items.get? id =
      (parts.reverse.findSome? (·.item? id)).or
        ((w.items.get? id).or (parts.findSome? (·.thingIn? id)))
  | [], w, id => by simp [addAll]
  | part :: parts, w, id => by
    have rest := get?_items_addAll parts (w.add part) id
    rw [get?_items_add] at rest
    rw [addAll, List.foldl_cons]
    refine rest.trans ?_
    -- an item of the first part is in front of what was there, a thing of its room behind
    have front : (part :: parts).findSome? (·.thingIn? id)
        = (part.thingIn? id).or (parts.findSome? (·.thingIn? id)) := by
      rw [← List.singleton_append, List.findSome?_append, List.findSome?_singleton]
    rw [List.reverse_cons, List.findSome?_append, List.findSome?_singleton, front]
    simp only [Option.or_assoc]

theorem get?_rooms_add (w : World) (part : Part) (id : String) :
    (w.add part).rooms.get? id = (part.room? id).or (w.rooms.get? id) := by
  cases part with
  | effect effect => rfl
  | item thing =>
    rw [add, addItem, Part.room?, Option.none_or]
    split <;> rfl
  | room room =>
    rw [add, addRoom, Part.room?, Catalog.get?_file]
    by_cases same : id = room.id
    · simp [same]
    · simp [same, Ne.symm same]

theorem get?_effects_add (w : World) (part : Part) (id : String) :
    (w.add part).effects.get? id = (part.effect? id).or (w.effects.get? id) := by
  cases part with
  | room room => rfl
  | item thing =>
    rw [add, addItem, Part.effect?, Option.none_or]
    split <;> rfl
  | effect effect =>
    rw [add, addEffect, Part.effect?, Catalog.get?_file]
    by_cases same : id = effect.id
    · simp [same]
    · simp [same, Ne.symm same]

/-- Where each part that gives something hides what was there, the last one counts. -/
theorem newest_addAll {β : Type} (view : World → Option β) {given : Part → Option β}
    (step : ∀ w part, view (w.add part) = (given part).or (view w)) :
    ∀ (parts : List Part) (w : World),
      view (w.addAll parts) = (parts.reverse.findSome? given).or (view w)
  | [], w => by simp [addAll]
  | part :: parts, w => by
    have rest := newest_addAll view step parts (w.add part)
    rw [step] at rest
    rw [addAll, List.foldl_cons]
    refine rest.trans ?_
    rw [List.reverse_cons, List.findSome?_append, List.findSome?_singleton, Option.or_assoc]

theorem get?_rooms_addAll (parts : List Part) (w : World) (id : String) :
    (w.addAll parts).rooms.get? id =
      (parts.reverse.findSome? (·.room? id)).or (w.rooms.get? id) :=
  newest_addAll (·.rooms.get? id) (fun w part => get?_rooms_add w part id) parts w

theorem get?_effects_addAll (parts : List Part) (w : World) (id : String) :
    (w.addAll parts).effects.get? id =
      (parts.reverse.findSome? (·.effect? id)).or (w.effects.get? id) :=
  newest_addAll (·.effects.get? id) (fun w part => get?_effects_add w part id) parts w

/-! ## What is under an id -/

theorem findSome?_item?_eq_none_iff {parts : List Part} :
    parts.reverse.findSome? (·.item? id) = none ↔
      ∀ other, .item other ∈ parts → other.id ≠ some id := by
  rw [List.findSome?_eq_none_iff]
  constructor
  · intro missed other mem named
    have own := Part.item?_eq_some_iff.2 ⟨rfl, named⟩
    rw [missed _ (List.mem_reverse.2 mem)] at own
    cases own
  · intro missed part mem
    refine Option.eq_none_iff_forall_ne_some.2 fun other own => ?_
    obtain ⟨rfl, named⟩ := Part.item?_eq_some_iff.1 own
    exact missed other (List.mem_reverse.1 mem) named

/-- What is under an id is an item of this id that was added by itself, or a thing of this id in a
room that was added while no such item was. -/
theorem itemOf_cases {parts : List Part} {thing : Thing} (found : itemOf parts id = some thing) :
    thing.id = some id ∧
      (.item thing ∈ parts ∨
        (∀ other, .item other ∈ parts → other.id ≠ some id) ∧
          ∃ room, .room room ∈ parts ∧ thing ∈ room.things) := by
  rw [itemOf, Option.or_eq_some_iff] at found
  rcases found with found | ⟨none, found⟩
  · obtain ⟨part, mem, own⟩ := List.exists_of_findSome?_eq_some found
    obtain ⟨rfl, named⟩ := Part.item?_eq_some_iff.1 own
    exact ⟨named, .inl (List.mem_reverse.1 mem)⟩
  · obtain ⟨part, mem, inside⟩ := List.exists_of_findSome?_eq_some found
    obtain ⟨room, rfl, named, early, late, things, -⟩ := Part.thingIn?_eq_some_iff.1 inside
    have inRoom : thing ∈ room.things := things ▸ List.mem_append_right _ List.mem_cons_self
    exact ⟨named, .inr ⟨findSome?_item?_eq_none_iff.1 none, room, mem, inRoom⟩⟩

theorem isSome_itemOf {parts : List Part} {room : Room} {thing : Thing}
    (added : .room room ∈ parts) (mem : thing ∈ room.things) (named : thing.id = some id) :
    (itemOf parts id).isSome := by
  have inRoom : ((Part.room room).thingIn? id).isSome := by
    rw [Part.thingIn?, List.find?_isSome]
    exact ⟨thing, mem, by simpa using named⟩
  rw [itemOf, Option.isSome_or, Bool.or_eq_true]
  exact .inr (List.findSome?_isSome_iff.2 ⟨_, added, inRoom⟩)

/-! ## From nothing -/

section FromNothing

variable {site : World} (bare : site.IsBare) {parts : List Part} {id : String}

include bare

theorem get?_items_of_bare : (site.addAll parts).items.get? id = itemOf parts id := by
  rw [get?_items_addAll, bare.items, Dictionary.get?_empty, Option.none_or, itemOf]

/-- Every room of the world is one of the parts. -/
theorem mem_of_get?_rooms {room : Room}
    (found : (site.addAll parts).rooms.get? id = some room) : .room room ∈ parts := by
  rw [get?_rooms_addAll, bare.rooms, Catalog.get?_empty, Option.or_none] at found
  obtain ⟨part, mem, same⟩ := List.exists_of_findSome?_eq_some found
  obtain ⟨rfl, -⟩ := Part.room?_eq_some_iff.1 same
  exact List.mem_reverse.1 mem

end FromNothing

end World

end TextAdventure
