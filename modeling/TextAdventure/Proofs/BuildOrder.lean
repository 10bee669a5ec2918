import TextAdventure.Proofs.Building

/-!
# The order of building

In a world that is built of parts, in whatever order, a room, an item or an effect is found by its
own id. It is the last one of the id that was added; only where no item of the id was added by
itself, the first thing of the id in the rooms takes its place (`found_iff_added`). So the order of
two parts that stand side by side makes no difference unless they are of one kind and share an id
(`Part.Clashes`): of what counts for an id, only one of them gives something (`World.add_comm`).
-/

namespace TextAdventure

/-- The last of the parts of a kind that are named so. -/
def LastAdded {α : Type} (kind : α → Part) (named : α → Prop) (parts : List Part) (x : α) : Prop :=
  named x ∧ ∃ before after, parts = before ++ kind x :: after ∧
    ∀ other, kind other ∈ after → ¬ named other

/-- The first thing of an id in the first room that was added with one. -/
def FirstInRooms (id : String) (parts : List Part) (thing : Thing) : Prop :=
  thing.id = some id ∧ ∃ before room after, parts = before ++ .room room :: after ∧
    (∀ other, .room other ∈ before → ∀ t ∈ other.things, t.id ≠ some id) ∧
      ∃ early late, room.things = early ++ thing :: late ∧ ∀ t ∈ early, t.id ≠ some id

/-- Two parts are of one kind and share an id: rooms their own or that of a thing in each. -/
def Part.Clashes : Part → Part → Prop
  | .room r, .room r' =>
    r.id = r'.id ∨ ∃ thing ∈ r.things, ∃ thing' ∈ r'.things, ∃ id,
      thing.id = some id ∧ thing'.id = some id
  | .item thing, .item thing' => ∃ id, thing.id = some id ∧ thing'.id = some id
  | .effect e, .effect e' => e.id = e'.id
  | _, _ => False

section Searches

variable {parts : List Part} {id : String} {thing : Thing}

theorem findSome?_reverse_eq_some_iff {α : Type} {kind : α → Part} {named : α → Prop}
    {given : Part → Option α} (gives : ∀ {part x}, given part = some x ↔ part = kind x ∧ named x)
    {x : α} : parts.reverse.findSome? given = some x ↔ LastAdded kind named parts x := by
  rw [List.findSome?_eq_some_iff]
  constructor
  · rintro ⟨after, part, before, split, own, later⟩
    obtain ⟨rfl, called⟩ := gives.1 own
    refine ⟨called, before.reverse, after.reverse, ?_, fun other mem called' => ?_⟩
    · rw [List.reverse_eq_iff.1 split, List.reverse_append, List.reverse_cons, List.append_assoc,
        List.singleton_append]
    · have missed := later _ (List.mem_reverse.1 mem)
      rw [gives.2 ⟨rfl, called'⟩] at missed
      cases missed
  · rintro ⟨called, before, after, rfl, later⟩
    refine ⟨after.reverse, kind x, before.reverse, ?_, gives.2 ⟨rfl, called⟩, fun part mem => ?_⟩
    · rw [List.reverse_append, List.reverse_cons, List.append_assoc, List.singleton_append]
    · refine Option.eq_none_iff_forall_ne_some.2 fun y own => ?_
      obtain ⟨rfl, called'⟩ := gives.1 own
      exact later y (List.mem_reverse.1 mem) called'

theorem findSome?_thingIn?_eq_some_iff :
    parts.findSome? (·.thingIn? id) = some thing ↔ FirstInRooms id parts thing := by
  rw [List.findSome?_eq_some_iff]
  constructor
  · rintro ⟨before, part, after, rfl, inside, earlier⟩
    obtain ⟨room, rfl, named, place⟩ := Part.thingIn?_eq_some_iff.1 inside
    refine ⟨named, before, room, after, rfl, fun other mem => ?_, place⟩
    exact Part.thingIn?_eq_none_iff.1 (earlier _ mem) other rfl
  · rintro ⟨named, before, room, after, rfl, earlier, place⟩
    have inside := Part.thingIn?_eq_some_iff.2 ⟨room, rfl, named, place⟩
    refine ⟨before, .room room, after, rfl, inside, fun part mem => ?_⟩
    exact Part.thingIn?_eq_none_iff.2 fun other is => earlier other (is ▸ mem)

end Searches

/-! ## Parts that do not clash -/

theorem or_comm_of_unshared {β : Type} {a b : Option β}
    (unshared : ∀ x y, a = some x → b = some y → False) : a.or b = b.or a := by
  cases a with
  | none => rw [Option.none_or, Option.or_none]
  | some x =>
    cases b with
    | none => rw [Option.none_or, Option.or_none]
    | some y => exact (unshared x y rfl rfl).elim

namespace Part

variable {first second : Part} (apart : ¬ first.Clashes second) (id : String)

include apart

theorem own_or_comm {α : Type} {kind : α → Part} {named : α → Prop} {given : Part → Option α}
    (gives : ∀ {part x}, given part = some x ↔ part = kind x ∧ named x)
    (clash : ∀ {x y}, named x → named y → (kind x).Clashes (kind y)) :
    (given first).or (given second) = (given second).or (given first) := by
  refine or_comm_of_unshared fun x y own own' => ?_
  obtain ⟨rfl, called⟩ := gives.1 own
  obtain ⟨rfl, called'⟩ := gives.1 own'
  exact apart (clash called called')

theorem room?_or_comm :
    (first.room? id).or (second.room? id) = (second.room? id).or (first.room? id) :=
  own_or_comm apart room?_eq_some_iff fun named named' => .inl (named.trans named'.symm)

theorem effect?_or_comm :
    (first.effect? id).or (second.effect? id) = (second.effect? id).or (first.effect? id) :=
  own_or_comm apart effect?_eq_some_iff fun named named' => named.trans named'.symm

theorem item?_or_comm :
    (first.item? id).or (second.item? id) = (second.item? id).or (first.item? id) :=
  own_or_comm apart item?_eq_some_iff fun named named' => ⟨id, named, named'⟩

theorem thingIn?_or_comm :
    (first.thingIn? id).or (second.thingIn? id) =
      (second.thingIn? id).or (first.thingIn? id) := by
  refine or_comm_of_unshared fun thing thing' inside inside' => ?_
  obtain ⟨room, rfl, named, early, late, things, -⟩ := thingIn?_eq_some_iff.1 inside
  obtain ⟨room', rfl, named', early', late', things', -⟩ := thingIn?_eq_some_iff.1 inside'
  have mem : thing ∈ room.things := things ▸ List.mem_append_right _ List.mem_cons_self
  have mem' : thing' ∈ room'.things := things' ▸ List.mem_append_right _ List.mem_cons_self
  exact apart (.inr ⟨thing, mem, thing', mem', id, named, named'⟩)

end Part

namespace World

/-- A part only changes what can be found in the world. -/
theorem add_eq (w : World) (part : Part) :
    w.add part = { w with
      rooms := (w.add part).rooms
      items := (w.add part).items
      effects := (w.add part).effects } := by
  cases part with
  | room _ => rfl
  | effect _ => rfl
  | item thing =>
    rw [add, addItem]
    split <;> rfl

theorem add_add_eq (w : World) (first second : Part) :
    (w.add first).add second = { w with
      rooms := ((w.add first).add second).rooms
      items := ((w.add first).add second).items
      effects := ((w.add first).add second).effects } := by
  refine (add_eq (w.add first) second).trans ?_
  rw [add_eq w first]

/-- Two parts that do not clash can be added in either order. -/
theorem add_comm (w : World) {first second : Part} (apart : ¬ first.Clashes second) :
    (w.add first).add second = (w.add second).add first := by
  have rooms : ((w.add first).add second).rooms = ((w.add second).add first).rooms := by
    refine Catalog.ext_get? fun id => ?_
    rw [get?_rooms_add, get?_rooms_add, get?_rooms_add, get?_rooms_add, ← Option.or_assoc,
      ← Option.or_assoc, Part.room?_or_comm apart]
  have effects : ((w.add first).add second).effects = ((w.add second).add first).effects := by
    refine Catalog.ext_get? fun id => ?_
    rw [get?_effects_add, get?_effects_add, get?_effects_add, get?_effects_add, ← Option.or_assoc,
      ← Option.or_assoc, Part.effect?_or_comm apart]
  have items : ((w.add first).add second).items = ((w.add second).add first).items := by
    refine Dictionary.ext_get? fun id => ?_
    -- the items are in front of what was there, the things of the rooms behind it
    have stacked : ∀ a b : Part, ((w.add a).add b).items.get? id =
        ((b.item? id).or (a.item? id)).or
          ((w.items.get? id).or ((a.thingIn? id).or (b.thingIn? id))) := fun a b => by
      rw [get?_items_add, get?_items_add, Option.or_assoc, Option.or_assoc, Option.or_assoc]
    rw [stacked, stacked, Part.item?_or_comm apart, Part.thingIn?_or_comm apart]
  rw [add_add_eq w first second, add_add_eq w second first, rooms, items, effects]

theorem addAll_append (w : World) (parts more : List Part) :
    w.addAll (parts ++ more) = (w.addAll parts).addAll more :=
  List.foldl_append

theorem addAll_swap (w : World) (before after : List Part) {first second : Part}
    (apart : ¬ first.Clashes second) :
    w.addAll (before ++ first :: second :: after) =
      w.addAll (before ++ second :: first :: after) := by
  rw [addAll_append, addAll_append]
  exact congrArg (·.addAll after) ((w.addAll before).add_comm apart)

end World

/-- Under an id there is the last room or effect of this id that was added. Among the items it is
the last one that was added by itself or, without one, the first of the things of this id in the
first room with one, so that every thing with an id in a room of the world is an item. Two parts
side by side may change places unless they are of one kind and share an id. -/
theorem found_iff_added {site : World} (bare : site.IsBare) (parts : List Part) :
    (∀ id room, (site.addAll parts).rooms.get? id = some room ↔
        LastAdded .room (·.id = id) parts room) ∧
      (∀ id effect, (site.addAll parts).effects.get? id = some effect ↔
        LastAdded .effect (·.id = id) parts effect) ∧
      (∀ id thing, (site.addAll parts).items.get? id = some thing ↔
        LastAdded .item (·.id = some id) parts thing ∨
          (∀ other, .item other ∈ parts → other.id ≠ some id) ∧ FirstInRooms id parts thing) ∧
      (∀ name room, (site.addAll parts).rooms.get? name = some room →
        ∀ thing ∈ room.things, ∀ id, thing.id = some id →
          ((site.addAll parts).items.get? id).isSome) ∧
      ∀ before first second after, parts = before ++ first :: second :: after →
        ¬ first.Clashes second →
          site.addAll parts = site.addAll (before ++ second :: first :: after) := by
  refine ⟨fun id room => ?_, fun id effect => ?_, fun id thing => ?_, ?_, ?_⟩
  · rw [World.get?_rooms_addAll, bare.rooms, Catalog.get?_empty, Option.or_none]
    exact findSome?_reverse_eq_some_iff Part.room?_eq_some_iff
  · rw [World.get?_effects_addAll, bare.effects, Catalog.get?_empty, Option.or_none]
    exact findSome?_reverse_eq_some_iff Part.effect?_eq_some_iff
  · rw [World.get?_items_of_bare bare, World.itemOf, Option.or_eq_some_iff,
      findSome?_reverse_eq_some_iff Part.item?_eq_some_iff, World.findSome?_item?_eq_none_iff,
      findSome?_thingIn?_eq_some_iff]
  · intro name room found thing mem id named
    rw [World.get?_items_of_bare bare]
    exact World.isSome_itemOf (World.mem_of_get?_rooms bare found) mem named
  · rintro before first second after rfl apart
    exact site.addAll_swap before after apart

def workshop : World := { id := "workshop", start := "bench" }

def hammer : Thing := { Thing.called ["hammer"] with id := "hammer" }

def sledge : Thing := { hammer with name := "sledgehammer" }

/-- A bench with a hammer on it, and a hammer that takes its place. -/
def tools : List Part :=
  [.room { id := "bench", name := "bench", things := [Thing.called ["nail"], hammer] },
    .item sledge]

theorem found_iff_added_workshop :
    workshop.IsBare ∧ (workshop.addAll tools).items.get? "hammer" = some sledge ∧
      workshop.addAll tools = workshop.addAll tools.reverse := by
  have bare : workshop.IsBare := ⟨rfl, rfl, rfl⟩
  obtain ⟨-, -, items, -, swap⟩ := found_iff_added bare tools
  have last : LastAdded .item (·.id = some "hammer") tools sledge :=
    ⟨rfl, [_], [], rfl, fun _ mem => absurd mem List.not_mem_nil⟩
  exact ⟨bare, (items _ _).2 (.inl last), swap [] _ _ [] rfl id⟩

end TextAdventure
