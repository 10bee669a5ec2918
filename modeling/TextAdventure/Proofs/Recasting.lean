import Mathlib.Data.List.Forall2
import TextAdventure.Interaction
import TextAdventure.Verbs.Looking

/-!
# Other things in their places

A world may be played with other things in the places of its own (`World.Recast`). If these differ
from those in nothing but their verb tables, a word means the things that stand in the places of
those it meant before (`World.Recast.candidates`), and the player gets about as before
(`World.Recast.go_eq`) and sees as much (`World.Recast.lookAround_eq`).
-/

namespace TextAdventure

variable {α β γ : Type}

theorem filterMap_rel {R : β → γ → Prop} {f : α → Option β} {g : α → Option γ}
    (h : ∀ x, Option.Rel R (f x) (g x)) (xs : List α) :
    List.Forall₂ R (xs.filterMap f) (xs.filterMap g) :=
  List.rel_filterMap (fun x _ same => same ▸ h x) (List.forall₂_refl xs : List.Forall₂ Eq xs xs)

theorem findSome?_eq_of_rel {R : α → β → Prop} {f : α → Option γ} {g : β → Option γ}
    {xs : List α} {ys : List β} (rel : List.Forall₂ R xs ys) (h : ∀ x y, R x y → f x = g y) :
    xs.findSome? f = ys.findSome? g := by
  induction rel with
  | nil => rfl
  | cons first _ ih => rw [List.findSome?_cons, List.findSome?_cons, h _ _ first, ih]

theorem bind_eq_of_rel {R : α → β → Prop} {f : α → Option γ} {g : β → Option γ} {a : Option α}
    {b : Option β} (rel : Option.Rel R a b) (h : ∀ x y, R x y → f x = g y) :
    a.bind f = b.bind g := by
  cases rel with
  | none => rfl
  | some rel => exact h _ _ rel

/-- A room with other things in it. -/
def Room.Recast (R : Thing → Thing → Prop) (room room' : Room) : Prop :=
  ∃ things, List.Forall₂ R room.things things ∧ room' = { room with things }

def Effect.Recast (R : Thing → Thing → Prop) (effect effect' : Effect) : Prop :=
  ∃ things, List.Forall₂ R effect.things things ∧ effect' = { effect with things }

/-- Two worlds that differ in nothing but the things that stand in the same places. -/
structure World.Recast (R : Thing → Thing → Prop) (w w' : World) : Prop where
  otherwise : w' = { w with rooms := w'.rooms, items := w'.items, effects := w'.effects }
  rooms : ∀ id, Option.Rel (Room.Recast R) (w.rooms.get? id) (w'.rooms.get? id)
  items : ∀ id, Option.Rel R (w.items.get? id) (w'.items.get? id)
  effects : ∀ id, Option.Rel (Effect.Recast R) (w.effects.get? id) (w'.effects.get? id)

namespace World.Recast

variable {R : Thing → Thing → Prop} {w w' : World} (recast : w.Recast R w')
include recast

theorem effectThings (session : Session) :
    List.Forall₂ R (w.effectThings session) (w'.effectThings session) := by
  refine List.rel_flatMap (filterMap_rel recast.effects _) ?_
  rintro effect _ ⟨things, rel, rfl⟩
  exact rel

theorem carriedThings (session : Session) :
    List.Forall₂ R (w.carriedThings session) (w'.carriedThings session) :=
  filterMap_rel recast.items _

theorem ambience_eq (session : Session) {room room' : Room} (rel : Room.Recast R room room') :
    w.ambience session room = w'.ambience session room' := by
  obtain ⟨things, -, rfl⟩ := rel
  have ambient (id : String) :
      (w.effects.get? id).bind (·.ambient) = (w'.effects.get? id).bind (·.ambient) := by
    refine bind_eq_of_rel (recast.effects id) ?_
    rintro effect _ ⟨things, -, rfl⟩
    rfl
  simp only [World.ambience, List.filterMap_filterMap, ambient]

theorem arrive_eq (session : Session) {origin origin' destination destination' : Room}
    (rel : Room.Recast R origin origin') (rel' : Room.Recast R destination destination') :
    w.arrive session origin destination = w'.arrive session origin' destination' := by
  unfold World.arrive
  rw [recast.ambience_eq session rel']
  obtain ⟨_, -, rfl⟩ := rel
  obtain ⟨_, -, rfl⟩ := rel'
  rfl

/-! ## Things that differ in their verb tables only -/

variable (alike : ∀ t t', R t t' → t' = { t with verbs := t'.verbs })
include alike

theorem presentThings (session : Session) :
    List.Forall₂ R (w.presentThings session) (w'.presentThings session) := by
  unfold World.presentThings World.currentRoom
  have here := recast.rooms session.room
  generalize w.rooms.get? session.room = room, w'.rooms.get? session.room = room' at here
  rcases here with ⟨things, rel, rfl⟩ | _
  · refine List.rel_filter (fun t t' h => ?_) rel
    rw [alike t t' h]
    rfl
  · exact .nil

theorem candidates (session : Session) (word : String) :
    List.Forall₂ R (w.candidates session word) (w'.candidates session word) := by
  unfold World.candidates
  dsimp only
  split
  · exact .nil
  · refine List.rel_filter (fun t t' h => ?_) (List.rel_append (List.rel_append
      (recast.effectThings session) (recast.carriedThings session))
      (recast.presentThings alike session))
    rw [alike t t' h]
    rfl

theorem lead_eq (session : Session) (word : String) :
    w.lead session word = w'.lead session word := by
  refine findSome?_eq_of_rel (recast.candidates alike session word) fun t t' h => ?_
  rw [alike t t' h]

theorem goToward_eq (session : Session) {here here' : Room} (rel : Room.Recast R here here')
    (word : String) : w.goToward session here word = w'.goToward session here' word := by
  have same : here'.exits = here.exits ∧ here'.locks = here.locks := by
    obtain ⟨_, -, rfl⟩ := rel
    exact ⟨rfl, rfl⟩
  unfold World.goToward Room.exitsFor Room.blocked
  rw [recast.lead_eq alike, same.1, same.2]
  dsimp only
  split
  · rfl
  · next target _ =>
    split
    · rfl
    · have there := recast.rooms target
      generalize w.rooms.get? target = room, w'.rooms.get? target = room' at there
      rcases there with rel' | _
      · exact recast.arrive_eq session rel rel'
      · rfl

theorem go_eq (session : Session) : w.go session = w'.go session := by
  funext direction
  unfold World.go World.currentRoom
  have here := recast.rooms session.room
  generalize w.rooms.get? session.room = room, w'.rooms.get? session.room = room' at here
  rcases here with rel | _
  · simp only [recast.goToward_eq alike session rel]
  · rfl

theorem inventoryListing_eq (session : Session) :
    w.inventoryListing session = w'.inventoryListing session := by
  have names : (w.carriedThings session).map (·.displayName)
      = (w'.carriedThings session).map (·.displayName) := by
    rw [← List.forall₂_eq_eq_eq]
    refine List.rel_map (fun t t' h => ?_) (recast.carriedThings session)
    rw [alike t t' h]
    rfl
  unfold World.carriedThings at names
  unfold World.inventoryListing
  rw [names]

omit alike

theorem knownRoom (session : Session) (id : String) :
    Option.Rel (Room.Recast R) (w.knownRoom session id) (w'.knownRoom session id) := by
  unfold World.knownRoom
  split
  · exact recast.rooms id
  · exact .none

theorem exitsListing_eq (session : Session) : w.exitsListing session = w'.exitsListing session := by
  have describeWay : w.describeWay session = w'.describeWay session := by
    funext way
    unfold World.describeWay
    have there := recast.knownRoom session way.2
    generalize w.knownRoom session way.2 = room, w'.knownRoom session way.2 = room' at there
    rcases there with ⟨things, -, rfl⟩ | _ <;> rfl
  unfold World.exitsListing World.currentRoom
  rw [describeWay]
  have here := recast.rooms session.room
  generalize w.rooms.get? session.room = room, w'.rooms.get? session.room = room' at here
  rcases here with ⟨things, -, rfl⟩ | _ <;> rfl

include alike

theorem lookIn_eq (session : Session) {room room' : Room} (rel : Room.Recast R room room')
    (word : String) : Verbs.lookIn session w room word = Verbs.lookIn session w' room' word := by
  have toward : Verbs.lookToward session w room word = Verbs.lookToward session w' room' word := by
    obtain ⟨things, -, rfl⟩ := rel
    unfold Verbs.lookToward
    refine congrArg (Option.map · _) (funext fun target => ?_)
    have there := recast.knownRoom session target
    generalize w.knownRoom session target = room, w'.knownRoom session target = room' at there
    rcases there with ⟨things, -, rfl⟩ | _ <;> rfl
  unfold Verbs.lookIn
  rw [toward, recast.inventoryListing_eq alike, recast.exitsListing_eq,
    show w'.credits = w.credits by rw [recast.otherwise]]
  obtain ⟨things, -, rfl⟩ := rel
  rfl

theorem lookAround_eq (session : Session) :
    Verbs.lookAround session w = Verbs.lookAround session w' := by
  funext word
  unfold Verbs.lookAround World.currentRoom
  refine bind_eq_of_rel (recast.rooms session.room) fun room room' rel => ?_
  exact recast.lookIn_eq alike session rel (Text.normal word)

end World.Recast

end TextAdventure
