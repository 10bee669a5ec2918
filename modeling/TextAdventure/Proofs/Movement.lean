import TextAdventure.Verbs.Movement

/-!
# Passages

The player gets from one room to another by a passage (`World.Passage`): an exit of the room that
they stand in, as it is at that moment, with no shut lock on it, to a room that exists. Whatever
direction is asked for and however it is read, going says something and nothing else, or it is an
arrival at the end of a passage (`World.go_cases`).
-/

namespace TextAdventure

/-- A direction in which the player can go from the room that they stand in. -/
structure World.Passage (w : World) (session : Session) (origin : Room) (direction : String)
    (destination : Room) : Prop where
  here : w.currentRoom session = some origin
  exit : (origin.exitsFor session).get? direction = some destination.id
  unlocked : origin.blocked direction session = none
  there : w.rooms.get? destination.id = some destination

/-- An exit of the room that the player stands in, to a room that exists. It may be locked. -/
structure World.LeadsTo (w : World) (session : Session) (origin : Room) (direction : String)
    (destination : Room) : Prop where
  here : w.currentRoom session = some origin
  exit : (origin.exitsFor session).get? direction = some destination.id
  there : w.rooms.get? destination.id = some destination

theorem World.Passage.leadsTo {w : World} {session : Session} {origin destination : Room}
    {direction : String} (passage : w.Passage session origin direction destination) :
    w.LeadsTo session origin direction destination :=
  ⟨passage.here, passage.exit, passage.there⟩

/-- Rooms are found by their ids, so no other room of the world has the id of the destination. -/
theorem World.Passage.eq_of_there {w : World} {session : Session} {origin destination room : Room}
    {direction : String} (passage : w.Passage session origin direction destination)
    (there : w.rooms.get? room.id = some room) (same : destination.id = room.id) :
    destination = room := by
  have found := passage.there
  rw [same, there] at found
  exact (Option.some.inj found).symm

theorem World.LeadsTo.listed {w : World} {session : Session} {origin destination : Room}
    {direction : String} (leads : w.LeadsTo session origin direction destination) :
    (origin.exitsFor session).contains direction := by
  rw [Dictionary.contains, leads.exit]
  rfl

/-- A script that only says something, or an arrival at the end of a passage. -/
def World.SaysOrArrives (w : World) (session : Session) (script : Script) : Prop :=
  (∃ message, script = .say message) ∨
    ∃ origin direction destination, w.Passage session origin direction destination ∧
      script = w.arrive session origin destination

namespace World

variable {w : World} {session : Session}

theorem goToward_cases {here : Room} (standing : w.currentRoom session = some here)
    (word : String) : w.SaysOrArrives session (w.goToward session here word) := by
  unfold goToward
  dsimp only
  split
  · exact .inl ⟨_, rfl⟩
  · next direction target hexit =>
    split
    · exact .inl ⟨_, rfl⟩
    · next hopen =>
      split
      · exact .inl ⟨_, rfl⟩
      · next destination hroom =>
        obtain rfl := w.rooms.named hroom
        exact .inr ⟨here, _, destination, ⟨standing, hexit, hopen, hroom⟩, rfl⟩

/-- Through an exit of its very name the player comes to its room, unless a lock keeps them. -/
theorem goToward_of_leadsTo {here destination : Room} {direction : String}
    (leads : w.LeadsTo session here direction destination) :
    w.goToward session here direction =
      match here.blocked direction session with
      | some message => .say message
      | none => w.arrive session here destination := by
  rcases locked : here.blocked direction session with _ | message
  · simp only [goToward, leads.listed, leads.exit, leads.there, locked, ↓reduceIte]
  · simp only [goToward, leads.listed, leads.exit, locked, ↓reduceIte]

theorem go_cases (w : World) (session : Session) (direction : String) :
    w.SaysOrArrives session (w.go session direction) := by
  unfold go
  split
  · exact .inl ⟨_, rfl⟩
  · next here standing =>
    dsimp only
    split
    · split
      · exact goToward_cases standing _
      · exact .inl ⟨_, rfl⟩
    · exact goToward_cases standing _

end World

namespace Verbs

variable {w : World} {session : Session} {sentence : Sentence} {script : Script}

theorem move_of_subject {word : String} (subject : sentence.subject = some word)
    (spoken : Text.normal word ≠ "") : move session w sentence = some (w.go session word) := by
  have said : Text.trim word.toList ≠ [] := by
    intro silent
    rw [Text.normal, silent] at spoken
    exact spoken rfl
  rw [move, subject, Option.filter_some_pos (by simpa using said)]

theorem move_cases (comes : move session w sentence = some script) :
    w.SaysOrArrives session script := by
  unfold move at comes
  split at comes
  · cases comes
    exact w.go_cases session _
  · obtain ⟨room, -, rfl⟩ := Option.map_eq_some_iff.1 comes
    split
    · exact .inl ⟨_, rfl⟩
    · exact w.go_cases session _
    · exact .inl ⟨_, rfl⟩

theorem goTo_cases (room : Room) (place : String) :
    w.SaysOrArrives session (goTo session w room place) := by
  unfold goTo
  dsimp only
  split
  · exact w.go_cases session _
  · split
    · exact w.go_cases session _
    · split
      · exact .inl ⟨_, rfl⟩
      · split
        · exact w.go_cases session _
        · exact .inl ⟨_, rfl⟩

theorem moveTo_cases (comes : moveTo session w sentence = some script) :
    w.SaysOrArrives session script := by
  unfold moveTo at comes
  split at comes
  · cases comes
    exact .inl ⟨_, rfl⟩
  · obtain ⟨room, -, rfl⟩ := Option.map_eq_some_iff.1 comes
    exact goTo_cases room _

end Verbs

end TextAdventure
