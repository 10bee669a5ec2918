import TextAdventure.Proofs.WayBack

/-!
# The way back on arriving

On an arrival the way back is looked up in the exits as they are before it, and then remembered. So
where the exits of the room depend on the session, the way that is remembered may be gone when the
player finds themselves there, or one may have opened (`return_known_iff`, `return_overlooked`). If
the arrival does not change which exits lead back, the way is right, unless such an exit has no
name: it comes first and counts as none.
-/

namespace TextAdventure

/-- Going in a direction takes the player from one room into another. -/
structure World.Moves (w : World) (session : Session) (direction : String)
    (origin destination : Room) (update : Update) : Prop where
  here : w.currentRoom session = some origin
  there : w.rooms.get? destination.id = some destination
  arrives : ∃ message later,
    w.go session direction = .sequence (.leaf { message, update := some update } :: later)
  room : update.room = some destination.id

/-- A direction leads from a room, as it is in a session, to the room with an id. -/
def Room.Leads (room : Room) (session : Session) (target way : String) : Prop :=
  (room.exitsFor session).get? way = some target

/-- The way back that is remembered leads to the room that was left, or there is none and no named
exit leads there. -/
def Session.KnowsReturn (s : Session) (here : Room) (left : String) : Prop :=
  match s.cameFrom with
  | some way => here.Leads s left way
  | none => ∀ way, way ≠ "" → ¬ here.Leads s left way

namespace World

variable {w : World} {session : Session} {origin destination : Room}

theorem Moves.update_eq {direction : String} {update : Update}
    (moves : w.Moves session direction origin destination update) :
    update = arrivalUpdate session origin destination := by
  obtain ⟨message, later, arrives⟩ := moves.arrives
  rcases w.go_cases session direction with ⟨text, spoken⟩ | ⟨_, _, _, passage, arrived⟩
  · rw [spoken] at arrives
    cases arrives
  · rw [arrived, arrive] at arrives
    cases arrives
    -- the rooms of the passage are those of the move
    obtain rfl := Option.some.inj (passage.here.symm.trans moves.here)
    rw [passage.eq_of_there moves.there (Option.some.inj moves.room)]

/-! ## The first way -/

variable {room : Room} {target way : String}

theorem wayTo_le {first : String} (found : wayTo session room target = some first)
    (leads : room.Leads session target way) : first ≤ way := by
  obtain ⟨⟨direction, goal⟩, finds, rfl⟩ := Option.map_eq_some_iff.1 found
  exact (Dictionary.find?_toList_eq_some_iff.1 finds).2.2 way target leads (beq_self_eq_true target)

theorem wayTo_eq_none_iff :
    wayTo session room target = none ↔ ∀ way, ¬ room.Leads session target way := by
  unfold wayTo
  rw [Option.map_eq_none_iff, List.find?_eq_none]
  constructor
  · intro others way leads
    simpa using others _ (Dictionary.mem_toList.2 leads)
  · rintro others ⟨way, goal⟩ mem
    have leads := Dictionary.mem_toList.1 mem
    intro same
    obtain rfl : goal = target := by simpa using same
    exact others way leads

/-- An exit without a name comes before all others. -/
theorem wayTo_unnamed_iff :
    wayTo session room target = some "" ↔ room.Leads session target "" := by
  constructor
  · exact get?_wayTo
  · intro leads
    rcases found : wayTo session room target with _ | first
    · exact absurd leads (wayTo_eq_none_iff.1 found "")
    · have least : "" ≤ first := String.not_lt.1 (List.not_lt_nil _)
      rw [String.le_antisymm (wayTo_le found leads) least]

theorem cameFrom_arrival (session : Session) (origin destination : Room) :
    (session.apply (arrivalUpdate session origin destination)).cameFrom
      = (wayTo session destination origin.id).filter (· ≠ "") := by
  unfold Session.apply arrivalUpdate
  rcases wayTo session destination origin.id with _ | way
  · rfl
  · by_cases empty : way = ""
    · simp [presentText, Option.filter, empty]
    · simp [presentText, Option.filter, empty]

/-- The named way back that was found before an arrival is one after it, and if none was found then
there is none. -/
structure ReturnKept (session after : Session) (origin destination : Room) : Prop where
  stays : ∀ way, way ≠ "" → wayTo session destination origin.id = some way →
    destination.Leads after origin.id way
  none_opens : (∀ way, way ≠ "" → wayTo session destination origin.id ≠ some way) →
    ∀ way, way ≠ "" → ¬ destination.Leads after origin.id way

theorem knowsReturn_iff {after : Session}
    (came : after.cameFrom = (wayTo session destination origin.id).filter (· ≠ "")) :
    after.KnowsReturn destination origin.id ↔ ReturnKept session after origin destination := by
  unfold Session.KnowsReturn
  rcases found : (wayTo session destination origin.id).filter (· ≠ "") with _ | first
  · have unnamed : ∀ way, way ≠ "" → wayTo session destination origin.id ≠ some way := by
      intro way named back
      simp [back, Option.filter, named] at found
    simp only [came, found]
    constructor
    · exact fun clear => ⟨fun way named back => absurd back (unnamed way named), fun _ => clear⟩
    · exact fun kept => kept.none_opens unnamed
  · obtain ⟨back, named⟩ := Option.filter_eq_some_iff.1 found
    have named : first ≠ "" := by simpa using named
    simp only [came, found]
    constructor
    · intro leads
      refine ⟨fun way _ same => ?_, fun unnamed => absurd back (unnamed first named)⟩
      rw [back] at same
      exact Option.some.inj same ▸ leads
    · exact fun kept => kept.stays first named back

theorem returnKept_iff_of_same {after : Session}
    (same : ∀ way,
      destination.Leads after origin.id way ↔ destination.Leads session origin.id way) :
    ReturnKept session after origin destination ↔
      (destination.Leads session origin.id "" →
        ∀ way, way ≠ "" → ¬ destination.Leads session origin.id way) := by
  constructor
  · intro kept unnamed way named leads
    refine kept.none_opens ?_ way named ((same way).2 leads)
    intro first present found
    rw [wayTo_unnamed_iff.2 unnamed] at found
    exact present (Option.some.inj found).symm
  · intro clear
    refine ⟨fun way _ found => (same way).2 (get?_wayTo found), ?_⟩
    intro unnamed way named leads
    rcases found : wayTo session destination origin.id with _ | first
    · exact wayTo_eq_none_iff.1 found way ((same way).1 leads)
    · by_cases present : first = ""
      · subst present
        exact clear (get?_wayTo found) way named ((same way).1 leads)
      · exact unnamed first present found

end World

/-- After a move the way back is right just if the arrival kept it: the named way that was looked
up still leads back, and none has opened if there was none. Where the same exits lead back before
the arrival and after it, as fixed exits do, only one without a name can hide the others. -/
theorem return_known_iff {w : World} {session : Session} {direction : String}
    {origin destination : Room} {update : Update}
    (moves : w.Moves session direction origin destination update) :
    ((session.apply update).KnowsReturn destination origin.id ↔
        World.ReturnKept session (session.apply update) origin destination)
      ∧ ((∀ way, destination.Leads (session.apply update) origin.id way ↔
          destination.Leads session origin.id way) →
        ((session.apply update).KnowsReturn destination origin.id ↔
          (destination.Leads session origin.id "" →
            ∀ way, way ≠ "" → ¬ destination.Leads session origin.id way))) := by
  obtain rfl := moves.update_eq
  have known := World.knowsReturn_iff (World.cameFrom_arrival session origin destination)
  exact ⟨known, fun same => known.trans (World.returnKept_iff_of_same same)⟩

/-! ## A loft that changes once it has been seen -/

/-- A loft with one list of exits at first, and another one when it has been seen. -/
def loft (first later : List (String × String)) : Room where
  id := "loft"
  name := "loft"
  exits := .derived fun session _ =>
    Dictionary.ofList (if session.hasSeen "loft" then later else first)

def house (first later : List (String × String)) : World :=
  World.addRoom (World.addRoom { id := "cottage", start := "hall" }
      { id := "hall", name := "hall", exits := .fixed (Dictionary.ofList [("up", "loft")]) })
    (loft first later)

/-- What going up to the loft changes. -/
def ascent : Update where
  room := "loft"
  seen := some (.ofList ["hall", "loft"])
  cameFrom := "down"

/-- A window opens, and the way back stays. -/
theorem return_known_iff_window :
    ∃ origin destination,
      (house [("down", "hall")] [("down", "hall"), ("out", "roof")]).Moves
          (.start "player" "cottage" "hall") "up" origin destination ascent
        ∧ ((Session.start "player" "cottage" "hall").apply ascent).KnowsReturn destination
          origin.id := by
  have moves : (house [("down", "hall")] [("down", "hall"), ("out", "roof")]).Moves
      (.start "player" "cottage" "hall") "up" _
      (loft [("down", "hall")] [("down", "hall"), ("out", "roof")]) ascent :=
    ⟨rfl, rfl, ⟨_, _, rfl⟩, rfl⟩
  refine ⟨_, _, moves, (return_known_iff moves).1.2 ⟨?_, ?_⟩⟩
  · intro way _ found
    cases found
    rfl
  · intro unnamed
    exact absurd rfl (unnamed "down" (by decide))

/-- The way down shows only from the loft, so it is not remembered. -/
theorem return_overlooked :
    ∃ origin destination,
      (house [] [("down", "hall")]).Moves (.start "player" "cottage" "hall") "up" origin destination
          { ascent with cameFrom := "" }
        ∧ ¬ ((Session.start "player" "cottage" "hall").apply
          { ascent with cameFrom := "" }).KnowsReturn destination origin.id := by
  refine ⟨_, loft [] [("down", "hall")], ⟨rfl, rfl, ⟨_, _, rfl⟩, rfl⟩, ?_⟩
  intro knows
  exact knows "down" (by decide) rfl

end TextAdventure
