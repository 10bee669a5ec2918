import TextAdventure.Proofs.OpenExits

/-!
# Going to a place by its name

A place that is asked for by its name is looked for among the exits in the order of their
directions, and then the player goes in the first direction to a room of this name, whether or not
it is open (`moveTo_of_seeks`). So where one of the exits to such rooms is open it is found just if
going in the first direction comes to one of them (`named_place_reached_iff`): a shut door hides
an open one that comes after it, and so does a direction that is not read as itself
(`open_way_overlooked`).
-/

namespace TextAdventure

namespace World

/-- The exit that is tried for a word: the one of this name, or that of a thing. -/
def toward (w : World) (session : Session) (here : Room) (word : String) : String :=
  if (here.exitsFor session).contains word then word else (w.lead session word).getD word

/-- The exit that is tried for a direction, unless this is the way back and there is none. -/
def heading (w : World) (session : Session) (here : Room) (direction : String) : Option String :=
  let direction := expandDirection direction
  (if direction = "back" then session.cameFrom else some direction).map (w.toward session here)

/-- The player is in a room and asks for a place elsewhere, by a word that is no exit of the room
and names no thing that leads out of it. -/
structure Seeks (w : World) (session : Session) (here : Room) (sentence : Sentence)
    (place : String) : Prop where
  standing : w.currentRoom session = some here
  asked : sentence.subject.map Text.normal = some place
  noExit : (here.exitsFor session).contains (expandDirection place) = false
  noThing : w.lead session place = none
  elsewhere : isNamed here place = false

/-- The verb `moveTo` brings the player into a room of this name. -/
def Brings (w : World) (session : Session) (sentence : Sentence) (place : String) : Prop :=
  ∃ script, Verbs.moveTo session w sentence = some script ∧
    ∃ room, w.rooms.get? room.id = some room ∧ isNamed room place ∧ script.Enters room.id

/-- Of the exits that lead to rooms of a name, open or not, this is the first. -/
structure IsFirstWay (w : World) (session : Session) (here : Room) (place first : String) :
    Prop where
  leads : ∃ room, w.LeadsTo session here first room ∧ isNamed room place
  least : ∀ way room, w.LeadsTo session here way room → isNamed room place → first ≤ way

/-- Going in a direction comes to a room of a name. -/
def ComesTo (w : World) (session : Session) (here : Room) (direction place : String) : Prop :=
  ∃ way ∈ w.heading session here direction, ∃ room,
    w.Passage session here way room ∧ isNamed room place

variable {w : World} {session : Session} {here : Room} {sentence : Sentence}
  {direction first place id : String}

/-! ## Where going leads -/

theorem enters_arrive_iff {origin destination : Room} :
    (w.arrive session origin destination).Enters id ↔ destination.id = id :=
  Option.some_inj

theorem enters_goToward_iff (standing : w.currentRoom session = some here) {word : String} :
    (w.goToward session here word).Enters id ↔
      ∃ room, w.Passage session here (w.toward session here word) room ∧ room.id = id := by
  -- the exit that is tried is the same in both, whatever it is
  unfold goToward toward
  dsimp only
  generalize (if (here.exitsFor session).contains word then word
    else (w.lead session word).getD word) = way
  constructor
  · intro enters
    split at enters
    · cases enters
    · next target exit =>
      split at enters
      · cases enters
      · next unlocked =>
        split at enters
        · cases enters
        · next room there =>
          obtain rfl := w.rooms.named there
          exact ⟨room, ⟨standing, exit, unlocked, there⟩, enters_arrive_iff.1 enters⟩
  · rintro ⟨room, passage, same⟩
    simp only [passage.exit, passage.unlocked, passage.there]
    exact enters_arrive_iff.2 same

theorem enters_go_iff (standing : w.currentRoom session = some here) :
    (w.go session direction).Enters id ↔
      ∃ way ∈ w.heading session here direction, ∃ room,
        w.Passage session here way room ∧ room.id = id := by
  unfold go heading
  rw [standing]
  dsimp only
  split
  · rcases session.cameFrom with _ | back
    · simp [Script.Enters, Script.say]
    · simp [enters_goToward_iff standing]
  · simp [enters_goToward_iff standing]

/-- Whoever asks for an exit of its very name takes no other. -/
theorem heading_of_leadsTo {room : Room} (full : expandDirection direction = direction)
    (ahead : direction ≠ "back") (leads : w.LeadsTo session here direction room) :
    w.heading session here direction = some direction := by
  simp [heading, full, ahead, toward, leads.listed]

/-! ## The first way -/

theorem wayToNamed_eq_some_iff (standing : w.currentRoom session = some here) :
    w.wayToNamed (here.exitsFor session) place = some first ↔
      w.IsFirstWay session here place first := by
  unfold wayToNamed
  constructor
  · intro found
    obtain ⟨⟨_, target⟩, finds, rfl⟩ := Option.map_eq_some_iff.1 found
    obtain ⟨exit, kind, least⟩ := Dictionary.find?_toList_eq_some_iff.1 finds
    obtain ⟨room, there, named⟩ := (Option.any_eq_true ..).1 kind
    obtain rfl := w.rooms.named there
    refine ⟨⟨room, ⟨standing, exit, there⟩, named⟩, fun way other leads named => ?_⟩
    exact least way other.id leads.exit ((Option.any_eq_true ..).2 ⟨other, leads.there, named⟩)
  · rintro ⟨⟨room, leads, named⟩, least⟩
    refine Option.map_eq_some_iff.2 ⟨(first, room.id), ?_, rfl⟩
    refine Dictionary.find?_toList_eq_some_iff.2 ⟨leads.exit, ?_, ?_⟩
    · exact (Option.any_eq_true ..).2 ⟨room, leads.there, named⟩
    · intro way target exit kind
      obtain ⟨other, there, named⟩ := (Option.any_eq_true ..).1 kind
      obtain rfl := w.rooms.named there
      exact least way other ⟨standing, exit, there⟩ named

theorem exists_isFirstWay {room : Room} (leads : w.LeadsTo session here direction room)
    (named : isNamed room place) :
    ∃ first ≤ direction, w.IsFirstWay session here place first := by
  have some : (w.wayToNamed (here.exitsFor session) place).isSome := by
    rw [wayToNamed, Option.isSome_map, List.find?_isSome]
    refine ⟨(direction, room.id), Dictionary.mem_toList.2 leads.exit, ?_⟩
    exact (Option.any_eq_true ..).2 ⟨room, leads.there, named⟩
  obtain ⟨first, found⟩ := Option.isSome_iff_exists.1 some
  have isFirst := (wayToNamed_eq_some_iff leads.here).1 found
  exact ⟨first, isFirst.least direction room leads named, isFirst⟩

theorem IsFirstWay.eq {other : String} (isFirst : w.IsFirstWay session here place first)
    (isFirst' : w.IsFirstWay session here place other) : first = other := by
  obtain ⟨room, leads, named⟩ := isFirst.leads
  obtain ⟨room', leads', named'⟩ := isFirst'.leads
  exact String.le_antisymm (isFirst.least other room' leads' named')
    (isFirst'.least first room leads named)

/-! ## Asking for a place -/

theorem moveTo_of_seeks (seeks : w.Seeks session here sentence place) (spoken : place ≠ "") :
    Verbs.moveTo session w sentence =
      match w.wayToNamed (here.exitsFor session) place with
      | some direction => some (w.go session direction)
      | none => some (.say ("You can't get to the " ++ place ++ " from here.")) := by
  rw [Verbs.moveTo, seeks.asked, Option.filter_some_pos (by simpa using spoken), seeks.standing]
  simp only [Option.map_some, Verbs.goTo, seeks.noExit, seeks.noThing, seeks.elsewhere]
  cases w.wayToNamed (here.exitsFor session) place <;> rfl

theorem brings_iff (seeks : w.Seeks session here sentence place) :
    w.Brings session sentence place ↔
      place ≠ "" ∧ ∃ first, w.IsFirstWay session here place first ∧
        w.ComesTo session here first place := by
  by_cases spoken : place = ""
  · refine iff_of_false ?_ fun both => both.1 spoken
    rintro ⟨script, comes, room, -, -, enters⟩
    rw [Verbs.moveTo, seeks.asked, spoken] at comes
    cases comes
    exact enters
  · simp only [Brings, moveTo_of_seeks seeks spoken, ← wayToNamed_eq_some_iff seeks.standing]
    rcases w.wayToNamed (here.exitsFor session) place with _ | first
    · simp [Script.Enters, Script.say]
    · constructor
      · rintro ⟨script, comes, room, there, named, enters⟩
        cases comes
        obtain ⟨way, taken, other, passage, same⟩ := (enters_go_iff seeks.standing).1 enters
        rw [passage.eq_of_there there same] at passage
        exact ⟨spoken, first, rfl, way, taken, room, passage, named⟩
      · rintro ⟨-, _, same, way, taken, room, passage, named⟩
        cases same
        exact ⟨_, rfl, room, passage.there, named,
          (enters_go_iff seeks.standing).2 ⟨way, taken, room, passage, rfl⟩⟩

theorem comesTo_iff_of_isFirstWay (leads : w.IsFirstWay session here place first)
    (full : expandDirection first = first) (ahead : first ≠ "back") :
    w.ComesTo session here first place ↔ here.blocked first session = none := by
  obtain ⟨room, leads, named⟩ := leads.leads
  unfold ComesTo
  rw [heading_of_leadsTo full ahead leads]
  constructor
  · rintro ⟨way, taken, other, passage, -⟩
    cases taken
    exact passage.unlocked
  · intro unlocked
    exact ⟨first, rfl, room, ⟨leads.here, leads.exit, unlocked, leads.there⟩, named⟩

end World

/-- If a passage leads to a room of the name that is asked for, then one exit is the first that
leads to such a room, and the player is brought into one just if the name is not empty and going in
the direction of this exit comes to one: where the direction is read as itself, if no lock is shut
on it. -/
theorem named_place_reached_iff {w : World} {session : Session} {here room : Room}
    {sentence : Sentence} {place way : String} (seeks : w.Seeks session here sentence place)
    (passage : w.Passage session here way room) (named : World.isNamed room place) :
    ∃ first ≤ way, w.IsFirstWay session here place first ∧
      (w.Brings session sentence place ↔ place ≠ "" ∧ w.ComesTo session here first place) ∧
      (expandDirection first = first → first ≠ "back" →
        (w.Brings session sentence place ↔ place ≠ "" ∧ here.blocked first session = none)) := by
  obtain ⟨first, before, isFirst⟩ := World.exists_isFirstWay passage.leadsTo named
  have brought : w.Brings session sentence place ↔
      place ≠ "" ∧ w.ComesTo session here first place := by
    rw [World.brings_iff seeks]
    refine and_congr_right fun _ => ⟨?_, fun comes => ⟨first, isFirst, comes⟩⟩
    rintro ⟨other, isFirst', comes⟩
    rwa [isFirst.eq isFirst']
  refine ⟨first, before, isFirst, brought, fun full ahead => ?_⟩
  rw [brought, World.comesTo_iff_of_isFirstWay isFirst full ahead]

/-! ## Two doors to one room -/

/-- A courtyard with some ways into the chapel, of which some are shut. -/
def courtyard (ways shut : List String) : Room where
  id := "courtyard"
  name := "courtyard"
  exits := .fixed (Dictionary.ofList (ways.map (·, "chapel")))
  locks := Dictionary.ofList (shut.map (·, fun _ => some "The door is stuck."))

def chapel : Room := { id := "chapel", name := "chapel" }

def abbey (ways shut : List String) : World :=
  World.addRoom (World.addRoom { id := "cottage", start := "courtyard" } (courtyard ways shut))
    chapel

def pilgrim : Session := .start "player" "cottage" "courtyard"

theorem seeks_abbey {ways shut : List String}
    (other : (Dictionary.ofList (ways.map (·, "chapel"))).contains "chapel" = false) :
    (abbey ways shut).Seeks pilgrim (courtyard ways shut) { subject := "the chapel" }
      "chapel" := by
  have standing : (abbey ways shut).currentRoom pilgrim = some (courtyard ways shut) := by
    show (abbey ways shut).rooms.get? "courtyard" = some (courtyard ways shut)
    simp [abbey, World.addRoom, Catalog.get?_file, chapel, courtyard]
  have nothing : (abbey ways shut).addressable pilgrim = [] := by
    rw [World.addressable, World.presentThings, standing]
    rfl
  refine ⟨standing, rfl, other, ?_, ?_⟩
  · rw [World.lead, World.candidates, nothing]
    simp
  · show (Text.normal "courtyard" == "chapel" || "courtyard" == "chapel") = false
    decide +kernel

/-- The door that comes first is open, and the other one is shut. -/
theorem named_place_reached_iff_chapel :
    (abbey ["east", "west"] ["west"]).Seeks pilgrim (courtyard ["east", "west"] ["west"])
        { subject := "the chapel" } "chapel" ∧
      (abbey ["east", "west"] ["west"]).Passage pilgrim (courtyard ["east", "west"] ["west"])
        "east" chapel ∧
      (abbey ["east", "west"] ["west"]).Brings pilgrim { subject := "the chapel" } "chapel" := by
  have seeks : (abbey ["east", "west"] ["west"]).Seeks pilgrim
      (courtyard ["east", "west"] ["west"]) { subject := "the chapel" } "chapel" :=
    seeks_abbey rfl
  have passage : (abbey ["east", "west"] ["west"]).Passage pilgrim
      (courtyard ["east", "west"] ["west"]) "east" chapel := ⟨rfl, rfl, rfl, rfl⟩
  refine ⟨seeks, passage, ?_⟩
  obtain ⟨first, -, isFirst, -, plain⟩ := named_place_reached_iff seeks passage rfl
  obtain rfl : first = "east" := isFirst.eq ((World.wayToNamed_eq_some_iff rfl).1 rfl)
  exact (plain rfl (by decide)).2 ⟨by decide, rfl⟩

/-- An open exit that is read as itself leads to a place, but asking for it is of no use. -/
structure World.Overlooks (w : World) (session : Session) (here : Room) (sentence : Sentence)
    (place way : String) : Prop where
  seeks : w.Seeks session here sentence place
  opens : ∃ room, w.Passage session here way room ∧ isNamed room place
  full : expandDirection way = way
  ahead : way ≠ "back"
  lost : ¬ w.Brings session sentence place

/-- In worlds without flaws the way into the chapel is missed, since another door is tried that is
shut, or one whose direction is read as another. -/
theorem open_way_overlooked :
    ((abbey ["east", "west"] ["east"]).flaws = [] ∧
      Verbs.moveTo pilgrim (abbey ["east", "west"] ["east"]) { subject := "the chapel" }
        = some (.say "The door is stuck.") ∧
      (abbey ["east", "west"] ["east"]).Overlooks pilgrim (courtyard ["east", "west"] ["east"])
        { subject := "the chapel" } "chapel" "west") ∧
    ((abbey ["North", "south"] []).flaws = [] ∧
      Verbs.moveTo pilgrim (abbey ["North", "south"] []) { subject := "the chapel" }
        = some (.say "You can't go north from here.") ∧
      (abbey ["North", "south"] []).Overlooks pilgrim (courtyard ["North", "south"] [])
        { subject := "the chapel" } "chapel" "south") := by
  have lost : ∀ {w : World} {sentence : Sentence} {place message : String},
      Verbs.moveTo pilgrim w sentence = some (.say message) →
        ¬ w.Brings pilgrim sentence place := by
    rintro w sentence place message said ⟨script, comes, room, -, -, enters⟩
    obtain rfl := Option.some.inj (said.symm.trans comes)
    exact enters
  have stuck : Verbs.moveTo pilgrim (abbey ["east", "west"] ["east"]) { subject := "the chapel" }
      = some (.say "The door is stuck.") := rfl
  have refused : Verbs.moveTo pilgrim (abbey ["North", "south"] []) { subject := "the chapel" }
      = some (.say "You can't go north from here.") := rfl
  refine ⟨⟨rfl, stuck, ?_⟩, ⟨rfl, refused, ?_⟩⟩
  · exact ⟨seeks_abbey rfl, ⟨chapel, ⟨rfl, rfl, rfl, rfl⟩, rfl⟩, rfl, by decide, lost stuck⟩
  · exact ⟨seeks_abbey rfl, ⟨chapel, ⟨rfl, rfl, rfl, rfl⟩, rfl⟩, rfl, by decide, lost refused⟩

end TextAdventure
