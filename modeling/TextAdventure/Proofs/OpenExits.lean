import TextAdventure.Validation
import TextAdventure.Proofs.Movement
import TextAdventure.Proofs.Updates

/-!
# Which exits can be asked for by their names

A world may call its exits whatever it likes, and they are listed under these names, but what a
player asks for is brought into normal form and spelled out first. An open exit can be taken by its
name just if nothing comes of this (`IsSpeakable`), and then it is taken from every room of every
world (`open_exits_taken_iff`). "North" is no such name, and no check of a world finds anything
wrong with it (`north_not_taken`).
-/

namespace TextAdventure

/-- The directions that are spelled out, with what they stand for. -/
def abbreviations : List (String × String) :=
  [("n", "north"), ("s", "south"), ("e", "east"), ("w", "west"), ("ne", "northeast"),
    ("nw", "northwest"), ("se", "southeast"), ("sw", "southwest"), ("u", "up"), ("d", "down")]

theorem expandDirection_eq_lookup (direction : String) :
    expandDirection direction
      = (abbreviations.lookup (Text.normal direction)).getD (Text.normal direction) := by
  unfold expandDirection
  split
  case h_11 =>
    have missing : abbreviations.lookup (Text.normal direction) = none := by
      rw [List.lookup_eq_none_iff]
      simp_all [abbreviations]
    rw [missing, Option.getD_none]
  all_goals
    next short =>
    rw [short]
    rfl

theorem normal_ne_of_abbreviation : ∀ p ∈ abbreviations, Text.normal p.2 ≠ p.1 := by
  decide +kernel

/-- What is in normal form and no abbreviation stays as it is, and nothing else does. -/
theorem expandDirection_eq_self_iff {direction : String} :
    expandDirection direction = direction
      ↔ Text.normal direction = direction ∧ abbreviations.lookup direction = none := by
  rw [expandDirection_eq_lookup]
  rcases found : abbreviations.lookup (Text.normal direction) with _ | full
  · rw [Option.getD_none]
    exact ⟨fun same => ⟨same, same ▸ found⟩, And.left⟩
  · rw [Option.getD_some]
    refine iff_of_false ?_ ?_
    · rintro rfl
      obtain ⟨before, after, eq, -⟩ := List.lookup_eq_some_iff.1 found
      exact normal_ne_of_abbreviation (Text.normal full, full) (by simp [eq]) rfl
    · rintro ⟨same, missing⟩
      rw [same, missing] at found
      cases found

/-- A name of a direction that is understood as it is: it is in normal form, no abbreviation and
not the word for the way back. -/
structure IsSpeakable (direction : String) : Prop where
  normal : Text.normal direction = direction
  full : abbreviations.lookup direction = none
  present : direction ≠ ""
  ahead : direction ≠ "back"

/-- The first part of a script puts the player into a room. -/
def Script.Enters (room : String) : Script → Prop
  | sequence (leaf outcome :: _) => outcome.change.room = some room
  | _ => False

/-- The verb `move` takes the player through an exit to a room: if it is named, and if it is the
only one and none is named. -/
structure World.Takes (w : World) (session : Session) (here : Room) (direction : String)
    (destination : Room) : Prop where
  named : ∀ sentence : Sentence, sentence.subject = some direction →
    ∃ script, Verbs.move session w sentence = some script ∧ script.Enters destination.id
  only : (here.exitsFor session).keys = [direction] →
    ∀ sentence : Sentence, sentence.subject = none →
      ∃ script, Verbs.move session w sentence = some script ∧ script.Enters destination.id

section Taking

variable {w : World} {session : Session} {here destination : Room} {direction : String}

theorem World.go_of_passage (speakable : IsSpeakable direction)
    (passage : w.Passage session here direction destination) :
    w.go session direction = w.arrive session here destination := by
  have reads : expandDirection direction = direction :=
    expandDirection_eq_self_iff.2 ⟨speakable.normal, speakable.full⟩
  simp only [go, passage.here, reads, speakable.ahead, ↓reduceIte]
  rw [goToward_of_leadsTo passage.leadsTo, passage.unlocked]

theorem World.takes_of_passage (speakable : IsSpeakable direction)
    (passage : w.Passage session here direction destination) :
    w.Takes session here direction destination where
  named sentence subject := by
    have spoken : Text.normal direction ≠ "" := by
      rw [speakable.normal]
      exact speakable.present
    refine ⟨w.arrive session here destination, ?_, rfl⟩
    rw [Verbs.move_of_subject subject spoken, go_of_passage speakable passage]
  only alone sentence silent := by
    refine ⟨w.arrive session here destination, ?_, rfl⟩
    rw [Verbs.move, silent, Option.filter_none, passage.here, Option.map_some, alone]
    exact congrArg some (go_of_passage speakable passage)

end Taking

/-! ## Exits that are not taken -/

/-- A cave with some exits. -/
def cave (exits : Exits) : Room := { id := "cave", name := "cave", exits := .fixed exits }

/-- A world of one cave. -/
def maze (exits : Exits) : World :=
  World.addRoom { id := "cottage", start := "cave" } (cave exits)

/-- The player of a fresh session in the cave. -/
def lost : Session := .start "player" "cottage" "cave"

/-- An exit that leads back into the cave. -/
def loop (direction : String) : Exits := Dictionary.ofList [(direction, "cave")]

theorem passage_maze {exits : Exits} {direction : String}
    (exit : exits.get? direction = some "cave") :
    (maze exits).Passage lost (cave exits) direction (cave exits) :=
  ⟨rfl, exit, rfl, rfl⟩

theorem get?_loop (direction other : String) :
    (loop direction).get? other = if direction = other then some "cave" else none := rfl

theorem go_loop {direction : String}
    (other : ¬ (expandDirection direction = direction ∧ direction ≠ "back")) :
    ∃ message, (maze (loop direction)).go lost direction = .say message := by
  have here : (maze (loop direction)).currentRoom lost = some (cave (loop direction)) := rfl
  unfold World.go
  rw [here]
  dsimp only
  split
  · exact ⟨_, rfl⟩
  · next ahead =>
    have ne : direction ≠ expandDirection direction := by
      intro same
      exact other ⟨same.symm, fun back => ahead (same.symm.trans back)⟩
    have missing : ((cave (loop direction)).exitsFor lost).get? (expandDirection direction)
        = none := by
      show (loop direction).get? (expandDirection direction) = none
      rw [get?_loop, if_neg ne]
    -- There are no things in the cave that could lead out of it.
    have leadless : (maze (loop direction)).lead lost (expandDirection direction) = none := by
      unfold World.lead World.candidates
      dsimp only
      split <;> rfl
    refine ⟨"You can't go " ++ expandDirection direction ++ " from here.", ?_⟩
    simp [World.goToward, Dictionary.contains, missing, leadless, World.noWay]

/-- In all worlds without flaws an open exit with this name can be taken by it, and without a word
where it is the only one, just if the name is understood as it is. -/
theorem open_exits_taken_iff (direction : String) :
    (∀ (w : World) (session : Session) (here destination : Room), w.flaws = [] →
      w.Passage session here direction destination →
        w.Takes session here direction destination) ↔ IsSpeakable direction := by
  constructor
  · intro taken
    have exit : (loop direction).get? direction = some "cave" := by rw [get?_loop, if_pos rfl]
    obtain ⟨script, comes, enters⟩ :=
      (taken _ _ _ _ rfl (passage_maze exit)).only rfl {} rfl
    obtain rfl : (maze (loop direction)).go lost direction = script := Option.some.inj comes
    have understood : expandDirection direction = direction ∧ direction ≠ "back" := by
      refine Decidable.byContradiction fun other => ?_
      obtain ⟨message, said⟩ := go_loop other
      rw [said] at enters
      exact enters
    have plain := expandDirection_eq_self_iff.1 understood.1
    refine ⟨plain.1, plain.2, ?_, understood.2⟩
    -- Of two exits, one without a name is not asked for by saying nothing.
    rintro rfl
    obtain ⟨script, comes, enters⟩ :=
      (taken (maze (Dictionary.ofList [("", "cave"), ("up", "cave")])) lost _ _
        (by decide +kernel) (passage_maze (by decide +kernel))).named { subject := "" } rfl
    cases comes
    exact enters
  · intro speakable w session here destination _ passage
    exact w.takes_of_passage speakable passage

/-- An exit "North" is the only way out in a world without flaws, and open, but there is no going
there, with or without its name. -/
theorem north_not_taken :
    (maze (loop "North")).flaws = []
      ∧ (maze (loop "North")).Passage lost (cave (loop "North")) "North" (cave (loop "North"))
      ∧ (maze (loop "North")).exitsListing lost = "You can go North to the cave."
      ∧ Verbs.move lost (maze (loop "North")) {} = some (.say "You can't go north from here.")
      ∧ Verbs.move lost (maze (loop "North")) { subject := "North" }
        = some (.say "You can't go north from here.")
      ∧ ¬ (maze (loop "North")).Takes lost (cave (loop "North")) "North"
          (cave (loop "North")) := by
  have refused : Verbs.move lost (maze (loop "North")) { subject := "North" }
      = some (.say "You can't go north from here.") := rfl
  refine ⟨rfl, passage_maze rfl, rfl, rfl, refused, fun takes => ?_⟩
  obtain ⟨script, comes, enters⟩ := takes.named { subject := "North" } rfl
  obtain rfl : Script.say _ = script := Option.some.inj (refused.symm.trans comes)
  exact enters

end TextAdventure
