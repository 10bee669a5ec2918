import TextAdventure.Proofs.FirstAble
import TextAdventure.Proofs.OpenExits
import TextAdventure.VerbTable

/-!
# Ways through a door

A thing may lead somewhere, and then its word can stand for the direction. Going there by `move`
looks for the word among the exits and then among the things, `moveTo` does so by itself before it
goes, and `use` comes upon the thing on its search for one that can be used. They take the player
the same way, wherever it ends, if the word means nothing but things and the first of these that
leads anywhere is the first that can be used (`World.Doorway`, `doorway_verbs_agree`).
-/

namespace TextAdventure

/-- Of some things the first that leads anywhere leads in a direction. It has no entry for the verb,
which none of those before it can take. -/
def Interaction.LeadsFirst (i : Interaction) (things : List Thing) (direction : String) : Prop :=
  ∃ before thing after, things = before ++ thing :: after ∧
    (∀ other ∈ before, other.exit = none ∧ ¬ i.Able other) ∧
    thing.exit = some direction ∧ thing.handler? i.verb.name = none

/-- A word by which a player in a room asks for a thing that leads through one of the exits. -/
structure World.Doorway (w : World) (session : Session) (room : Room) (word direction : String) :
    Prop where
  here : w.currentRoom session = some room
  normal : Text.normal word = word
  full : abbreviations.lookup word = none
  ahead : word ≠ "back"
  noPronoun : word ∉ pronouns
  noExit : (room.exitsFor session).contains word = false
  leads : Verbs.use.LeadsFirst (w.candidates session word) direction
  exit : (room.exitsFor session).contains direction
  understood : expandDirection direction = direction
  onward : direction ≠ "back"

namespace World.Doorway

variable {w : World} {session : Session} {room : Room} {word direction : String}
  (doorway : w.Doorway session room word direction)
include doorway

theorem present : word ≠ "" := by
  rintro rfl
  obtain ⟨before, thing, after, found, -⟩ := doorway.leads
  have mem : thing ∈ w.candidates session "" := by simp [found]
  exact (mem_candidates.1 mem).1 doorway.normal

theorem lead_eq : w.lead session word = some direction := by
  obtain ⟨before, thing, after, found, idle, leads, -⟩ := doorway.leads
  exact List.findSome?_eq_some_iff.2
    ⟨before, thing, after, found, leads, fun other mem => (idle other mem).1⟩

theorem expand_word : expandDirection word = word :=
  expandDirection_eq_self_iff.2 ⟨doorway.normal, doorway.full⟩

/-- No exit has the word for its name, so going by it follows the lead of the things. -/
theorem go_word : w.go session word = w.go session direction := by
  have toward : w.goToward session room word = w.goToward session room direction := by
    simp only [goToward, doorway.noExit, doorway.exit, doorway.lead_eq, Bool.false_eq_true,
      ↓reduceIte, Option.getD_some]
  simp only [go, doorway.here, doorway.expand_word, doorway.understood, doorway.ahead,
    doorway.onward, ↓reduceIte, toward]

theorem goTo_word : Verbs.goTo session w room word = w.go session direction := by
  simp only [Verbs.goTo, doorway.expand_word, doorway.noExit, doorway.lead_eq, Bool.false_eq_true,
    ↓reduceIte]

theorem use_word : Verbs.use.applyWord session w (.said word) = w.go session direction := by
  have key : (Word.said word).key = word := doorway.normal
  obtain ⟨before, thing, after, found, idle, leads, free⟩ := doorway.leads
  have takes : Verbs.use.Takes session w thing (w.go session direction) :=
    ⟨0, by decide, _, .here _, .walk free rfl leads⟩
  exact Interaction.Answered.applyWord_eq
    (.able (key ▸ found) (fun other mem => (idle other mem).2) takes)

theorem wordOf_eq : Interaction.wordOf session (some word) = some (.said word) := by
  refine Interaction.wordOf_said session ?_ (.inl ?_)
  · rw [doorway.normal]
    exact doorway.present
  · rw [doorway.normal]
    exact doorway.noPronoun

end World.Doorway

/-- With a word for a doorway, `move`, `moveTo` and `use` all go in the direction of the doorway. -/
theorem doorway_verbs_agree {settings : Settings} {prompt : Varying String} {w : World}
    {session : Session} {room : Room} {word direction : String} {sentence : Sentence}
    (doorway : w.Doorway session room word direction) (subject : sentence.subject = some word)
    (object : sentence.object = none) :
    ∀ verb ∈ [Verb.move, .moveTo, .use],
      (VerbTable.standard settings prompt verb).bind (fun handle => handle session w sentence)
        = some (w.go session direction) := by
  simp only [List.forall_mem_cons, List.not_mem_nil, IsEmpty.forall_iff, implies_true, and_true]
  refine ⟨?_, ?_, ?_⟩
  · show Verbs.move session w sentence = _
    rw [Verbs.move_of_subject subject (doorway.normal.symm ▸ doorway.present), doorway.go_word]
  · show Verbs.moveTo session w sentence = _
    have place : (sentence.subject.map Text.normal).filter (· ≠ "") = some word := by
      simp [subject, doorway.normal, doorway.present]
    rw [Verbs.moveTo, place]
    dsimp only
    rw [doorway.here, Option.map_some, doorway.goTo_word]
  · show Verbs.use.handle session w sentence = _
    have named : Interaction.wordsOf session sentence = [.said word] := by
      rw [Interaction.wordsOf, subject, object, doorway.wordOf_eq]
      rfl
    rw [Interaction.handle_one _ _ _ named, doorway.use_word]

/-- A gate that is only painted. -/
def mural : Thing := (Thing.called ["gate"]).on "look" (.literal "It looks like a way out.")

def gate : Thing := { Thing.called ["gate"] with exit := "north" }

def lodge : Room where
  id := "lodge"
  name := "lodge"
  exits := .fixed (Dictionary.ofList [("north", "lane")])
  things := [mural, gate]

def lane : Room := { id := "lane", name := "lane", description := .fixed "A lane." }

def estate : World :=
  World.addRoom { id := "cottage", start := "lodge" } lodge |>.addRoom lane

def porter : Session := .start "player" "cottage" "lodge"

/-- By the word for the gate the player comes through it to the lane. -/
theorem doorway_verbs_agree_gate :
    estate.Doorway porter lodge "gate" "north" ∧
      ∀ verb ∈ [Verb.move, .moveTo, .use],
        (VerbTable.standard {} (.fixed "") verb).bind
            (fun handle => handle porter estate { subject := "gate" })
          = some (estate.arrive porter lodge lane) := by
  have painted : ¬ Verbs.use.Able mural :=
    (@Interaction.applyAlone_eq_none_iff Verbs.use porter estate mural).1 rfl
  have before (other : Thing) (mem : other ∈ [mural]) :
      other.exit = none ∧ ¬ Verbs.use.Able other := by
    obtain rfl := List.mem_singleton.1 mem
    exact ⟨rfl, painted⟩
  have doorway : estate.Doorway porter lodge "gate" "north" :=
    { here := rfl
      normal := by decide +kernel
      full := by decide +kernel
      ahead := by decide
      noPronoun := by decide
      noExit := by decide +kernel
      leads := ⟨[mural], gate, [], rfl, before, rfl, rfl⟩
      exit := by decide +kernel
      understood := by decide +kernel
      onward := by decide }
  have through : estate.go porter "north" = estate.arrive porter lodge lane := rfl
  rw [← through]
  exact ⟨doorway, doorway_verbs_agree doorway rfl rfl⟩

end TextAdventure
