import TextAdventure.Proofs.Content
import TextAdventure.Proofs.LowerCase
import TextAdventure.Validation

/-!
# What a pronoun stands for

An answer about a thing leaves a name for it in the session: its id, or its first word. A pronoun
stands for this name, which is looked up as any word is, so it has to be understood in normal form
(`Thing.IsRecallable`). Then the thing is found again, wherever it was found before, unless it is
only to be seen in the room and hides from a player who was told about it (`pronoun_finds_again`,
`pronoun_loses_things`).
-/

namespace TextAdventure

/-- The session of a player who was just told about a thing. -/
def Session.toldOf (session : Session) (thing : Thing) : Session :=
  { session with context := some thing.reference }

/-- The name that is kept for a thing is understood: if it is the id, then as the id or a word of
the thing, and if it is the first word, then that is a word in normal form and not blank. -/
structure Thing.IsRecallable (thing : Thing) : Prop where
  byId : ∀ id ∈ thing.id, Text.normal id ≠ "" ∧ thing.answersTo (Text.normal id)
  byWord : thing.id = none → ∀ key ∈ thing.keys.head?, key ≠ "" ∧ ∃ word, Text.normal word = key

/-- A thing that answers to anything answers to the name that is kept for it. -/
theorem Thing.IsRecallable.answersTo_reference {thing : Thing} (recallable : thing.IsRecallable)
    {word : String} (answers : thing.answersTo word) :
    Text.normal thing.reference ≠ "" ∧ thing.answersTo (Text.normal thing.reference) := by
  rcases named : thing.id with _ | id
  · rcases called : thing.keys with _ | ⟨key, keys⟩
    · simp [Thing.answersTo, named, called] at answers
    · have first : thing.reference = key := by simp [reference, named, called]
      obtain ⟨present, word, rfl⟩ := recallable.byWord named key (by simp [called])
      rw [first, Text.normal_normal]
      exact ⟨present, by simp [Thing.answersTo, called]⟩
  · have kept : thing.reference = id := by simp [reference, named]
    rw [kept]
    exact recallable.byId id named

theorem Word.key_read_pronoun {session : Session} {context said : String}
    (told : session.context = some context) (stands : Text.normal said ∈ pronouns) :
    (Word.read session said).key = context := by
  have known : pronouns.contains (Text.normal said) := List.contains_iff_mem.2 stands
  simp only [Word.read, resolvePronoun, known, told, ↓reduceIte, Option.getD_some]

namespace World

variable {w : World} {session : Session} {thing : Thing}

theorem mem_presentThings_toldOf (present : thing ∈ w.presentThings session) :
    thing ∈ w.presentThings (session.toldOf thing) ↔ thing.visible (session.toldOf thing) := by
  obtain ⟨inRoom, -, left⟩ := mem_presentThings.1 present
  rw [mem_presentThings]
  exact ⟨fun present' => present'.2.1, fun visible => ⟨inRoom, visible, left⟩⟩

end World

/-- A pronoun stands for the thing that the player was just told about, and finds it again just if
it is a thing of an effect, or carried, or can still be seen. -/
theorem pronoun_finds_again {w : World} {session : Session} {word said : String} {thing : Thing}
    (found : thing ∈ w.candidates session word) (recallable : thing.IsRecallable)
    (stands : Text.normal said ∈ pronouns) :
    (Word.read (session.toldOf thing) said).key = thing.reference ∧
      (thing ∈ w.candidates (session.toldOf thing) (Word.read (session.toldOf thing) said).key ↔
        thing ∈ w.effectThings session ∨ thing ∈ w.carriedThings session
          ∨ thing.visible (session.toldOf thing)) := by
  obtain ⟨-, mem, answers⟩ := World.mem_candidates.1 found
  have key : (Word.read (session.toldOf thing) said).key = thing.reference :=
    Word.key_read_pronoun rfl stands
  refine ⟨key, ?_⟩
  rw [key, World.mem_candidates, World.mem_addressable]
  constructor
  · rintro ⟨-, effect | carried | present, -⟩
    · exact .inl effect
    · exact .inr (.inl carried)
    · exact .inr (.inr (World.mem_presentThings.1 present).2.1)
  · intro stays
    obtain ⟨spoken, answers'⟩ := recallable.answersTo_reference answers
    refine ⟨spoken, ?_, answers'⟩
    rcases stays with effect | carried | visible
    · exact .inl effect
    · exact .inr (.inl carried)
    · rcases World.mem_addressable.1 mem with effect | carried | present
      · exact .inl effect
      · exact .inr (.inl carried)
      · exact .inr (.inr ((World.mem_presentThings_toldOf present).2 visible))

theorem Thing.isRecallable_called {words : List String}
    (first : ∀ word ∈ words.head?, Text.normal word ≠ "") : (Thing.called words).IsRecallable where
  byId := nofun
  byWord _ key head := by
    rw [Thing.called, List.head?_map] at head
    obtain ⟨word, begins, rfl⟩ := Option.map_eq_some_iff.1 head
    exact ⟨first word begins, word, rfl⟩

theorem normal_of_pronoun : ∀ pronoun ∈ pronouns, Text.normal pronoun = pronoun := by
  decide +kernel

def rake : Thing := Thing.called ["the Rake", "tool"]

/-- A thing that hides from a player who was told about anything. -/
def moth : Thing :=
  { Thing.called ["moth"] with id := "moth", visible := fun session => session.context.isNone }

/-- A thing with an id that no word comes to in normal form. -/
def torch : Thing := { Thing.called ["torch"] with id := "Torch-1" }

def shed : World :=
  World.addRoom { id := "cottage", start := "shed" }
    { id := "shed", name := "shed", things := [rake, moth, torch] }

def gardener : Session := .start "player" "cottage" "shed"

theorem pronoun_finds_again_rake :
    rake ∈ shed.candidates gardener "tool" ∧ rake.IsRecallable ∧
      ∀ pronoun ∈ pronouns, Text.normal pronoun ∈ pronouns ∧
        rake ∈ shed.candidates (gardener.toldOf rake)
          (Word.read (gardener.toldOf rake) pronoun).key := by
  have found : rake ∈ shed.candidates gardener "tool" := by
    rw [show shed.candidates gardener "tool" = [rake] from rfl]
    exact List.mem_singleton_self rake
  have recallable : rake.IsRecallable := Thing.isRecallable_called (by decide +kernel)
  refine ⟨found, recallable, fun pronoun mem => ?_⟩
  have stands : Text.normal pronoun ∈ pronouns := by
    rwa [normal_of_pronoun pronoun mem]
  exact ⟨stands, (pronoun_finds_again found recallable stands).2.2 (.inr (.inr rfl))⟩

/-- In a world without flaws the moth hides as soon as it is spoken of, and the name that is kept
for the torch means nothing. -/
theorem pronoun_loses_things :
    shed.flaws = []
      ∧ shed.candidates gardener "moth" = [moth]
      ∧ shed.candidates (gardener.toldOf moth) (Word.read (gardener.toldOf moth) "it").key = []
      ∧ shed.candidates gardener "torch" = [torch]
      ∧ shed.candidates (gardener.toldOf torch) (Word.read (gardener.toldOf torch) "it").key
        = [] :=
  ⟨rfl, rfl, rfl, rfl, rfl⟩

end TextAdventure
