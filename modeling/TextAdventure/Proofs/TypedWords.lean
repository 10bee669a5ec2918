import Mathlib.Data.List.TakeDrop
import TextAdventure.Prompt
import TextAdventure.Proofs.LowerCase

/-!
# Typed lines word by word

A typed line is read by its words in lower case and by nothing else (`read_eq`). The first word is
the verb as it was spoken. The words after it, without the fillers in front, name the subject and
the object in their order, and none of them is lost but the splitter that parts the two
(`names_sentenceOf`). Only where the line says to go to a place are all further words the place
(`typed_words_kept`).
-/

namespace TextAdventure

/-- The first splitter among words stands between others. -/
def Parted (words : List String) : Prop :=
  ∃ before splitter after, words = before ++ splitter :: after ∧ splitter ∈ Prompt.splitters ∧
    (∀ word ∈ before, word ∉ Prompt.splitters) ∧ before ≠ [] ∧ after ≠ []

/-- The words that the prompt keeps for itself. -/
def controls : List String := ["quit", "q", "help", "?"]

def wordsIn (text : String) : List String :=
  (Text.words text.toList).map String.ofList

/-- The words of a line, each in lower case. -/
def spokenWords (line : String) : List String :=
  (Text.words line.toList).map fun word => String.ofList (Text.lowercase word)

/-- A lone word that is a whole command: for the prompt itself, or to move in a direction. -/
def IsCommand (first : String) (rest : List String) : Prop :=
  rest = [] ∧ (first ∈ controls ∨ first ∈ Prompt.directions)

/-- What is said after a verb of motion, to go to a place. -/
def GoesTo (first : String) (rest place : List String) : Prop :=
  first ∈ ["go", "walk", "head"] ∧
    ∃ preposition ∈ ["to", "into"], rest = preposition :: place ∧ place ≠ []

/-- The subject and the object of a sentence are made of these words, in their order: of all of them
or, if they are parted, of those before and after the first splitter. -/
structure Names (words : List String) (s : Sentence) : Prop where
  empty_iff : s.subject = none ∧ s.object = none ↔ words = []
  pair_iff : s.object.isSome ↔ Parted words
  alone : words ≠ [] → s.object = none →
    ∃ subject, s.subject = some subject ∧ wordsIn subject = words
  pair : ∀ object, s.object = some object → ∃ subject splitter, s.subject = some subject ∧
    wordsIn subject ++ splitter :: wordsIn object = words ∧ splitter ∈ Prompt.splitters ∧
      (∀ word ∈ wordsIn subject, word ∉ Prompt.splitters) ∧ wordsIn subject ≠ [] ∧
        wordsIn object ≠ []

open Prompt

/-! ## Words -/

section Words

variable {line : String} {words : List String}

theorem toList_spokenWords (line : String) :
    (spokenWords line).map String.toList = Text.words (Text.lowercase (Text.trim line.toList)) := by
  rw [Text.words_lowercase, Text.words_trim, spokenWords, List.map_map]
  exact List.map_congr_left fun word _ => String.toList_ofList

theorem read_eq (line : String) : Prompt.read line = ofWords (spokenWords line) := by
  rw [Prompt.read, ← toList_spokenWords, List.map_map]
  simp [Function.comp_def]

theorem isSolid_of_mem_spokenWords {word : String} (mem : word ∈ spokenWords line) :
    Text.IsSolid word.toList := by
  have among : word.toList ∈ (spokenWords line).map String.toList := List.mem_map_of_mem mem
  rw [toList_spokenWords] at among
  exact Text.isSolid_of_mem_words among

theorem toList_phrase (ws : List String) : (phrase ws).toList = Text.line (ws.map String.toList) :=
  String.toList_intercalate

theorem wordsIn_phrase (solid : ∀ word ∈ words, Text.IsSolid word.toList) :
    wordsIn (phrase words) = words := by
  have apart : Text.words (Text.line (words.map String.toList)) = words.map String.toList :=
    Text.words_line (by simpa using solid)
  rw [wordsIn, toList_phrase, apart, List.map_map]
  simp [Function.comp_def]

/-! ## Sentences -/

theorem split_eq_some_iff {words before after : List String} :
    split words = some (before, after) ↔ ∃ splitter, words = before ++ splitter :: after ∧
      splitter ∈ splitters ∧ (∀ word ∈ before, word ∉ splitters) ∧ before ≠ [] ∧ after ≠ [] := by
  unfold split
  rw [List.span_eq_takeWhile_dropWhile]
  constructor
  · intro found
    have whole : words.takeWhile (!splitters.contains ·) ++ words.dropWhile (!splitters.contains ·)
        = words := List.takeWhile_append_dropWhile
    have clear : ∀ word ∈ words.takeWhile (!splitters.contains ·), word ∉ splitters :=
      fun word mem => by simpa using List.mem_takeWhile_imp mem
    have stops : ∀ word ∈ (words.dropWhile (!splitters.contains ·)).head?, word ∈ splitters :=
      fun word mem => by simpa using Text.stops_dropWhile (!splitters.contains ·) words word mem
    generalize words.takeWhile (!splitters.contains ·) = taken at *
    generalize words.dropWhile (!splitters.contains ·) = left at *
    subst whole
    match taken, left, found with
    | b :: bs, splitter :: a :: as, rfl =>
      exact ⟨splitter, rfl, stops splitter rfl, clear, nofun, nofun⟩
  · rintro ⟨splitter, rfl, among, clear, some_before, some_after⟩
    have passes : ∀ word ∈ before, (!splitters.contains word) = true := by
      intro word mem
      simpa using clear word mem
    rw [List.takeWhile_append_of_pos passes, List.dropWhile_append_of_pos passes,
      List.takeWhile_cons_of_neg (by simpa using among),
      List.dropWhile_cons_of_neg (by simpa using among), List.append_nil]
    obtain ⟨b, bs, rfl⟩ := List.exists_cons_of_ne_nil some_before
    obtain ⟨a, as, rfl⟩ := List.exists_cons_of_ne_nil some_after
    rfl

theorem split_eq_none_iff {words : List String} : split words = none ↔ ¬ Parted words := by
  rw [Option.eq_none_iff_forall_ne_some]
  constructor
  · rintro none ⟨before, splitter, after, parts⟩
    exact none (before, after) (split_eq_some_iff.2 ⟨splitter, parts⟩)
  · rintro whole ⟨before, after⟩ found
    obtain ⟨splitter, parts⟩ := split_eq_some_iff.1 found
    exact whole ⟨before, splitter, after, parts⟩

/-- The sentence of the words after a verb names them, but for the fillers in front. -/
theorem names_sentenceOf (solid : ∀ word ∈ words, Text.IsSolid word.toList) :
    Names (dropFillers words) (sentenceOf words) := by
  have left : ∀ word ∈ dropFillers words, Text.IsSolid word.toList := fun word mem =>
    solid word ((List.dropWhile_suffix _).subset mem)
  unfold sentenceOf
  dsimp only
  rcases parts : split (dropFillers words) with _ | ⟨before, after⟩
  · have whole := split_eq_none_iff.1 parts
    by_cases none : dropFillers words = []
    · rw [none] at whole ⊢
      exact ⟨by simp, by simp [whole], by simp, by simp⟩
    · rw [List.isEmpty_eq_false_iff.2 none, if_neg Bool.false_ne_true]
      exact ⟨by simp [none], by simp [whole], fun _ _ => ⟨_, rfl, wordsIn_phrase left⟩, by simp⟩
  · obtain ⟨splitter, eq, among, first, some_before, some_after⟩ := split_eq_some_iff.1 parts
    have whole : Parted (dropFillers words) :=
      ⟨before, splitter, after, eq, among, first, some_before, some_after⟩
    have subject : wordsIn (phrase before) = before :=
      wordsIn_phrase fun word mem => left word (by rw [eq]; exact List.mem_append_left _ mem)
    have object : wordsIn (phrase after) = after :=
      wordsIn_phrase fun word mem => left word (by rw [eq]; simp [mem])
    have present : (before ++ splitter :: after).isEmpty = false := by simp
    rw [eq] at whole ⊢
    rw [present, if_neg Bool.false_ne_true]
    refine ⟨by simp, by simp [whole], by simp, ?_⟩
    rintro _ ⟨⟩
    refine ⟨phrase before, splitter, rfl, ?_⟩
    rw [subject, object]
    exact ⟨rfl, among, first, some_before, some_after⟩

theorem dropFillers_parts (words : List String) :
    ∃ dropped, words = dropped ++ dropFillers words ∧ (∀ word ∈ dropped, word ∈ fillers) ∧
      ∀ word ∈ (dropFillers words).head?, word ∉ fillers := by
  refine ⟨words.takeWhile (fillers.contains ·), List.takeWhile_append_dropWhile.symm, ?_, ?_⟩
  · intro word mem
    simpa using List.mem_takeWhile_imp mem
  · intro word first
    simpa using Text.stops_dropWhile (fillers.contains ·) words word first

theorem destination_eq_some_iff {first : String} {rest place : List String} :
    destination first rest = some place ↔ GoesTo first rest place := by
  unfold destination GoesTo
  split
  · next second more =>
    split_ifs with goes
    · simp only [Bool.and_eq_true, List.contains_iff_mem, decide_eq_true_eq] at goes
      obtain ⟨⟨verb, preposition⟩, some_place⟩ := goes
      rw [Option.some.injEq]
      constructor
      · rintro rfl
        exact ⟨verb, second, preposition, rfl, some_place⟩
      · rintro ⟨-, _, -, same, -⟩
        exact (List.cons.inj same).2
    · simp only [Bool.and_eq_true, List.contains_iff_mem, decide_eq_true_eq] at goes
      refine iff_of_false (by simp) ?_
      rintro ⟨verb, _, preposition, same, some_place⟩
      obtain ⟨rfl, rfl⟩ := List.cons.inj same
      exact goes ⟨⟨verb, preposition⟩, some_place⟩
  · refine iff_of_false (by simp) ?_
    rintro ⟨-, _, -, same, -⟩
    cases same

theorem ofWords_of_not_command {first : String} {rest : List String}
    (spoken : ¬ IsCommand first rest) (stays : ∀ place, ¬ GoesTo first rest place) :
    ofWords (first :: rest)
      = .act ((verbFor first).getD .fallback) { sentenceOf rest with verb := first } := by
  have nowhere : destination first rest = none :=
    Option.eq_none_iff_forall_ne_some.2 fun place found =>
      stays place (destination_eq_some_iff.1 found)
  have other : rest = [] → first ∉ controls ∧ first ∉ directions := fun alone =>
    not_or.1 fun known => spoken ⟨alone, known⟩
  simp only [controls, List.mem_cons, List.not_mem_nil, or_false, not_or] at other
  by_cases alone : rest = []
  · obtain ⟨⟨not_quit, not_q, not_help, not_question⟩, undirected⟩ := other alone
    simp [ofWords, nowhere, undirected, not_quit, not_q, not_help, not_question]
  · simp [ofWords, nowhere, alone]

theorem ofWords_of_goesTo {first : String} {rest place : List String}
    (goes : GoesTo first rest place) :
    ofWords (first :: rest) = .act .moveTo { subject := phrase place, verb := "go" } := by
  have found := destination_eq_some_iff.2 goes
  obtain ⟨-, preposition, -, rfl, -⟩ := goes
  rw [ofWords]
  simp [found]

end Words

/-- What a typed line asks for depends on its words in lower case and on nothing else. If it says to
go to a place, the words after that are the place. If it is no command by itself either, the first
word is the verb that was spoken, and the words after it, without the fillers in front, name the
subject and the object, all of them in their order. -/
theorem typed_words_kept (line : String) :
    (∀ other, spokenWords other = spokenWords line → Prompt.read other = Prompt.read line) ∧
      ∀ first rest, spokenWords line = first :: rest →
        (∀ place, GoesTo first rest place →
          ∃ subject : String, Prompt.read line = .act .moveTo { subject, verb := "go" }
            ∧ wordsIn subject = place) ∧
        (¬ IsCommand first rest → (∀ place, ¬ GoesTo first rest place) →
          ∃ sentence dropped left,
            Prompt.read line = .act ((verbFor first).getD .fallback) sentence
              ∧ sentence.verb = some first
              ∧ rest = dropped ++ left ∧ (∀ word ∈ dropped, word ∈ fillers)
              ∧ (∀ word ∈ left.head?, word ∉ fillers) ∧ Names left sentence) := by
  refine ⟨fun other same => by rw [read_eq, read_eq, same], fun first rest typed => ⟨?_, ?_⟩⟩
  · intro place goes
    have solid : ∀ word ∈ place, Text.IsSolid word.toList := by
      intro word mem
      obtain ⟨-, preposition, -, rfl, -⟩ := goes
      exact isSolid_of_mem_spokenWords (by rw [typed]; simp [mem])
    exact ⟨phrase place, by rw [read_eq, typed, ofWords_of_goesTo goes], wordsIn_phrase solid⟩
  · intro spoken stays
    have solid : ∀ word ∈ rest, Text.IsSolid word.toList := fun word mem =>
      isSolid_of_mem_spokenWords (by rw [typed]; exact List.mem_cons_of_mem _ mem)
    obtain ⟨dropped, parts, filled, starts⟩ := dropFillers_parts rest
    obtain ⟨empty_iff, pair_iff, alone, pair⟩ := names_sentenceOf solid
    refine ⟨{ sentenceOf rest with verb := first }, dropped, dropFillers rest, ?_, rfl, parts,
      filled, starts, ⟨empty_iff, pair_iff, alone, pair⟩⟩
    rw [read_eq, typed, ofWords_of_not_command spoken stays]

/-- The splitter is the only word that is left out. -/
theorem typed_words_kept_gift :
    spokenWords "Give  the Salted FISH to the cat"
        = ["give", "the", "salted", "fish", "to", "the", "cat"]
      ∧ ∃ sentence dropped left,
          Prompt.read "Give  the Salted FISH to the cat" = .act .give sentence
            ∧ sentence.verb = some "give"
            ∧ ["the", "salted", "fish", "to", "the", "cat"] = dropped ++ left
            ∧ (∀ word ∈ dropped, word ∈ fillers)
            ∧ (∀ word ∈ left.head?, word ∉ fillers) ∧ Names left sentence := by
  have typed : spokenWords "Give  the Salted FISH to the cat"
      = ["give", "the", "salted", "fish", "to", "the", "cat"] := by decide +kernel
  refine ⟨typed, ((typed_words_kept _).2 _ _ typed).2 ?_ ?_⟩
  · rintro ⟨none, -⟩
    cases none
  · rintro place ⟨goes, -⟩
    exact absurd goes (by decide)

end TextAdventure
