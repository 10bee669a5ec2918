import TextAdventure.Proofs.CannedPhrases
import TextAdventure.Proofs.TypedWords

/-!
# Phrases that are typed

A line at the prompt whose first word is unknown becomes a sentence that nobody understood, of the
words up to a splitter (`sentenceOf_subject`). The resolver tries the words of that sentence against
the phrases of the room, without what was dropped on the way. So a phrase of the room that is typed
is heard just if no word of it is lost (`typed_phrase_heard_iff`): each utterance that is tried has
no more words than the line, and one with fewer is no phrase of as many (`normal_phrase_ne`).
-/

namespace TextAdventure

namespace Text

/-- A line stays as it is unless it begins with an article. A line of one word does not. -/
theorem dropArticles_line {w : List Char} {ws : List (List Char)}
    (solid : ∀ u ∈ w :: ws, IsSolid u) (bare : ws = [] ∨ w ∉ articles) :
    dropArticles (line (w :: ws)) = line (w :: ws) := by
  refine dropArticles_eq_self (head_line solid) ?_
  intro article known rest same
  obtain ⟨present, own⟩ := solid_of_article article known
  have apart := words_line solid
  rw [same, words_append_blank rfl, words_eq_singleton present own] at apart
  obtain ⟨rfl, -⟩ := List.cons.inj apart
  rcases bare with rfl | other
  · rw [line_singleton, List.self_eq_append_right] at same
    cases same
  · exact other known

theorem length_words_dropArticles (cs : List Char) :
    (words (dropArticles cs)).length ≤ (words cs).length :=
  length_words_of_suffix (dropArticles_suffix cs)

end Text

/-- A word of ASCII characters in lower case, as it stands between the blanks of a line. -/
structure IsWord (word : String) : Prop where
  present : word ≠ ""
  ascii : ∀ c ∈ word.toList, c.toNat < 0x80
  lower : ∀ c ∈ word.toList, ¬ ('A' ≤ c ∧ c ≤ 'Z')
  solid : ∀ c ∈ word.toList, Text.isBlank c = false

theorem isWord_iff {word : String} : IsWord word ↔ word ≠ "" ∧
    word.toList.all fun c => c.toNat < 0x80 && !('A' ≤ c && c ≤ 'Z') && !Text.isBlank c := by
  simp only [List.all_eq_true, Bool.and_eq_true, decide_eq_true_eq, Bool.not_eq_true',
    Bool.and_eq_false_iff, decide_eq_false_iff_not]
  constructor
  · rintro ⟨present, ascii, lower, solid⟩
    exact ⟨present, fun c mem =>
      ⟨⟨ascii c mem, Decidable.not_and_iff_or_not.1 (lower c mem)⟩, solid c mem⟩⟩
  · rintro ⟨present, plain⟩
    exact ⟨present, fun c mem => (plain c mem).1.1,
      fun c mem => Decidable.not_and_iff_or_not.2 (plain c mem).1.2, fun c mem => (plain c mem).2⟩

instance (word : String) : Decidable (IsWord word) := decidable_of_iff _ isWord_iff.symm

section Phrase

open Prompt

variable {ws us : List String}

theorem isSolid_of_isWord (plain : ∀ word ∈ ws, IsWord word) :
    ∀ w ∈ ws.map String.toList, Text.IsSolid w := by
  intro w mem
  obtain ⟨word, among, rfl⟩ := List.mem_map.1 mem
  have isWord := plain word among
  exact ⟨by simpa using isWord.present, isWord.solid⟩

theorem lowercase_line (plain : ∀ word ∈ ws, IsWord word) :
    Text.lowercase (Text.line (ws.map String.toList)) = Text.line (ws.map String.toList) := by
  refine Text.lowercaseAfter_eq_self ?_ false
  intro c mem
  rcases Text.mem_line mem with rfl | ⟨w, among, mem⟩
  · exact Text.isLower_of_ascii (by decide) (by decide)
  · obtain ⟨word, spoken, rfl⟩ := List.mem_map.1 among
    refine Text.isLower_of_ascii ((plain word spoken).ascii c mem) ?_
    have lower := (plain word spoken).lower c mem
    rw [Text.asciiLower, if_neg (by simpa using lower)]

theorem normal_phrase (plain : ∀ word ∈ ws, IsWord word) :
    (Text.normal (phrase ws)).toList = Text.dropArticles (Text.line (ws.map String.toList)) := by
  rw [Text.normal, String.toList_ofList, toList_phrase, Text.trim_line (isSolid_of_isWord plain),
    lowercase_line plain]

/-- What is typed is read word by word. -/
theorem read_phrase (plain : ∀ word ∈ ws, IsWord word) : Prompt.read (phrase ws) = ofWords ws := by
  rw [Prompt.read, toList_phrase, Text.trim_line (isSolid_of_isWord plain), lowercase_line plain,
    Text.words_line (isSolid_of_isWord plain)]
  simp

/-- The words that are articles. -/
def articleWords : List String := ["a", "an", "the", "my"]

theorem toList_mem_articles {word : String} :
    word.toList ∈ Text.articles ↔ word ∈ articleWords := by
  have same : Text.articles = articleWords.map String.toList := by decide
  rw [same]
  simp [String.toList_inj]

/-- Words are their own normal form unless an article stands before others. -/
theorem normal_phrase_eq_self_iff {first : String} {rest : List String}
    (plain : ∀ word ∈ first :: rest, IsWord word) :
    Text.normal (phrase (first :: rest)) = phrase (first :: rest)
      ↔ rest = [] ∨ first ∉ articleWords := by
  rw [← String.toList_inj, normal_phrase plain, toList_phrase, List.map_cons]
  constructor
  · intro same
    by_contra both
    obtain ⟨more, article⟩ := not_or.1 both
    obtain ⟨second, rest, rfl⟩ := List.exists_cons_of_ne_nil more
    have known := toList_mem_articles.2 (not_not.1 article)
    -- without the article there is a word less
    have few := Text.length_words_dropArticles
      (Text.line (second.toList :: rest.map String.toList))
    rw [← Text.dropArticles_article known, ← Text.line_cons_cons] at few
    rw [List.map_cons] at same
    have whole : Text.words (Text.line (first.toList :: second.toList :: rest.map String.toList))
        = _ := Text.words_line (isSolid_of_isWord plain)
    have part : Text.words (Text.line (second.toList :: rest.map String.toList)) = _ :=
      Text.words_line (isSolid_of_isWord fun word mem => plain word (List.mem_cons_of_mem _ mem))
    rw [same, whole, part] at few
    simp only [List.length_cons] at few
    omega
  · intro bare
    refine Text.dropArticles_line (isSolid_of_isWord plain) ?_
    rcases bare with rfl | other
    · exact .inl rfl
    · exact .inr fun known => other (toList_mem_articles.1 known)

/-- A text of fewer words is in no way the same. -/
theorem normal_phrase_ne (plain : ∀ word ∈ ws, IsWord word) (plain' : ∀ word ∈ us, IsWord word)
    (fewer : ws.length < us.length) : Text.normal (phrase ws) ≠ phrase us := by
  intro same
  have words : Text.words (Text.normal (phrase ws)).toList = Text.words (phrase us).toList := by
    rw [same]
  rw [normal_phrase plain, toList_phrase, Text.words_line (isSolid_of_isWord plain')] at words
  have few := Text.length_words_dropArticles (Text.line (ws.map String.toList))
  rw [words, Text.words_line (isSolid_of_isWord plain), List.length_map, List.length_map] at few
  omega

/-! ## What is typed -/

/-- The words that are taken for the subject, of those after the verb. -/
def subjectWords (words : List String) : List String :=
  ((split (dropFillers words)).map Prod.fst).getD (dropFillers words)

/-- The words that a sentence names its subject by, of those after the verb. -/
theorem initial_subjectWords (words : List String) : subjectWords words <+: dropFillers words := by
  unfold subjectWords
  rcases parts : split (dropFillers words) with _ | ⟨before, after⟩
  · exact List.prefix_rfl
  · obtain ⟨splitter, eq, -⟩ := split_eq_some_iff.1 parts
    rw [eq]
    exact List.prefix_append _ _

theorem length_subjectWords_le (words : List String) :
    (subjectWords words).length ≤ words.length :=
  (initial_subjectWords words).length_le.trans (List.dropWhile_suffix _).length_le

theorem mem_of_mem_subjectWords {word : String} {words : List String}
    (mem : word ∈ subjectWords words) : word ∈ words :=
  (List.dropWhile_suffix _).subset ((initial_subjectWords words).subset mem)

theorem dropFillers_eq_self_iff {words : List String} :
    dropFillers words = words ↔ ∀ word ∈ words.head?, word ∉ fillers := by
  cases words with
  | nil => simp [dropFillers]
  | cons word rest =>
    rw [dropFillers, List.dropWhile_eq_self_iff]
    simp

theorem subjectWords_eq_of_length {words : List String}
    (all : words.length ≤ (subjectWords words).length) : subjectWords words = words := by
  have left := initial_subjectWords words
  have fewer : dropFillers words <:+ words := List.dropWhile_suffix _
  have kept := fewer.eq_of_length (le_antisymm fewer.length_le (all.trans left.length_le))
  rw [kept] at left
  exact left.eq_of_length (le_antisymm left.length_le all)

/-- All words after the verb name the subject, just if they do not begin with a filler and are not
parted. -/
theorem subjectWords_eq_self_iff {words : List String} :
    subjectWords words = words ↔ (∀ word ∈ words.head?, word ∉ fillers) ∧ ¬ Parted words := by
  rw [← dropFillers_eq_self_iff, ← split_eq_none_iff]
  constructor
  · intro all
    have fewer : dropFillers words <:+ words := List.dropWhile_suffix _
    have kept : dropFillers words = words :=
      fewer.eq_of_length (le_antisymm fewer.length_le
        ((congrArg List.length all).ge.trans (initial_subjectWords words).length_le))
    refine ⟨kept, ?_⟩
    rw [Option.eq_none_iff_forall_ne_some]
    rintro ⟨before, after⟩ parts
    obtain ⟨splitter, eq, -⟩ := split_eq_some_iff.1 parts
    rw [subjectWords, kept, parts, Option.map_some, Option.getD_some, eq] at all
    exact absurd all (by simp)
  · rintro ⟨kept, whole⟩
    rw [subjectWords, kept, whole, Option.map_none, Option.getD_none]

theorem sentenceOf_subject (words : List String) :
    (sentenceOf words).subject
      = if subjectWords words = [] then none else some (phrase (subjectWords words)) := by
  unfold sentenceOf subjectWords
  dsimp only
  rcases parts : split (dropFillers words) with _ | ⟨before, after⟩
  · cases dropFillers words <;> rfl
  · obtain ⟨splitter, eq, -, -, some_before, -⟩ := split_eq_some_iff.1 parts
    rw [eq, Option.map_some, Option.getD_some, if_neg some_before, if_neg (by simp)]

/-- The words of a line come through to a phrase: there is one word only, or the line does not begin
with an article, and the words after the first one neither begin with a filler nor are parted. -/
def ComesThrough (first : String) (rest : List String) : Prop :=
  rest = [] ∨
    first ∉ articleWords ∧ (∀ word ∈ rest.head?, word ∉ fillers) ∧ ¬ Parted rest

theorem ofWords_of_unknown {first : String} (rest : List String)
    (unknown : verbFor first = none) (undirected : first ∉ directions)
    (uncontrolled : first ∉ controls) :
    ofWords (first :: rest) = .act .fallback { sentenceOf rest with verb := first } := by
  have stays : ∀ place, ¬ GoesTo first rest place := by
    rintro place ⟨goes, -⟩
    simp only [List.mem_cons, List.not_mem_nil, or_false] at goes
    rcases goes with rfl | rfl | rfl <;> cases unknown
  have spoken : ¬ IsCommand first rest := fun command =>
    command.2.elim uncontrolled undirected
  rw [ofWords_of_not_command spoken stays, unknown]
  rfl

section Typed

variable {first : String} {rest : List String}

theorem phrase_cons (first : String) {words : List String} (more : words ≠ []) :
    phrase (first :: words) = first ++ " " ++ phrase words :=
  String.intercalate_cons_of_ne_nil more

theorem utterances_typed (first : String) (rest : List String) :
    Resolver.utterances { sentenceOf rest with verb := first }
      = if subjectWords rest = [] then [phrase [first]]
        else [phrase (first :: subjectWords rest), phrase [first], phrase (subjectWords rest)] := by
  have single : phrase [first] = first := String.intercalate_singleton
  unfold Resolver.utterances
  dsimp only
  rw [sentenceOf_subject, single]
  by_cases named : subjectWords rest = []
  · rw [if_pos named, if_pos named]
    rfl
  · rw [if_neg named, if_neg named, phrase_cons first named]
    rfl

/-- If any of the utterances that are tried for a line has its normal form, its words come
through. -/
theorem comesThrough_of_tried (plain : ∀ word ∈ first :: rest, IsWord word) {tried : String}
    (mem : tried ∈ Resolver.utterances { sentenceOf rest with verb := first })
    (same : Text.normal tried = phrase (first :: rest)) : ComesThrough first rest := by
  have plain_subject : ∀ word ∈ subjectWords rest, IsWord word := fun word mem =>
    plain word (List.mem_cons_of_mem _ (mem_of_mem_subjectWords mem))
  have plain_first : IsWord first := plain first List.mem_cons_self
  -- an utterance of fewer words would not have its normal form
  have enough : ∀ words : List String, (∀ word ∈ words, IsWord word) → tried = phrase words →
      rest.length + 1 ≤ words.length := by
    intro words plain_words eq
    by_contra fewer
    exact normal_phrase_ne plain_words plain (by simpa using fewer) (eq ▸ same)
  rw [utterances_typed] at mem
  have alone : tried = phrase [first] → ComesThrough first rest := by
    intro eq
    have one := enough [first] (by simpa using plain_first) eq
    exact .inl (List.length_eq_zero_iff.1 (by simpa using one))
  split at mem
  · exact alone (List.mem_singleton.1 mem)
  · simp only [List.mem_cons, List.not_mem_nil, or_false] at mem
    rcases mem with eq | eq | eq
    · have all := subjectWords_eq_of_length (Nat.le_of_succ_le_succ
        (enough _ (List.forall_mem_cons.2 ⟨plain_first, plain_subject⟩) eq))
      rw [eq, all] at same
      exact ((normal_phrase_eq_self_iff plain).1 same).imp_right fun bare =>
        ⟨bare, subjectWords_eq_self_iff.1 all⟩
    · exact alone eq
    · have more := enough _ plain_subject eq
      have few := length_subjectWords_le rest
      omega

/-- If its words come through, a line itself is tried first, and it is in normal form. -/
theorem ComesThrough.tried_first (through : ComesThrough first rest)
    (plain : ∀ word ∈ first :: rest, IsWord word) :
    Text.normal (phrase (first :: rest)) = phrase (first :: rest) ∧
      ∃ later, Resolver.utterances { sentenceOf rest with verb := first }
        = phrase (first :: rest) :: later := by
  refine ⟨(normal_phrase_eq_self_iff plain).2 (through.imp_right And.left), ?_⟩
  rw [utterances_typed]
  by_cases none : rest = []
  · subst none
    exact ⟨[], rfl⟩
  · have all := subjectWords_eq_self_iff.2 (through.resolve_left none).2
    rw [all, if_neg none]
    exact ⟨_, rfl⟩

end Typed

end Phrase

/-- A phrase of the room that is typed, of plain words the first of which means nothing to the
prompt, is not understood and so may stand for a phrase of the room. It stands for one with this
utterance just if its words come through. -/
theorem typed_phrase_heard_iff {session : Session} {world : World} {room : Room} {phrase : Phrase}
    {first : String} {rest : List String} (here : world.currentRoom session = some room)
    (listed : phrase ∈ room.phrases) (plain : ∀ word ∈ first :: rest, IsWord word)
    (spelled : phrase.utterance = Prompt.phrase (first :: rest))
    (unknown : Prompt.verbFor first = none) (undirected : first ∉ Prompt.directions)
    (uncontrolled : first ∉ controls) :
    ∃ sentence, Prompt.read phrase.utterance = .act .fallback sentence
      ∧ ((∃ heard ∈ room.phrases, heard.utterance = phrase.utterance
            ∧ Resolver.cannedPhrase session world sentence = some heard
            ∧ ∀ id, Resolver.interpret session world ⟨id, .fallback, sentence⟩
                = (heard.verb, heard.sentence))
          ↔ ComesThrough first rest) := by
  refine ⟨{ Prompt.sentenceOf rest with verb := first }, ?_, ?_⟩
  · rw [spelled, read_phrase plain, ofWords_of_unknown rest unknown undirected uncontrolled]
  · rw [spelled]
    constructor
    · rintro ⟨heard, -, same, stands, -⟩
      rw [Resolver.cannedPhrase_eq_some_iff] at stands
      obtain ⟨-, tried, -, -, said, -⟩ := stands
      exact comesThrough_of_tried plain (by rw [tried]; simp) (said.symm.trans same)
    · intro through
      obtain ⟨normal, later, tried⟩ := through.tried_first plain
      have known : (room.phraseFor (Prompt.phrase (first :: rest))).isSome := by
        rw [Room.phraseFor, normal, List.find?_isSome]
        exact ⟨phrase, listed, beq_iff_eq.2 spelled⟩
      obtain ⟨heard, hears⟩ := Option.isSome_iff_exists.1 known
      have stands : Resolver.cannedPhrase session world
          { Prompt.sentenceOf rest with verb := first } = some heard := by
        rw [Resolver.cannedPhrase, here, Option.bind_some, tried, List.findSome?_cons, hears]
      refine ⟨heard, List.mem_of_find?_eq_some hears, ?_, stands, fun id => ?_⟩
      · exact (Room.phraseFor_eq_some_iff.1 hears).1.trans normal
      · exact Resolver.interpret_of_standsFor (Resolver.cannedPhrase_eq_some_iff.1 stands) id

/-- A shaft with some phrases. -/
def shaft : Room where
  id := "shaft"
  name := "shaft"
  phrases := [.said "climb down" .exits, .said "climb up" .inventory,
    .said "dig hole with shovel" .idle]

def mine : World :=
  World.addRoom { id := "cottage", start := "shaft" } shaft

/-- The player of a fresh session in the shaft. -/
def miner : Session := .start "player" "cottage" "shaft"

/-- To climb down comes through. -/
theorem typed_phrase_heard_iff_down :
    ComesThrough "climb" ["down"]
      ∧ ∃ sentence, Prompt.read "climb down" = .act .fallback sentence
        ∧ ∃ heard ∈ shaft.phrases, heard.utterance = "climb down"
          ∧ Resolver.cannedPhrase miner mine sentence = some heard
          ∧ ∀ id, Resolver.interpret miner mine ⟨id, .fallback, sentence⟩
              = (heard.verb, heard.sentence) := by
  have through : ComesThrough "climb" ["down"] :=
    .inr ⟨by decide, by decide, split_eq_none_iff.1 rfl⟩
  have plain : ∀ word ∈ ["climb", "down"], IsWord word := by decide +kernel
  have spelled : (Phrase.said "climb down" .exits).utterance = Prompt.phrase ["climb", "down"] := by
    decide +kernel
  obtain ⟨sentence, reads, heard⟩ := @typed_phrase_heard_iff miner mine shaft
    (.said "climb down" .exits) "climb" ["down"] rfl List.mem_cons_self plain spelled rfl
    (by decide) (by decide)
  exact ⟨through, sentence, reads, heard.2 through⟩

/-- To climb up does not, as "up" is dropped, and neither does to dig with a shovel, as the sentence
has the shovel for its object. -/
theorem typed_phrases_unheard :
    (∃ phrase ∈ shaft.phrases, phrase.utterance = "climb up")
      ∧ Prompt.read "climb up" = .act .fallback { verb := "climb" }
      ∧ Resolver.cannedPhrase miner mine { verb := "climb" } = none
      ∧ (∃ phrase ∈ shaft.phrases, phrase.utterance = "dig hole with shovel")
      ∧ Prompt.read "dig hole with shovel"
          = .act .fallback { verb := "dig", subject := "hole", object := "shovel" }
      ∧ Resolver.cannedPhrase miner mine { verb := "dig", subject := "hole", object := "shovel" }
          = none := by
  refine ⟨⟨.said "climb up" .inventory, ?_, by decide +kernel⟩, by decide +kernel, rfl,
    ⟨.said "dig hole with shovel" .idle, ?_, by decide +kernel⟩, by decide +kernel, rfl⟩
  · exact List.mem_cons_of_mem _ List.mem_cons_self
  · exact List.mem_cons_of_mem _ (List.mem_cons_of_mem _ List.mem_cons_self)

end TextAdventure
