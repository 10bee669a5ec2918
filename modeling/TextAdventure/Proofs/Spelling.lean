import TextAdventure.VerbTable
import TextAdventure.Proofs.NormalForms
import TextAdventure.Proofs.Resolving

/-!
# Spelling does not matter

Nothing that the standard verbs are told reaches them but in normal form, and whether it is blank
(`VerbTable.standard_heedsNoSpelling`): directions, pronouns and the names of things and places are
all looked up and said back in normal form. So a player may spell the words of a sentence as they
like, unless nobody has understood it (`Resolver.resolve_respelled`); then the words may stand for a
canned phrase as they were said.
-/

namespace TextAdventure

open Text (Respelled normal_eq_of_respelled blank_iff_of_respelled)

/-- Two sentences that differ in nothing but the spelling of the words in them. -/
structure Sentence.Respelled (s t : Sentence) : Prop where
  subject : Option.Rel Text.Respelled s.subject t.subject
  object : Option.Rel Text.Respelled s.object t.object
  verb : s.verb = t.verb

/-- A handler that makes the same of a sentence however its words are spelled. -/
def VerbHandler.HeedsNoSpelling (handle : VerbHandler) : Prop :=
  ∀ (session : Session) (world : World) {s t : Sentence}, s.Respelled t →
    handle session world s = handle session world t

theorem map_eq_of_respelled {β : Type} {f : String → β} {part other : Option String}
    (respelled : Option.Rel Respelled part other)
    (agrees : ∀ word other, Text.normal word = Text.normal other → f word = f other) :
    part.map f = other.map f := by
  cases respelled with
  | none => rfl
  | some respelled => exact congrArg some (agrees _ _ (normal_eq_of_respelled respelled))

/-! ## Movement -/

theorem World.go_eq_of_normal_eq (w : World) (session : Session) {direction other : String}
    (same : Text.normal direction = Text.normal other) :
    w.go session direction = w.go session other := by
  have full : expandDirection direction = expandDirection other := by
    unfold expandDirection
    rw [same]
  unfold go
  rw [full]

namespace Verbs

theorem move_heedsNoSpelling : VerbHandler.HeedsNoSpelling move := by
  rintro session world s t ⟨subject, -, -⟩
  unfold move
  generalize s.subject = part, t.subject = other at subject
  cases subject with
  | none => rfl
  | @some word other same =>
    have blank := blank_iff_of_respelled same
    by_cases silent : Text.trim word.toList = []
    · rw [Option.filter_some_neg (by simpa using silent),
        Option.filter_some_neg (by simpa using blank.1 silent)]
    · rw [Option.filter_some_pos (by simpa using silent),
        Option.filter_some_pos (by simpa using mt blank.2 silent)]
      exact congrArg some (world.go_eq_of_normal_eq session (normal_eq_of_respelled same))

theorem moveTo_heedsNoSpelling : VerbHandler.HeedsNoSpelling moveTo := by
  intro session world s t respelled
  unfold moveTo
  rw [map_eq_of_respelled respelled.subject fun _ _ same => same]

end Verbs

/-! ## Interactions -/

theorem Word.read_eq_of_normal_eq (session : Session) {raw other : String}
    (same : Text.normal raw = Text.normal other) :
    Word.read session raw = Word.read session other := by
  unfold Word.read resolvePronoun
  rw [same]

theorem Interaction.handle_heedsNoSpelling (i : Interaction) :
    VerbHandler.HeedsNoSpelling i.handle := by
  intro session world s t respelled
  unfold handle wordOf
  rw [map_eq_of_respelled respelled.subject fun _ _ => Word.read_eq_of_normal_eq session,
    map_eq_of_respelled respelled.object fun _ _ => Word.read_eq_of_normal_eq session]

/-! ## Actions -/

/-- Most verbs work through things; the others that read a sentence at all are those that move the
player. -/
theorem VerbTable.standard_heedsNoSpelling {settings : Settings} {prompt : Varying String}
    {verb : Verb} {handle : VerbHandler} (stands : standard settings prompt verb = some handle) :
    handle.HeedsNoSpelling := by
  cases verb
  case move =>
    cases stands
    exact Verbs.move_heedsNoSpelling
  case moveTo =>
    cases stands
    exact Verbs.moveTo_heedsNoSpelling
  case inventory | exits | restart | idle | fallback =>
    cases stands
    intro _ _ _ _ _
    rfl
  all_goals
    cases stands
    exact Interaction.handle_heedsNoSpelling _

namespace Resolver

variable {r : Resolver} {wordings : Settings} {prompt : Varying String} {verb : Verb}
  {s t : Sentence}

theorem outcomeOf_respelled (standard : r.verbs = VerbTable.standard wordings prompt)
    (speaks : verb ≠ .idle) (respelled : s.Respelled t) (session : Session) (world : World) :
    r.outcomeOf session world verb s = r.outcomeOf session world verb t := by
  unfold outcomeOf
  rw [r.handler_of_ne_idle speaks, standard]
  rcases stands : VerbTable.standard wordings prompt verb with _ | handle
  · rfl
  · show (handle session world s).bind _ = (handle session world t).bind _
    rw [VerbTable.standard_heedsNoSpelling stands session world respelled]

/-- A sentence that was understood is resolved in the same way however its words are spelled, by
whatever it is that keeps the sessions: the answer is the same, and so is what is kept. -/
theorem resolve_respelled {κ : Type} (store : Store κ)
    (standard : r.verbs = VerbTable.standard wordings prompt) (id : String)
    (understood : verb ≠ .fallback) (speaks : verb ≠ .idle) (respelled : s.Respelled t) :
    r.resolve store ⟨id, verb, s⟩ = r.resolve store ⟨id, verb, t⟩ := by
  have interpreted (session : Session) (world : World) (sentence : Sentence) :
      interpret session world ⟨id, verb, sentence⟩ = (verb, sentence) :=
    interpret_of_ne_fallback understood session world
  unfold resolve
  simp only [interpreted, outcomeOf_respelled standard speaks respelled]

/-- The player takes the lamp, however they call it. -/
theorem resolve_respelled_lamp :
    (Resolver.mk (VerbTable.standard {} (.fixed "Hello?")) {} none).resolve Memory.store
        ⟨"player", .take, { subject := "lamp" }⟩
      = (Resolver.mk (VerbTable.standard {} (.fixed "Hello?")) {} none).resolve Memory.store
        ⟨"player", .take, { subject := " MY  Lamp\n" }⟩ := by
  have known : ['M', 'y'].map Text.asciiLower ∈ Text.articles := by decide
  have article : Text.Respells "lamp" "My  lamp" := .article known 1 (by decide)
  have letters : Text.Respells "My  lamp" "MY  Lamp" := .letters (by decide)
  have before : ∀ c ∈ [' '], Text.isBlank c := List.forall_mem_singleton.2 (by decide)
  have after : ∀ c ∈ ['\n'], Text.isBlank c := List.forall_mem_singleton.2 (by decide)
  have blanks : Text.Respells "MY  Lamp" " MY  Lamp\n" := .blanks before after
  have respelled : Text.Respelled "lamp" " MY  Lamp\n" :=
    ((Relation.EqvGen.rel _ _ article).trans _ _ _ (.rel _ _ letters)).trans _ _ _
      (.rel _ _ blanks)
  exact resolve_respelled Memory.store rfl "player" (by decide) (by decide)
    ⟨.some respelled, .none, rfl⟩

end Resolver

end TextAdventure
