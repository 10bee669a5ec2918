import Mathlib.Data.List.ProdSigma
import TextAdventure.Proofs.Content
import TextAdventure.Proofs.Resolving
import TextAdventure.Proofs.SpeechTags

/-!
# Reactions that have nothing to say

A thing answers a sentence with the reaction at the end of its synonyms. A cue that reacts to two
things is all that comes of them, so if it gives nothing then nothing comes of the action. A cue
that reacts to one thing follows the part that is about the thing, which is an outcome by itself,
with no message. So there the apology is only given if it says nothing either, and something is
saved unless the session was about the thing already and counted no failures
(`silent_reaction_iff`, `silent_reaction_noticed`).
-/

namespace TextAdventure

theorem findSome?_of_find? {α β : Type} {f : α → Option β} {xs : List α} {x : α}
    (first : xs.find? (fun x => (f x).isSome) = some x) : xs.findSome? f = f x := by
  obtain ⟨finds, before, after, rfl, none_before⟩ := List.find?_eq_some_iff_append.1 first
  obtain ⟨y, hy⟩ := Option.isSome_iff_exists.1 finds
  rw [hy]
  refine List.findSome?_eq_some_iff.2 ⟨before, x, after, rfl, hy, ?_⟩
  intro z mem
  simpa using none_before z mem

theorem findSome?_product {α β γ : Type} (f : α → β → Option γ) (ys : List β) :
    ∀ xs : List α, (xs ×ˢ ys).findSome? (fun pair => f pair.1 pair.2)
      = xs.findSome? fun x => ys.findSome? (f x)
  | [] => rfl
  | x :: xs => by
    rw [List.product_cons, List.findSome?_append, List.findSome?_map, findSome?_product f ys xs,
      List.findSome?_cons]
    show (ys.findSome? (f x)).or _ = _
    cases ys.findSome? (f x) <;> rfl

/-! ## Who answers -/

namespace Interaction

variable (i : Interaction) (session : Session) (w : World)

theorem applyPair_eq (verb : String) (actor target : Thing) :
    applyPair verb actor target
      = (actor.reactionTo? target verb <|> target.reactionTo? actor verb).map Reaction.script := by
  simp only [applyPair, tryApply_eq, Thing.reactionTo?, Option.orElse_eq_orElse,
    Option.orElse_eq_or, Option.map_or]

/-- The words that a sentence names. -/
def wordsOf (sentence : Sentence) : List Word :=
  (wordOf session sentence.subject).toList ++ (wordOf session sentence.object).toList

/-- A word means what was said, unless it is a pronoun that stands for something. -/
theorem wordOf_said {word : String} (spoken : Text.normal word ≠ "")
    (plain : Text.normal word ∉ pronouns ∨ session.context = none) :
    wordOf session (some word) = some (.said word) := by
  have key : resolvePronoun session word = Text.normal word := by
    unfold resolvePronoun
    rcases plain with other | none
    · simp [other]
    · simp [none]
  simp [wordOf, Word.read, Word.said, key, spoken]

/-- The first candidate for a word that can take the verb by itself. -/
def taker? (word : Word) : Option Thing :=
  (w.candidates session word.key).find? fun thing =>
    (i.applyAlone session w thing maxRedirects i.verb.name).isSome

/-- The first candidates for two words that work together. -/
def partners? (subject object : Word) : Option (Thing × Thing) :=
  ((w.candidates session subject.key).filter (canAct i.verb.name) ×ˢ
    w.candidates session object.key).find? fun pair =>
      (applyPair i.verb.name pair.1 pair.2).isSome

theorem handle_one {sentence : Sentence} {word : Word}
    (named : wordsOf session sentence = [word]) :
    i.handle session w sentence = some (i.applyWord session w word) := by
  unfold handle
  unfold wordsOf at named
  split <;> simp_all

theorem handle_two {sentence : Sentence} {subject object : Word}
    (named : wordsOf session sentence = [subject, object]) :
    i.handle session w sentence = some (i.applyWords session w subject object) := by
  unfold handle
  unfold wordsOf at named
  split <;> simp_all

theorem applyWord_of_taker {word : Word} {thing : Thing} {script : Script}
    (takes : i.taker? session w word = some thing)
    (applies : i.applyAlone session w thing maxRedirects i.verb.name = some script) :
    i.applyWord session w word = script := by
  have first := (findSome?_of_find? takes).trans applies
  unfold applyWord
  split
  · next empty => simp [empty] at first
  · next found =>
    rw [← found, first]
    rfl

theorem applyWords_of_partners {subject object : Word} {actor target : Thing} {script : Script}
    (work : i.partners? session w subject object = some (actor, target))
    (applies : applyPair i.verb.name actor target = some script) :
    i.applyWords session w subject object = script := by
  have first := (findSome?_of_find? work).trans applies
  rw [findSome?_product] at first
  unfold applyWords
  split
  · next empty => simp [partners?, empty] at work
  · next subjects =>
    split
    · next empty => simp [partners?, empty] at work
    · next objects =>
      dsimp only
      rw [← subjects, ← objects, first]
      rfl

/-- A sentence is answered by a cue: that of a thing used by itself, which the answer is about, or
that of one of two things used together. -/
inductive Reaches (sentence : Sentence) (cue : Cue) : Option Thing → Prop
  | alone {word : Word} {thing : Thing} (named : wordsOf session sentence = [word])
      (takes : i.taker? session w word = some thing)
      (reacts : thing.reactionAlone? i.verb.name = some (.run cue)) :
      Reaches sentence cue (some thing)
  | together {subject object : Word} {actor target : Thing}
      (named : wordsOf session sentence = [subject, object])
      (work : i.partners? session w subject object = some (actor, target))
      (reacts : (actor.reactionTo? target i.verb.name <|> target.reactionTo? actor i.verb.name)
        = some (.run cue)) :
      Reaches sentence cue none

variable {i session w}

theorem Reaches.handle_eq {sentence : Sentence} {cue : Cue} {about : Option Thing}
    (reaches : i.Reaches session w sentence cue about) :
    i.handle session w sentence = some (about.elim (.derived cue) (cued cue)) := by
  cases reaches with
  | alone named takes reacts =>
    rw [handle_one i session w named,
      applyWord_of_taker i session w takes (applyAlone_of_run i session w reacts)]
    rfl
  | together named work reacts =>
    have applies := applyPair_eq i.verb.name _ _ ▸ congrArg (Option.map Reaction.script) reacts
    rw [handle_two i session w named, applyWords_of_partners i session w work applies]
    rfl

end Interaction

namespace Resolver

/-- The answer is the apology, with no update, and the session is stored as it was. -/
def Apologizes (r : Resolver) (m : Memory) (action : Action) (session : Session) : Prop :=
  ∃ answer, ((r.resolve Memory.store action).run.run m).1 = .ok answer
    ∧ answer.message = Markup.finalize r.settings.speechTag r.settings.apology
    ∧ answer.update = none
    ∧ ((r.resolve Memory.store action).run.run m).2.sessions.get? action.sessionId = some session

theorem isEmpty_savedUpdate_noticed (session : Session) (thing : Thing) :
    (savedUpdate session thing.noticed).isEmpty ↔
      session.failures = 0 ∧ session.context = some thing.reference := by
  unfold savedUpdate Thing.noticed
  simp [Update.isEmpty, Update.empty]

theorem finalize_empty_iff (r : Resolver) :
    Markup.finalize r.settings.speechTag ""
        = Markup.finalize r.settings.speechTag r.settings.apology ↔
      Markup.inner r.settings.speechTag.toList r.settings.apology.toList = [] := by
  have nothing : Markup.inner r.settings.speechTag.toList "".toList = [] := by
    show Text.trim (Markup.stripTag _ []) = []
    rw [Markup.stripTag]
    rfl
  rw [Markup.finalize_eq_iff, nothing]
  exact eq_comm

theorem apologizes_noticed_iff {r : Resolver} {m m' : Memory} {action : Action} {session : Session}
    {thing : Thing} (named : session.id = action.sessionId)
    (resolves : (r.resolve Memory.store action).run.run m
      = (.ok (r.answer thing.noticed (savedUpdate session thing.noticed)),
        m'.write (session.apply (savedUpdate session thing.noticed)))) :
    r.Apologizes m action session ↔
      Markup.inner r.settings.speechTag.toList r.settings.apology.toList = []
        ∧ session.failures = 0 ∧ session.context = some thing.reference := by
  unfold Apologizes
  rw [resolves]
  constructor
  · rintro ⟨_, ⟨⟩, message, update, -⟩
    have empty : (savedUpdate session thing.noticed).isEmpty := by
      by_contra full
      simp [answer, full] at update
    exact ⟨r.finalize_empty_iff.1 message, (isEmpty_savedUpdate_noticed session thing).1 empty⟩
  · rintro ⟨message, quiet⟩
    have empty := (isEmpty_savedUpdate_noticed session thing).2 quiet
    refine ⟨_, rfl, r.finalize_empty_iff.2 message, by simp [answer, empty], ?_⟩
    rw [eq_of_beq empty]
    exact m'.get?_write_of_id named

end Resolver

/-- A cue that a sentence comes to gives nothing. If it reacts to two things, the player gets the
apology and nothing changes. If it reacts to one, that is so only if the apology says nothing, no
failures were counted, and the session was about the thing already. -/
theorem silent_reaction_iff {r : Resolver} {m m' : Memory} {action : Action} {session : Session}
    {world : World} {i : Interaction} {cue : Cue} {about : Option Thing}
    (loaded : (r.loadSession Memory.store action.sessionId).run.run m = (.ok session, m'))
    (registered : m'.worlds.get? session.worldId = some world)
    (stands : r.handler (Resolver.interpret session world action).1 = some i.handle)
    (reaches : i.Reaches session world (Resolver.interpret session world action).2 cue about)
    (silent : (Script.derived cue).perform (Resolver.interpret session world action).1.name session
      = none) :
    (about = none → (r.resolve Memory.store action).run.run m = (.ok r.apology, m'))
      ∧ (r.Apologizes m action session ↔ ∀ thing, about = some thing →
        Markup.inner r.settings.speechTag.toList r.settings.apology.toList = []
          ∧ session.failures = 0 ∧ session.context = some thing.reference) := by
  have stored := r.stored_of_load loaded
  have named : session.id = action.sessionId := m'.sessions.named stored
  have comes : r.outcomeIn session world action = about.map Thing.noticed := by
    rw [r.outcomeIn_eq, Resolver.scriptIn, stands, Option.bind_some, reaches.handle_eq,
      Option.bind_some]
    rcases about with _ | thing
    · exact silent
    · exact (Interaction.perform_cued cue thing _ session).trans (by rw [silent]; rfl)
  have resolves := (r.resolve_of_load loaded).trans (r.resolve_stored stored registered)
  rw [Resolver.answerIn, Resolver.sessionAfter, Resolver.updateIn, comes] at resolves
  rcases about with _ | thing
  · have kept : m'.write session = m' := Memory.write_eq_of_stored (named ▸ stored)
    have apologizes : (r.resolve Memory.store action).run.run m = (.ok r.apology, m') :=
      resolves.trans (congrArg (Prod.mk _) kept)
    refine ⟨fun _ => apologizes, ?_⟩
    simp [Resolver.Apologizes, apologizes, Resolver.apology, stored]
  · refine ⟨by simp, ?_⟩
    rw [Resolver.apologizes_noticed_iff named resolves]
    simp

/-! ## A bell that does not ring -/

/-- Nothing is said. -/
def hush : Cue := fun _ _ => none

def bell : Thing :=
  { Thing.called ["bell"] with id := "bell" }.on "use" (.dynamic hush)

def clapper : Thing :=
  { Thing.called ["clapper"] with id := "clapper" }.on "use" (.keyed { toAny := some (.run hush) })

def belfry : World :=
  World.addRoom { id := "cottage", start := "loft" }
    { id := "loft", name := "Loft", things := [bell, clapper] }

/-- The session of a player in the belfry. -/
def sexton : Session := .start "player" "cottage" "loft"

def inBelfry : Memory :=
  Memory.write { worlds := shelve [belfry] } sexton

/-- A resolver that knows how to use things. -/
def ringer : Resolver :=
  ⟨fun _ => some (Interaction.handle { verb := .use }), {}, none⟩

def ringing (object : Option String) : Action :=
  ⟨"player", .use, { subject := "bell", object }⟩

/-- Used with its clapper, the bell gets the apology. -/
theorem silent_reaction_iff_clapper :
    (ringer.resolve Memory.store (ringing "clapper")).run.run inBelfry
        = (.ok ringer.apology, inBelfry)
      ∧ ringer.Apologizes inBelfry (ringing "clapper") sexton := by
  have work : Interaction.partners? { verb := .use } sexton belfry (.said "bell") (.said "clapper")
      = some (bell, clapper) := rfl
  have reacts : (bell.reactionTo? clapper "use" <|> clapper.reactionTo? bell "use")
      = some (.run hush) := rfl
  obtain ⟨answers, apologizes⟩ := @silent_reaction_iff ringer inBelfry inBelfry (ringing "clapper")
    sexton belfry { verb := .use } hush none rfl rfl rfl (.together rfl work reacts) rfl
  exact ⟨answers rfl, apologizes.2 (by simp)⟩

/-- Used by itself, it gets an answer without a word, and is remembered. -/
theorem silent_reaction_noticed :
    Interaction.Reaches { verb := .use } sexton belfry { subject := "bell" } hush (some bell)
      ∧ (∀ session verb, hush session verb = none)
      ∧ (ringer.resolve Memory.store (ringing none)).run.run inBelfry
        = (.ok { message := "<speak></speak>"
                 update := some { context := some "bell" }
                 context := some "bell" },
          inBelfry.write { sexton with context := some "bell" })
      ∧ ¬ ringer.Apologizes inBelfry (ringing none) sexton := by
  have takes : Interaction.taker? { verb := .use } sexton belfry (.said "bell") = some bell := rfl
  have message : Markup.finalize "speak" "" = "<speak></speak>" := by decide +kernel
  have answers : (ringer.resolve Memory.store (ringing none)).run.run inBelfry
      = (.ok { message := "<speak></speak>"
               update := some { context := some "bell" }
               context := some "bell" },
        inBelfry.write { sexton with context := some "bell" }) := by
    rw [← message]
    rfl
  refine ⟨.alone rfl takes rfl, fun _ _ => rfl, answers, ?_⟩
  rintro ⟨answer, same, -, update, -⟩
  rw [answers] at same
  cases same
  cases update

end TextAdventure
