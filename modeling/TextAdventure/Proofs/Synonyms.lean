import TextAdventure.Proofs.LowerCase
import TextAdventure.Proofs.Recasting
import TextAdventure.Proofs.SilentReactions
import TextAdventure.VerbTable

/-!
# Synonyms spelled out

A thing whose entry for a verb is a synonym takes the verb as it takes the other one. If it has the
entry of the other verb there instead, it answers one word as before, and it reacts to others as
before. But which things may be the subject of two words is asked of the entry as it stands, so a
synonym hides reactions that its thing has to other things, unless the thing has an id. Hence the
spelled-out thing may stand for the other one just if the thing has an id, or the entry holds no
reactions to others, or no word means the thing (`synonym_unfolds_iff`).
-/

namespace TextAdventure

namespace Thing

/-- A thing takes a verb as another one, for which it has an entry that is no synonym. -/
def StandsFor (thing : Thing) (verb : String) (handler : Handler) : Prop :=
  ∃ other, thing.handler? verb = some (.synonym other) ∧ thing.handler? other = some handler ∧
    ∀ next, handler ≠ .synonym next

/-- A thing is the same as before, or the one that another has replaced. -/
def Replaced (thing other : Thing) (before after : Thing) : Prop :=
  after = before ∨ before = thing ∧ after = other

/-- Some word that is not blank means the thing. -/
def IsAddressable (thing : Thing) : Prop :=
  ∃ word, Text.normal word ≠ "" ∧ thing.answersTo (Text.normal word)

variable {thing : Thing} {verb : String} {handler : Handler}

theorem handler?_on (thing : Thing) (verb : String) (handler : Handler) (other : String) :
    (thing.on verb handler).handler? other
      = if other = verb then some handler else thing.handler? other :=
  thing.verbs.get?_insert verb handler other

theorem canAct_on :
    Interaction.canAct verb (thing.on verb handler) = (thing.id.isSome || handler.isKeyed) := by
  rw [Interaction.canAct, handler?_on, if_pos rfl]
  rfl

theorem Replaced.alike {t t' : Thing} (replaced : thing.Replaced (thing.on verb handler) t t') :
    t' = { t with verbs := t'.verbs } := by
  rcases replaced with rfl | ⟨rfl, rfl⟩ <;> rfl

namespace StandsFor

variable (stands : thing.StandsFor verb handler)
include stands

theorem entry?_eq : thing.entry? maxRedirects verb = some handler := by
  obtain ⟨other, synonym, entry, final⟩ := stands
  exact entry?_eq_some_iff.2 ⟨1, by decide, other, .next synonym (.here other), entry, final⟩

theorem entry?_on_eq : Thing.entry? (thing.on verb handler) maxRedirects verb = some handler := by
  obtain ⟨_, -, -, final⟩ := stands
  refine entry?_eq_some_iff.2 ⟨0, by decide, verb, .here verb, ?_, final⟩
  rw [handler?_on, if_pos rfl]

theorem entry?_eq_of_replaced {t t' : Thing}
    (replaced : thing.Replaced (thing.on verb handler) t t') :
    t.entry? maxRedirects verb = t'.entry? maxRedirects verb := by
  rcases replaced with rfl | ⟨rfl, rfl⟩
  · rfl
  · rw [stands.entry?_eq, stands.entry?_on_eq]

theorem canAct_eq : Interaction.canAct verb thing = thing.id.isSome := by
  obtain ⟨other, synonym, -, -⟩ := stands
  simp [Interaction.canAct, synonym, Handler.isKeyed]

end StandsFor

end Thing

/-! ## What a sentence gives in a world with the spelled-out thing -/

namespace Interaction

variable {i : Interaction} {session : Session} {w w' : World} {thing : Thing} {handler : Handler}
  (stands : thing.StandsFor i.verb.name handler)
  (recast : w.Recast (thing.Replaced (thing.on i.verb.name handler)) w')
include stands

theorem applyPair_eq_of_replaced {s s' o o' : Thing}
    (subject : thing.Replaced (thing.on i.verb.name handler) s s')
    (object : thing.Replaced (thing.on i.verb.name handler) o o') :
    applyPair i.verb.name s o = applyPair i.verb.name s' o' := by
  have ids : s'.id = s.id ∧ o'.id = o.id := by
    rw [subject.alike, object.alike]
    exact ⟨rfl, rfl⟩
  rw [applyPair_eq, applyPair_eq, Thing.reactionTo?, Thing.reactionTo?, Thing.reactionTo?,
    Thing.reactionTo?, ids.1, ids.2, stands.entry?_eq_of_replaced subject,
    stands.entry?_eq_of_replaced object]

include recast

theorem applyAlone_eq_of_replaced (session : Session) {t t' : Thing}
    (replaced : thing.Replaced (thing.on i.verb.name handler) t t') :
    i.applyAlone session w t maxRedirects i.verb.name
      = i.applyAlone session w' t' maxRedirects i.verb.name := by
  rw [applyAlone_congr fun _ => recast.go_eq (fun _ _ => Thing.Replaced.alike) session]
  rcases replaced with rfl | ⟨rfl, rfl⟩
  · rfl
  · rw [applyAlone_of_entry stands.entry?_eq, applyAlone_of_entry stands.entry?_on_eq]
    rfl

theorem applyWord_eq_of_replaced (fallback : i.fallback session w = i.fallback session w')
    (word : Word) : i.applyWord session w word = i.applyWord session w' word := by
  have found := recast.candidates (fun _ _ => Thing.Replaced.alike) session word.key
  unfold applyWord
  generalize w.candidates session word.key = things,
    w'.candidates session word.key = things' at found
  have takes := findSome?_eq_of_rel found fun _ _ =>
    applyAlone_eq_of_replaced stands recast session
  rcases found with _ | @⟨first, first', _, _, replaced, _⟩
  · rw [fallback]
  · have name : word.nameFor first = word.nameFor first' := by
      rw [replaced.alike]
      rfl
    simp only [takes, name]

theorem applyWords_eq_of_replaced (subject object : Word)
    (act : ∀ t ∈ w.candidates session subject.key, ∀ t',
      thing.Replaced (thing.on i.verb.name handler) t t' →
        canAct i.verb.name t = canAct i.verb.name t') :
    i.applyWords session w subject object = i.applyWords session w' subject object := by
  have subjects := recast.candidates (fun _ _ => Thing.Replaced.alike) session subject.key
  have objects := recast.candidates (fun _ _ => Thing.Replaced.alike) session object.key
  unfold applyWords
  generalize w.candidates session subject.key = things,
    w'.candidates session subject.key = things' at subjects act
  generalize w.candidates session object.key = others,
    w'.candidates session object.key = others' at objects
  have both := (List.forall₂_and_left things things').2 ⟨act, subjects⟩
  have acting := List.rel_filter (p := canAct i.verb.name) (q := canAct i.verb.name)
    (fun t t' h => iff_of_eq (congrArg (· = true) (h.1 t' h.2))) both
  have works := findSome?_eq_of_rel acting fun _ _ subject =>
    findSome?_eq_of_rel objects fun _ _ => applyPair_eq_of_replaced stands subject.2
  rcases subjects with _ | @⟨s, s', _, _, subject', _⟩
  · rfl
  · rcases objects with _ | @⟨o, o', _, _, object', _⟩
    · rfl
    · have names : subject.nameFor s = subject.nameFor s'
          ∧ object.nameFor o = object.nameFor o' := by
        rw [subject'.alike, object'.alike]
        exact ⟨rfl, rfl⟩
      simp only [works, names]

/-- A sentence gives the same if none of its subjects stands in the place of another thing that may
act where it may not. -/
theorem handle_eq_of_replaced (fallback : i.fallback session w = i.fallback session w')
    {sentence : Sentence}
    (act : ∀ subject object, wordsOf session sentence = [subject, object] →
      ∀ t ∈ w.candidates session subject.key, ∀ t',
        thing.Replaced (thing.on i.verb.name handler) t t' →
          canAct i.verb.name t = canAct i.verb.name t') :
    i.handle session w sentence = i.handle session w' sentence := by
  have word := applyWord_eq_of_replaced stands recast fallback
  unfold handle
  unfold wordsOf at act
  split
  · next subject object named named' =>
    rw [applyWords_eq_of_replaced stands recast subject object]
    exact act subject object (by rw [named, named']; rfl)
  · rw [word]
  · rw [word]
  · rw [fallback]

end Interaction

/-! ## Where the spelled-out thing may stand for the other one -/

/-- Whatever worlds differ in nothing but that a thing is replaced by another in some places, the
interactions for a verb make the same of the sentences in both, provided that they give the same
answers of their own to words that mean nothing. -/
def Thing.MayReplace (verb : Verb) (thing other : Thing)
    (sentences : World → Session → Sentence → Prop) : Prop :=
  ∀ (i : Interaction) (session : Session) (w w' : World) (sentence : Sentence), i.verb = verb →
    w.Recast (thing.Replaced other) w' → i.fallback session w = i.fallback session w' →
      sentences w session sentence → i.handle session w sentence = i.handle session w' sentence

/-- A thing is not among those that the first of two words means. -/
def Thing.IsNoSubject (thing : Thing) (w : World) (session : Session) (sentence : Sentence) :
    Prop :=
  ∀ subject object, Interaction.wordsOf session sentence = [subject, object] →
    thing ∉ w.candidates session subject.key

section

variable {verb : Verb} {thing : Thing} {handler : Handler}
  (stands : thing.StandsFor verb.name handler)
include stands

theorem Thing.StandsFor.mayReplace_noSubject :
    thing.MayReplace verb (thing.on verb.name handler) thing.IsNoSubject := by
  rintro i session w w' sentence rfl recast fallback other
  refine Interaction.handle_eq_of_replaced stands recast fallback ?_
  rintro subject object named t mem t' (rfl | ⟨rfl, -⟩)
  · rfl
  · exact absurd mem (other subject object named)

theorem Thing.StandsFor.mayReplace_always
    (free : thing.id.isSome ∨ handler.isKeyed = false ∨ ¬ thing.IsAddressable) :
    thing.MayReplace verb (thing.on verb.name handler) fun _ _ _ => True := by
  rintro i session w w' sentence rfl recast fallback -
  refine Interaction.handle_eq_of_replaced stands recast fallback ?_
  rintro subject object - t mem t' (rfl | ⟨rfl, rfl⟩)
  · rfl
  · rw [stands.canAct_eq, Thing.canAct_on]
    rcases free with named | plain | hidden
    · rw [named, Bool.true_or]
    · rw [plain, Bool.or_false]
    · obtain ⟨spoken, -, answers⟩ := World.mem_candidates.1 mem
      exact absurd ⟨subject.key, spoken, answers⟩ hidden

end

/-! ## A synonym that hides a reaction -/

/-- A world with an effect. -/
def dream (things : List Thing) : World :=
  World.addEffect { id := "cottage", start := "bed" } { id := "dream", things }

/-- The session of a player under this effect. -/
def dreamer : Session :=
  { Session.start "player" "cottage" "bed" with effects := .singleton "dream" }

theorem addressable_dream (things : List Thing) : (dream things).addressable dreamer = things := by
  have active : (dream things).effectThings dreamer = things := List.append_nil things
  have present : (dream things).presentThings dreamer = [] := rfl
  have carried : (dream things).carriedThings dreamer = [] := rfl
  rw [World.addressable, active, present, carried, List.append_nil, List.append_nil]

theorem recast_dream {R : Thing → Thing → Prop} {things things' : List Thing}
    (rel : List.Forall₂ R things things') : (dream things).Recast R (dream things') where
  otherwise := rfl
  rooms _ := .none
  items _ := .none
  effects id := by
    unfold dream World.addEffect
    rw [Catalog.get?_file, Catalog.get?_file]
    split
    · exact .some ⟨things', rel, rfl⟩
    · exact .none

/-- A thing without an id that goes by the same words and reacts to everything, but at the end of a
synonym. -/
def Thing.echo (thing : Thing) (verb : String) : Thing :=
  { keys := thing.keys : Thing }.on "" (.keyed { toAny := some (.say "") })
    |>.on verb (.synonym "")

namespace Interaction

theorem fill_plain (i : Interaction) (subject object : String) :
    i.fill "" subject object = "" ∧ i.fill "!" subject object = "!" := by
  simp [fill, Text.replaceAll, Text.stripStart?]

variable {verb : Verb} {thing : Thing} {handler : Handler} {word : String}

theorem standsFor_echo (thing : Thing) (verb : Verb) :
    (thing.echo verb.name).StandsFor verb.name (.keyed { toAny := some (.say "") }) := by
  have name : "" ≠ verb.name := by cases verb <;> decide
  refine ⟨"", ?_, ?_, nofun⟩
  · rw [Thing.echo, Thing.handler?_on, if_pos rfl]
  · rw [Thing.echo, Thing.handler?_on, if_neg name, Thing.handler?_on, if_pos rfl]

theorem candidates_echo (spoken : Text.normal word ≠ "") (mem : Text.normal word ∈ thing.keys)
    {first : Thing} (same : first.keys = thing.keys) :
    (dream [first, thing.echo verb.name]).candidates dreamer (Text.normal word)
      = [first, thing.echo verb.name] := by
  have both : first.answersTo (Text.normal word)
      ∧ (thing.echo verb.name).answersTo (Text.normal word) := by
    simp [Thing.answersTo, same, Thing.echo, Thing.on, mem]
  unfold World.candidates
  rw [Text.normal_normal, addressable_dream]
  simp [spoken, both]

/-- Neither the thing nor its echo has an id, so with their synonyms neither may act. -/
theorem applyWords_echo (stands : thing.StandsFor verb.name handler) (nameless : thing.id = none)
    (spoken : Text.normal word ≠ "") (mem : Text.normal word ∈ thing.keys) {i : Interaction}
    (same : i.verb = verb) :
    ∃ name, i.applyWords dreamer (dream [thing, thing.echo verb.name]) (.said word) (.said word)
      = .say (i.fill i.failureTogether name name) := by
  have idle : [thing, thing.echo verb.name].filter (canAct verb.name) = [] := by
    have echo : (thing.echo verb.name).id = none := rfl
    simp only [List.filter_cons, stands.canAct_eq, (standsFor_echo thing verb).canAct_eq, nameless,
      echo]
    rfl
  refine ⟨(Word.said word).nameFor thing, ?_⟩
  unfold applyWords
  rw [Word.said, candidates_echo spoken mem rfl, same]
  dsimp only
  rw [idle]
  rfl

theorem reactionTo?_echo (thing other : Thing) (verb : Verb) :
    (thing.echo verb.name).reactionTo? other verb.name = some (.say "") := by
  rw [Thing.reactionTo?, (standsFor_echo thing verb).entry?_eq]
  rcases id : other.id with _ | id <;> rfl

/-- With the synonym spelled out, the thing may act, and something comes of it and its echo. -/
theorem applyWords_on_echo (verb : Verb) (keyed : handler.isKeyed) (spoken : Text.normal word ≠ "")
    (mem : Text.normal word ∈ thing.keys) :
    ∃ script, ∀ i : Interaction, i.verb = verb →
      i.applyWords dreamer (dream [thing.on verb.name handler, thing.echo verb.name]) (.said word)
        (.said word) = script := by
  have acting : ∃ others, [thing.on verb.name handler, thing.echo verb.name].filter
      (canAct verb.name) = thing.on verb.name handler :: others := by
    refine ⟨_, List.filter_cons_of_pos ?_⟩
    rw [Thing.canAct_on, keyed, Bool.or_true]
  have works : ([thing.on verb.name handler, thing.echo verb.name].findSome?
      (applyPair verb.name (thing.on verb.name handler))).isSome := by
    refine List.findSome?_isSome_iff.2 ⟨_, List.mem_cons_of_mem _ List.mem_cons_self, ?_⟩
    rw [applyPair_eq, reactionTo?_echo]
    rcases (thing.on verb.name handler).reactionTo? (thing.echo verb.name) verb.name <;> rfl
  obtain ⟨others, acting⟩ := acting
  obtain ⟨script, first⟩ := Option.isSome_iff_exists.1 works
  have found : (dream [thing.on verb.name handler, thing.echo verb.name]).candidates dreamer
      (Text.normal word) = [thing.on verb.name handler, thing.echo verb.name] :=
    candidates_echo spoken mem rfl
  refine ⟨script, fun i same => ?_⟩
  unfold applyWords
  rw [Word.said, found, same]
  dsimp only
  rw [acting, List.findSome?_cons, first]
  rfl

end Interaction

theorem Thing.StandsFor.not_mayReplace {verb : Verb} {thing : Thing} {handler : Handler}
    (stands : thing.StandsFor verb.name handler) (nameless : thing.id = none)
    (keyed : handler.isKeyed) (addressable : thing.IsAddressable) :
    ¬ thing.MayReplace verb (thing.on verb.name handler) fun _ _ _ => True := by
  intro may
  obtain ⟨word, spoken, answers⟩ := addressable
  have mem : Text.normal word ∈ thing.keys := by
    simpa [Thing.answersTo, nameless] using answers
  have named : Interaction.wordsOf dreamer { subject := word, object := word }
      = [.said word, .said word] := by
    rw [Interaction.wordsOf, Interaction.wordOf_said _ spoken (.inr rfl)]
    rfl
  obtain ⟨script, works⟩ := Interaction.applyWords_on_echo verb keyed spoken mem
  have recast : (dream [thing, thing.echo verb.name]).Recast
      (thing.Replaced (thing.on verb.name handler))
      (dream [thing.on verb.name handler, thing.echo verb.name]) :=
    recast_dream (.cons (.inr ⟨rfl, rfl⟩) (.cons (.inl rfl) .nil))
  -- the synonym has every failure told, but what comes of the spelled-out thing is always the same
  have tells (failure : String) : ∃ name, script
      = .say (Interaction.fill { verb, failureTogether := failure } failure name name) := by
    obtain ⟨name, fails⟩ := Interaction.applyWords_echo
      (i := { verb, failureTogether := failure }) stands nameless spoken mem rfl
    refine ⟨name, Eq.trans ?_ fails⟩
    have same := may { verb, failureTogether := failure } dreamer _ _
      { subject := word, object := word } rfl recast rfl trivial
    rw [Interaction.handle_two _ _ _ named, Interaction.handle_two _ _ _ named] at same
    exact (works _ rfl).symm.trans (Option.some.inj same).symm
  obtain ⟨name, one⟩ := tells ""
  obtain ⟨name', other⟩ := tells "!"
  rw [(Interaction.fill_plain _ _ _).1] at one
  rw [(Interaction.fill_plain _ _ _).2, one] at other
  exact absurd other (by simp [Script.say])

/-- Where a thing takes a verb as another one, it may be replaced by the thing with the entry of the
other verb spelled out, for all sentences but those of two words of which the first one means the
thing, and for these as well just if it has an id, or the entry is for no other things, or no word
means it. -/
theorem synonym_unfolds_iff {verb : Verb} {thing : Thing} {handler : Handler}
    (stands : thing.StandsFor verb.name handler) :
    thing.MayReplace verb (thing.on verb.name handler) thing.IsNoSubject ∧
      ((thing.MayReplace verb (thing.on verb.name handler) fun _ _ _ => True) ↔
        thing.id.isSome ∨ handler.isKeyed = false ∨ ¬ thing.IsAddressable) := by
  refine ⟨stands.mayReplace_noSubject, fun may => ?_, stands.mayReplace_always⟩
  by_contra bound
  simp only [not_or, Bool.not_eq_true, Option.isSome_eq_false_iff, Option.isNone_iff_eq_none,
    Bool.not_eq_false, not_not] at bound
  exact stands.not_mayReplace bound.1 bound.2.1 bound.2.2 may

def reflect : Handler :=
  .keyed { toAny := some (.say "You see it twice."), alone := some (.say "You look tired.") }

/-- A thing with an id that shows itself and others, under another verb. -/
def mirror : Thing :=
  { Thing.called ["mirror"] with id := "mirror" }.on "read" reflect |>.on "look" (.synonym "read")

/-- What comes of looking at anything does not depend on the mirror's entry being spelled out. -/
theorem synonym_unfolds_iff_mirror :
    mirror.StandsFor "look" reflect ∧
      ∀ (session : Session) (w w' : World) (sentence : Sentence),
        w.Recast (mirror.Replaced (mirror.on "look" reflect)) w' →
          Verbs.look.handle session w sentence = Verbs.look.handle session w' sentence := by
  have stands : mirror.StandsFor Verb.look.name reflect := ⟨"read", rfl, rfl, nofun⟩
  refine ⟨stands, fun session w w' sentence recast => ?_⟩
  exact (synonym_unfolds_iff stands).2.2 (.inl rfl) Verbs.look session w w' sentence rfl recast
    (recast.lookAround_eq (fun _ _ => Thing.Replaced.alike) session) trivial

def lash : Handler := .keyed { toAny := some (.say "You lash it to the post.") }

/-- A thing without an id that can be tied to others, under another verb. -/
def post : Thing := (Thing.called ["post"]).on "lash" lash |>.on "tie" (.synonym "lash")

def rope : Thing := { Thing.called ["rope"] with id := "rope" }

/-- The rope can be tied to the post, whose synonym leads to a reaction. The post cannot be tied to
the rope, unless the synonym is spelled out. -/
theorem synonym_hides_reaction :
    post.StandsFor "tie" lash
      ∧ (dream [post, rope]).Recast (post.Replaced (post.on "tie" lash))
          (dream [post.on "tie" lash, rope])
      ∧ Verbs.tie.handle dreamer (dream [post, rope]) { subject := "rope", object := "post" }
        = some (.say "You lash it to the post.")
      ∧ Verbs.tie.handle dreamer (dream [post, rope]) { subject := "post", object := "rope" }
        = some (.say "You can't tie those together.")
      ∧ Verbs.tie.handle dreamer (dream [post.on "tie" lash, rope])
          { subject := "post", object := "rope" }
        = some (.say "You lash it to the post.")
      ∧ ¬ post.MayReplace .tie (post.on "tie" lash) fun _ _ _ => True := by
  have recast : (dream [post, rope]).Recast (post.Replaced (post.on "tie" lash))
      (dream [post.on "tie" lash, rope]) :=
    recast_dream (.cons (.inr ⟨rfl, rfl⟩) (.cons (.inl rfl) .nil))
  have before : Verbs.tie.handle dreamer (dream [post, rope])
      { subject := "post", object := "rope" } = some (.say "You can't tie those together.") := by
    have told : Verbs.tie.fill "You can't tie those together." "post" "rope"
        = "You can't tie those together." := by decide +kernel
    rw [← told]
    rfl
  have after : Verbs.tie.handle dreamer (dream [post.on "tie" lash, rope])
      { subject := "post", object := "rope" } = some (.say "You lash it to the post.") := rfl
  refine ⟨⟨"lash", rfl, rfl, nofun⟩, recast, rfl, before, after, fun may => ?_⟩
  have same := may Verbs.tie dreamer _ _ { subject := "post", object := "rope" } rfl recast rfl
    trivial
  rw [before, after] at same
  exact absurd same (by simp [Script.say])

end TextAdventure
