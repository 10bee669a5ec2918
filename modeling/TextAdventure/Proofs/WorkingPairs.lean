import TextAdventure.Proofs.SilentReactions

/-!
# The first pair that works answers

A sentence with two things tries every pair of candidates, the subjects in their order and with each
of them the objects in theirs (`Interaction.pairs`). The first pair answers in which the subject
reacts to the object or, failing that, the object to the subject (`Interaction.Works`). So an early
pair that works backwards comes before a later one that works forwards. A thing reacts to another
with its entry at the end of its synonyms (`Thing.ReactsTo`), to the other's id rather than to
anything (`Reactions.Chooses`). If no pair works, the player hears that this failed
(`Interaction.AnsweredTogether`, `first_pair_answers`).
-/

namespace TextAdventure

/-! ## Which things react to which -/

/-- The reaction to a thing is the one to its id, or the one to anything if there is none. -/
inductive Reactions.Chooses (r : Reactions) : Option String → Reaction → Prop where
  | own {id : String} {reaction : Reaction} (entry : r.byId.get? id = some reaction) :
      Chooses r (some id) reaction
  | any {id : Option String} {reaction : Reaction} (missing : ∀ own ∈ id, r.byId.get? own = none)
      (entry : r.toAny = some reaction) : Chooses r id reaction

theorem Reactions.to_eq_some_iff {r : Reactions} {id : Option String} {reaction : Reaction} :
    r.to id = some reaction ↔ r.Chooses id reaction := by
  constructor
  · intro reacts
    rcases id with _ | id
    · exact .any (by simp) reacts
    · rcases entry : r.byId.get? id with _ | own
      · exact .any (by simpa using entry) (by simpa [Reactions.to, entry] using reacts)
      · have same : own = reaction := by simpa [Reactions.to, entry] using reacts
        exact .own (same ▸ entry)
  · rintro (⟨entry⟩ | ⟨missing, entry⟩)
    · simp [Reactions.to, entry]
    · rcases id with _ | id
      · exact entry
      · simp [Reactions.to, missing id rfl, entry]

namespace Thing

/-- At most so many synonyms after the verb, a thing has an entry for other things, which chooses a
reaction to this one. -/
def ReactsTo (actor : Thing) (verb : String) (target : Thing) (reaction : Reaction) : Prop :=
  ∃ count ≤ maxRedirects, ∃ last, actor.Redirects count verb last ∧
    ∃ reactions, actor.handler? last = some (.keyed reactions) ∧
      reactions.Chooses target.id reaction

variable {actor target : Thing} {verb : String} {reaction : Reaction}

theorem reactionTo?_eq_some_iff :
    actor.reactionTo? target verb = some reaction ↔ actor.ReactsTo verb target reaction := by
  unfold reactionTo? ReactsTo
  simp only [Option.bind_eq_some_iff, entry?_eq_some_iff]
  constructor
  · rintro ⟨handler, ⟨count, few, last, path, entry, -⟩, reacts⟩
    rcases handler with text | next | reactions | cue <;> try cases reacts
    exact ⟨count, few, last, path, reactions, entry, Reactions.to_eq_some_iff.1 reacts⟩
  · rintro ⟨count, few, last, path, reactions, entry, chooses⟩
    exact ⟨.keyed reactions, ⟨count, few, last, path, entry, nofun⟩,
      Reactions.to_eq_some_iff.2 chooses⟩

theorem reactionTo?_eq_none_iff :
    actor.reactionTo? target verb = none ↔ ∀ reaction, ¬ actor.ReactsTo verb target reaction := by
  simp only [Option.eq_none_iff_forall_ne_some, ne_eq, reactionTo?_eq_some_iff]

end Thing

/-! ## Which pair answers -/

namespace Interaction

/-- What comes of two things: the reaction of the first to the second or, failing that, of the
second to the first. -/
inductive Works (verb : String) (actor target : Thing) : Reaction → Prop where
  | forward {reaction : Reaction} (reacts : actor.ReactsTo verb target reaction) :
      Works verb actor target reaction
  | reversed {reaction : Reaction} (declines : ∀ other, ¬ actor.ReactsTo verb target other)
      (reacts : target.ReactsTo verb actor reaction) : Works verb actor target reaction

/-- The pairs of things that are tried, in the order in which they are. -/
def pairs (verb : String) (subjects objects : List Thing) : List (Thing × Thing) :=
  (subjects.filter (canAct verb)) ×ˢ objects

variable {i : Interaction} {session : Session} {w : World} {verb : String} {actor target : Thing}
  {script : Script}

theorem applyPair_eq_some_iff :
    applyPair verb actor target = some script ↔
      ∃ reaction, Works verb actor target reaction ∧ reaction.script = script := by
  rw [applyPair_eq]
  constructor
  · intro comes
    obtain ⟨reaction, reacts, rfl⟩ := Option.map_eq_some_iff.1 comes
    refine ⟨reaction, ?_, rfl⟩
    rcases forward : actor.reactionTo? target verb with _ | own
    · rw [forward] at reacts
      exact .reversed (Thing.reactionTo?_eq_none_iff.1 forward)
        (Thing.reactionTo?_eq_some_iff.1 reacts)
    · rw [forward] at reacts
      cases reacts
      exact .forward (Thing.reactionTo?_eq_some_iff.1 forward)
  · rintro ⟨reaction, ⟨reacts⟩ | ⟨declines, reacts⟩, rfl⟩
    · rw [Thing.reactionTo?_eq_some_iff.2 reacts]
      rfl
    · rw [Thing.reactionTo?_eq_none_iff.2 declines, Thing.reactionTo?_eq_some_iff.2 reacts]
      rfl

theorem applyPair_eq_none_iff :
    applyPair verb actor target = none ↔ ∀ reaction, ¬ Works verb actor target reaction := by
  simp only [Option.eq_none_iff_forall_ne_some, ne_eq, applyPair_eq_some_iff, not_exists, not_and]
  exact ⟨fun none reaction works => none _ reaction works rfl, fun none _ reaction works _ =>
    none reaction works⟩

/-- What the verb gives for two words: the first pair that works answers, the failure is told if
both words mean something but no pair works, and the first word that means nothing is missing. -/
inductive AnsweredTogether (i : Interaction) (session : Session) (w : World)
    (subject object : Word) : Script → Prop where
  | pair {subjects objects : List Thing} {before after : List (Thing × Thing)}
      {actor target : Thing} {reaction : Reaction}
      (subjectsFound : w.candidates session subject.key = subjects)
      (objectsFound : w.candidates session object.key = objects)
      (tried : pairs i.verb.name subjects objects = before ++ (actor, target) :: after)
      (idle : ∀ other ∈ before, ∀ reaction, ¬ Works i.verb.name other.1 other.2 reaction)
      (works : Works i.verb.name actor target reaction) :
      AnsweredTogether i session w subject object reaction.script
  | failure {firstSubject firstObject : Thing} {subjects objects : List Thing}
      (subjectsFound : w.candidates session subject.key = firstSubject :: subjects)
      (objectsFound : w.candidates session object.key = firstObject :: objects)
      (idle : ∀ pair ∈ pairs i.verb.name (firstSubject :: subjects) (firstObject :: objects),
        ∀ reaction, ¬ Works i.verb.name pair.1 pair.2 reaction) :
      AnsweredTogether i session w subject object
        (.say (i.fill i.failureTogether (subject.nameFor firstSubject)
          (object.nameFor firstObject)))
  | noSubject (missing : w.candidates session subject.key = []) :
      AnsweredTogether i session w subject object (.say (i.fill i.missing subject.key ""))
  | noObject (found : w.candidates session subject.key ≠ [])
      (missing : w.candidates session object.key = []) :
      AnsweredTogether i session w subject object (.say (i.fill i.missing object.key ""))

theorem findSome?_pairs (verb : String) (subjects objects : List Thing) :
    (pairs verb subjects objects).findSome? (fun pair => applyPair verb pair.1 pair.2)
      = (subjects.filter (canAct verb)).findSome? fun actor =>
          objects.findSome? (applyPair verb actor) :=
  findSome?_product (applyPair verb) objects _

theorem answered_applyWords (subject object : Word) :
    i.AnsweredTogether session w subject object (i.applyWords session w subject object) := by
  unfold applyWords
  split
  · next missing => exact .noSubject missing
  · next firstSubject subjects subjectsFound =>
    split
    · next missing => exact .noObject (by simp [subjectsFound]) missing
    · next firstObject objects objectsFound =>
      dsimp only
      rw [← findSome?_pairs]
      rcases comes : (pairs _ (firstSubject :: subjects) (firstObject :: objects)).findSome? _
        with _ | script
      · exact .failure subjectsFound objectsFound fun pair mem =>
          applyPair_eq_none_iff.1 (List.findSome?_eq_none_iff.1 comes pair mem)
      · obtain ⟨before, ⟨actor, target⟩, after, tried, takes, idle⟩ :=
          List.findSome?_eq_some_iff.1 comes
        obtain ⟨reaction, works, rfl⟩ := applyPair_eq_some_iff.1 takes
        exact .pair subjectsFound objectsFound tried
          (fun other mem => applyPair_eq_none_iff.1 (idle other mem)) works

theorem AnsweredTogether.applyWords_eq {subject object : Word}
    (answered : i.AnsweredTogether session w subject object script) :
    i.applyWords session w subject object = script := by
  unfold applyWords
  cases answered with
  | @pair subjects objects before after actor target reaction subjectsFound objectsFound tried idle
      works =>
    have first : (pairs i.verb.name subjects objects).findSome?
        (fun pair => applyPair i.verb.name pair.1 pair.2) = some reaction.script :=
      List.findSome?_eq_some_iff.2 ⟨before, (actor, target), after, tried,
        applyPair_eq_some_iff.2 ⟨reaction, works, rfl⟩,
        fun other mem => applyPair_eq_none_iff.2 (idle other mem)⟩
    rcases subjects with _ | ⟨firstSubject, subjects⟩
    · simp [pairs] at tried
    · rcases objects with _ | ⟨firstObject, objects⟩
      · simp [pairs] at tried
      · rw [findSome?_pairs] at first
        simp only [subjectsFound, objectsFound, first, Option.getD_some]
  | failure subjectsFound objectsFound idle =>
    have none := List.findSome?_eq_none_iff.2 fun pair mem =>
      (show applyPair i.verb.name pair.1 pair.2 = none from
        applyPair_eq_none_iff.2 (idle pair mem))
    rw [findSome?_pairs] at none
    simp only [subjectsFound, objectsFound, none, Option.getD_none]
  | noSubject missing => simp only [missing]
  | noObject found missing =>
    split
    · next none => exact absurd none found
    · simp only [missing]

end Interaction

/-- The verb gives for two words what they are to be answered with, and no other script: the first
pair that works answers, and the failure is told just if none does. That is also what it gives for
every sentence with these two words. -/
theorem first_pair_answers (i : Interaction) (session : Session) (w : World)
    (subject object : Word) :
    (∀ script, i.applyWords session w subject object = script ↔
      i.AnsweredTogether session w subject object script) ∧
    ∀ sentence, Interaction.wordsOf session sentence = [subject, object] →
      i.handle session w sentence = some (i.applyWords session w subject object) := by
  refine ⟨fun script => ⟨?_, fun answered => answered.applyWords_eq⟩,
    fun _ named => Interaction.handle_two i session w named⟩
  rintro rfl
  exact Interaction.answered_applyWords subject object

end TextAdventure
