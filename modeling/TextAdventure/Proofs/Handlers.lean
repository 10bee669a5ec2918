import TextAdventure.VerbTable
import TextAdventure.Proofs.Content
import TextAdventure.Proofs.Movement
import TextAdventure.Proofs.Resolving

/-!
# What the standard verbs can do

Nothing that a player asks of the standard verbs comes to other scripts than these: words, what the
things that can be addressed give by themselves and to one another, an arrival at the end of a
passage, and the updates of `restart` and `fallback`. So a kind that takes in all of these is that
of every script (`VerbTable.standard_covered`), along whichever way it was come by: by synonyms, by
a thing that doubles as an exit, or by the name of a place. This holds in particular of a kind that
takes in all that the content of the world gives, whatever can be addressed (`Covers.atHand`). If it
is a kind of outcomes that merging keeps, it is that of every outcome
(`Resolver.standard_outcomeIn`).
-/

namespace TextAdventure

/-- A kind of scripts that takes in words, the content of a world, arrivals from the room of a
session, and whatever is put together of these. -/
structure Covers (K : Script → Prop) (w : World) (session : Session) : Prop where
  words : ∀ message context, K (.leaf { message, context })
  content : w.EachCue fun cue => K (.derived cue)
  arrival : ∀ {origin direction destination}, w.Passage session origin direction destination →
    ∀ message,
      K (.leaf { message, update := some (World.arrivalUpdate session origin destination) })
  sequence : ∀ {items}, (∀ item ∈ items, K item) → K (.sequence items)

/-- Words, the content of a world, and arrivals from the room of a session are of a kind. -/
structure Admits (P : Outcome → Prop) (w : World) (session : Session) : Prop where
  words : ∀ message context, P { message, context }
  content : w.ContentAlways P
  arrival : ∀ {origin direction destination}, w.Passage session origin direction destination →
    ∀ message, P { message, update := some (World.arrivalUpdate session origin destination) }

variable {K : Script → Prop} {P : Outcome → Prop} {w : World} {session : Session} {script : Script}

theorem Admits.covers (admits : Admits P w session) : Covers (Script.Always P) w session where
  words message context := .leaf (admits.words message context)
  content := admits.content
  arrival passage message := .leaf (admits.arrival passage message)
  sequence := .sequence

/-- The narration that follows an arrival is the world's own. -/
theorem World.EachCue.ambience (content : w.EachCue fun cue => K (.derived cue)) {room : Room}
    {id : String} (there : w.rooms.get? id = some room) :
    ∀ item ∈ w.ambience session room, K item := by
  intro item mem
  obtain ⟨cue, ambient, rfl⟩ := List.mem_map.1 mem
  rcases List.mem_append.1 ambient with ambient | ambient
  · exact (content.rooms there).ambient (Option.mem_toList.1 ambient)
  · obtain ⟨effect, active, hcue⟩ := List.mem_filterMap.1 ambient
    obtain ⟨id, -, found⟩ := List.mem_filterMap.1 active
    exact (content.effects found).ambient hcue

theorem World.ContentAlways.ambience (content : w.ContentAlways P) {room : Room} {id : String}
    (there : w.rooms.get? id = some room) : ∀ item ∈ w.ambience session room, item.Always P :=
  World.EachCue.ambience content there

/-- Of what comes of the world's things, a kind of scripts takes in that of the things that can be
addressed: their reactions by themselves and to one another. -/
structure CoversAtHand (K : Script → Prop) (w : World) (session : Session) : Prop where
  words : ∀ message context, K (.leaf { message, context })
  alone : ∀ {thing verb handler cue}, thing ∈ w.addressable session →
    thing.handler? verb = some handler → handler.alone = some (.run cue) →
    K (Interaction.cued cue thing)
  together : ∀ {actor target verb handler cue}, actor ∈ w.addressable session →
    target ∈ w.addressable session → actor.handler? verb = some handler →
    handler.to target.id = some (.run cue) → K (.derived cue)
  arrive : ∀ {origin direction destination}, w.Passage session origin direction destination →
    K (w.arrive session origin destination)

theorem Covers.atHand (covers : Covers K w session) : CoversAtHand K w session where
  words := covers.words
  alone {thing _ _ cue} addressed entry reacts := by
    have hcue : K (.derived cue) :=
      ((covers.content.of_addressable addressed).verbs entry).alone reacts
    refine covers.sequence fun item mem => ?_
    simp only [List.mem_cons, List.not_mem_nil, or_false] at mem
    rcases mem with rfl | rfl
    · exact covers.words "" (some thing.reference)
    · exact hcue
  together addressed _ entry reacts :=
    ((covers.content.of_addressable addressed).verbs entry).to reacts
  arrive passage := by
    refine covers.sequence fun item mem => ?_
    rcases List.mem_cons.1 mem with rfl | mem
    · exact covers.arrival passage _
    · exact World.EachCue.ambience covers.content passage.there item mem

namespace CoversAtHand

theorem say (covers : CoversAtHand K w session) (message : String) : K (.say message) :=
  covers.words message none

theorem saysOrArrives (covers : CoversAtHand K w session) (h : w.SaysOrArrives session script) :
    K script := by
  rcases h with ⟨message, rfl⟩ | ⟨origin, direction, destination, passage, rfl⟩
  · exact covers.say message
  · exact covers.arrive passage

end CoversAtHand

namespace Interaction

variable {i : Interaction}

/-- However many synonyms lead there, and also if the thing is walked through. -/
theorem applyAlone_covered (covers : CoversAtHand K w session) {thing : Thing}
    (addressed : thing ∈ w.addressable session) {redirects : Nat} {verb : String}
    (comes : i.applyAlone session w thing redirects verb = some script) : K script := by
  obtain ⟨_, -, last, -, gives⟩ := applyAlone_eq_some_iff.1 comes
  cases gives with
  | @reaction handler reaction entry alone =>
    cases reaction with
    | say text => exact covers.words text (some thing.reference)
    | run cue => exact covers.alone addressed entry alone
  | walk entry passable leads => exact covers.saysOrArrives (w.go_cases session _)

theorem tryApply_covered (covers : CoversAtHand K w session) {actor target : Thing}
    (hactor : actor ∈ w.addressable session) (htarget : target ∈ w.addressable session)
    {redirects : Nat} {verb : String} (comes : tryApply actor target redirects verb = some script) :
    K script := by
  rw [tryApply_eq] at comes
  obtain ⟨reaction, found, rfl⟩ := Option.map_eq_some_iff.1 comes
  obtain ⟨handler, entry, reacts⟩ := Option.bind_eq_some_iff.1 found
  obtain ⟨last, entry⟩ := Thing.handler?_of_entry? entry
  cases reaction with
  | say text => exact covers.say text
  | run cue => exact covers.together hactor htarget entry reacts

theorem applyPair_covered (covers : CoversAtHand K w session) {verb : String}
    {actor target : Thing} (hactor : actor ∈ w.addressable session)
    (htarget : target ∈ w.addressable session)
    (comes : applyPair verb actor target = some script) : K script := by
  rw [applyPair, Option.orElse_eq_orElse, Option.orElse_eq_or, Option.or_eq_some_iff] at comes
  rcases comes with comes | ⟨-, comes⟩
  · exact tryApply_covered covers hactor htarget comes
  · exact tryApply_covered covers htarget hactor comes

/-- What an interaction does with words that mean no thing is of a kind. -/
def FallbackIn (K : Script → Prop) (i : Interaction) (w : World) (session : Session) : Prop :=
  ∀ word script, i.fallback session w word = some script → K script

theorem FallbackIn.of_none (silent : i.fallback = fun _ _ _ => none) :
    i.FallbackIn K w session := by
  intro word script comes
  rw [silent] at comes
  cases comes

theorem applyWord_covered (covers : CoversAtHand K w session)
    (hfallback : i.FallbackIn K w session) (word : Word) : K (i.applyWord session w word) := by
  unfold applyWord
  split
  · rcases comes : i.fallback session w word.key with _ | script
    · exact covers.say _
    · exact hfallback _ _ comes
  · next first others eq =>
    rcases comes : (first :: others).findSome? _ with _ | script
    · exact covers.say _
    · obtain ⟨thing, mem, comes⟩ := List.exists_of_findSome?_eq_some comes
      exact applyAlone_covered covers (World.mem_candidates.1 (eq ▸ mem)).2.1 comes

theorem applyWords_covered (covers : CoversAtHand K w session) (subject object : Word) :
    K (i.applyWords session w subject object) := by
  unfold applyWords
  split
  · exact covers.say _
  · next firstSubject subjects hsubject =>
    split
    · exact covers.say _
    · next firstObject objects hobject =>
      dsimp only
      rcases comes : ((firstSubject :: subjects).filter _).findSome? _ with _ | script
      · exact covers.say _
      · obtain ⟨actor, hactor, comes⟩ := List.exists_of_findSome?_eq_some comes
        obtain ⟨target, htarget, comes⟩ := List.exists_of_findSome?_eq_some comes
        have hactor := hsubject ▸ (List.mem_filter.1 hactor).1
        exact applyPair_covered covers (World.mem_candidates.1 hactor).2.1
          (World.mem_candidates.1 (hobject ▸ htarget)).2.1 comes

theorem handle_covered (covers : CoversAtHand K w session) (hfallback : i.FallbackIn K w session)
    {sentence : Sentence} (comes : i.handle session w sentence = some script) :
    K script := by
  unfold handle at comes
  split at comes
  · cases comes
    exact applyWords_covered covers _ _
  · cases comes
    exact applyWord_covered covers hfallback _
  · cases comes
    exact applyWord_covered covers hfallback _
  · rw [Option.orElse_eq_orElse, Option.orElse_eq_or, Option.or_eq_some_iff] at comes
    rcases comes with comes | ⟨-, comes⟩
    · exact hfallback _ _ comes
    · cases comes
      exact covers.say _

end Interaction

namespace Verbs

theorem lookToward_says {room : Room} {word : String}
    (comes : lookToward session w room word = some script) : ∃ message, script = .say message := by
  obtain ⟨target, -, rfl⟩ := Option.map_eq_some_iff.1 comes
  split
  · exact ⟨_, rfl⟩
  · exact ⟨_, rfl⟩

theorem lookAround_says {word : String} (comes : lookAround session w word = some script) :
    ∃ message, script = .say message := by
  obtain ⟨room, -, comes⟩ := Option.bind_eq_some_iff.1 comes
  unfold lookIn at comes
  split at comes
  · cases comes
    exact ⟨_, rfl⟩
  · split at comes
    · cases comes
      exact ⟨_, rfl⟩
    · split at comes
      · cases comes
        exact ⟨_, rfl⟩
      · split at comes
        · split at comes
          · cases comes
          · cases comes
            exact ⟨_, rfl⟩
        · exact lookToward_says comes

theorem look_fallbackIn (covers : CoversAtHand K w session) :
    look.FallbackIn K w session := by
  intro word script comes
  obtain ⟨message, rfl⟩ := lookAround_says comes
  exact covers.say message

end Verbs

/-- Every script of the standard verbs is of a kind that covers words, arrivals and what is at hand,
and the updates of the two verbs that have one of their own. -/
theorem VerbTable.standard_covered (covers : CoversAtHand K w session) {settings : Settings}
    {prompt : Varying String} {verb : Verb} {handle : VerbHandler} {sentence : Sentence}
    (restarted : verb = .restart →
      ∀ message, K (.leaf { message, update := some (.restart w.start) }))
    (misunderstood : verb = .fallback →
      ∀ message, K (.leaf { message, update := some (Verbs.misunderstanding session) }))
    (stands : standard settings prompt verb = some handle)
    (comes : handle session w sentence = some script) : K script := by
  cases verb
  case move =>
    cases stands
    exact covers.saysOrArrives (Verbs.move_cases comes)
  case moveTo =>
    cases stands
    exact covers.saysOrArrives (Verbs.moveTo_cases comes)
  case inventory =>
    cases stands
    cases comes
    exact covers.say _
  case exits =>
    cases stands
    cases comes
    exact covers.say _
  case restart =>
    cases stands
    obtain ⟨start, -, rfl⟩ := Option.map_eq_some_iff.1 comes
    exact restarted rfl _
  case idle =>
    cases stands
    cases comes
    exact covers.say _
  case fallback =>
    cases stands
    cases comes
    exact misunderstood rfl _
  case look =>
    cases stands
    exact Interaction.handle_covered covers (Verbs.look_fallbackIn covers) comes
  -- The others have nothing to say of words that mean no thing.
  all_goals
    cases stands
    exact Interaction.handle_covered covers (.of_none rfl) comes

namespace Resolver

/-- The resolver with the standard verbs. -/
def standard (wordings settings : Settings) (prompt : Varying String) : Resolver :=
  { verbs := VerbTable.standard wordings prompt, settings }

variable {wordings settings : Settings} {prompt : Varying String} {action : Action}

/-- What has come of an action was performed from a script of the kind. -/
theorem standard_performed (covers : CoversAtHand K w session) {outcome : Outcome}
    (restarted : (interpret session w action).1 = .restart →
      ∀ message, K (.leaf { message, update := some (.restart w.start) }))
    (misunderstood : (interpret session w action).1 = .fallback →
      ∀ message, K (.leaf { message, update := some (Verbs.misunderstanding session) }))
    (comes : (standard wordings settings prompt).outcomeIn session w action = some outcome) :
    ∃ script, K script ∧
      script.perform (interpret session w action).1.name session = some outcome := by
  rw [outcomeIn_eq, scriptIn] at comes
  obtain ⟨script, hscript, hperform⟩ := Option.bind_eq_some_iff.1 comes
  obtain ⟨handle, hhandle, hscript⟩ := Option.bind_eq_some_iff.1 hscript
  exact ⟨script, VerbTable.standard_covered covers restarted misunderstood hhandle hscript,
    hperform⟩

/-- So every outcome is of a kind that merging keeps, if the parts of scripts are. -/
theorem standard_outcomeIn (admits : Admits P w session) (closed : ClosedUnderMerge P)
    {outcome : Outcome}
    (restarted : (interpret session w action).1 = .restart →
      ∀ message, P { message, update := some (.restart w.start) })
    (misunderstood : (interpret session w action).1 = .fallback →
      ∀ message, P { message, update := some (Verbs.misunderstanding session) })
    (comes : (standard wordings settings prompt).outcomeIn session w action = some outcome) :
    P outcome := by
  obtain ⟨script, always, hperform⟩ := standard_performed admits.covers.atHand
    (fun restarts message => .leaf (restarted restarts message))
    (fun misses message => .leaf (misunderstood misses message)) comes
  exact always.outcome closed hperform

end Resolver

end TextAdventure
