import TextAdventure.VerbTable
import TextAdventure.Proofs.Resolving

/-!
# Canned phrases

A sentence that nobody understood may stand for a phrase of the room: for the first one with the
first of its utterances that any phrase has (`StandsFor`, `Resolver.cannedPhrase_eq_some_iff`). What
becomes of an action once its session and its world are found depends on it only by the verb and
sentence that it comes to (`Resolver.resolve_eq_scene`). So saying a phrase is the same as doing
what it stands for, over every store, whichever verbs there are and whoever answers `idle`; and if
it stands for nothing, the standard verbs do not care what was said (`phrase_is_its_action`).
-/

namespace TextAdventure

/-! ## Which phrase it is -/

/-- A sentence stands for a phrase of the session's room: no phrase has an utterance that is tried
before, and this is the first phrase with the one that is tried then. -/
inductive StandsFor (session : Session) (world : World) (sentence : Sentence) : Phrase → Prop where
  | intro {room : Room} {phrase : Phrase} {earlier later : List String} {utterance : String}
    {before after : List Phrase} (here : world.currentRoom session = some room)
    (tried : Resolver.utterances sentence = earlier ++ utterance :: later)
    (unknown : ∀ other ∈ earlier, ∀ p ∈ room.phrases, p.utterance ≠ Text.normal other)
    (listed : room.phrases = before ++ phrase :: after)
    (said : phrase.utterance = Text.normal utterance)
    (first : ∀ p ∈ before, p.utterance ≠ Text.normal utterance) :
    StandsFor session world sentence phrase

theorem Room.phraseFor_eq_some_iff {room : Room} {utterance : String} {phrase : Phrase} :
    room.phraseFor utterance = some phrase ↔ phrase.utterance = Text.normal utterance ∧
      ∃ before after, room.phrases = before ++ phrase :: after ∧
        ∀ p ∈ before, p.utterance ≠ Text.normal utterance := by
  simp [phraseFor, List.find?_eq_some_iff_append]

theorem Room.phraseFor_eq_none_iff {room : Room} {utterance : String} :
    room.phraseFor utterance = none ↔ ∀ p ∈ room.phrases, p.utterance ≠ Text.normal utterance := by
  simp [phraseFor]

namespace Resolver

variable {session : Session} {world : World} {sentence : Sentence}

theorem cannedPhrase_eq_some_iff {phrase : Phrase} :
    cannedPhrase session world sentence = some phrase
      ↔ StandsFor session world sentence phrase := by
  rw [cannedPhrase, Option.bind_eq_some_iff]
  constructor
  · rintro ⟨room, here, found⟩
    obtain ⟨earlier, utterance, later, tried, hears, unknown⟩ := List.findSome?_eq_some_iff.1 found
    obtain ⟨said, before, after, listed, first⟩ := Room.phraseFor_eq_some_iff.1 hears
    exact .intro here tried (fun other mem => Room.phraseFor_eq_none_iff.1 (unknown other mem))
      listed said first
  · rintro ⟨here, tried, unknown, listed, said, first⟩
    refine ⟨_, here, List.findSome?_eq_some_iff.2 ⟨_, _, _, tried, ?_, fun other mem => ?_⟩⟩
    · exact Room.phraseFor_eq_some_iff.2 ⟨said, _, _, listed, first⟩
    · exact Room.phraseFor_eq_none_iff.2 (unknown other mem)

theorem cannedPhrase_eq_none_iff :
    cannedPhrase session world sentence = none
      ↔ ∀ phrase, ¬ StandsFor session world sentence phrase := by
  simp only [Option.eq_none_iff_forall_ne_some, ne_eq, cannedPhrase_eq_some_iff]

/-! ## What becomes of an action -/

variable {κ : Type} (r : Resolver) (store : Store κ)

/-- The session of a player, which begins if there is none, and its world. -/
def scene (id : String) : Attempt κ ResolveError (Session × World) := do
  let session ← r.loadSession store id
  let world ← during (.loading session.worldId session.id) (store.world session.worldId)
  return (session, world)

/-- The answer to what an action comes to, of which what it changes is saved. -/
def carryOut (session : Session) (world : World) (verb : Verb) (sentence : Sentence) :
    Attempt κ ResolveError Outcome :=
  match r.outcomeOf session world verb sentence with
  | none => return r.apology
  | some outcome => do
    let saved ← persist store session verb outcome
    return r.answer outcome saved

theorem resolve_eq_scene (action : Action) :
    r.resolve store action = r.scene store action.sessionId >>= fun found =>
      r.carryOut store found.1 found.2 (interpret found.1 found.2 action).1
        (interpret found.1 found.2 action).2 := by
  unfold resolve scene
  simp only [bind_assoc, pure_bind]
  rfl

variable {r store}

/-- Where the session and its world are found, an action is resolved by carrying out what it comes
to there. -/
theorem run_resolve {id : String} {asked verb : Verb} {said : Sentence} {k k' : κ}
    (found : (r.scene store id).run.run k = (.ok (session, world), k'))
    (comes : interpret session world ⟨id, asked, said⟩ = (verb, sentence)) :
    (r.resolve store ⟨id, asked, said⟩).run.run k
      = (r.carryOut store session world verb sentence).run.run k' := by
  rw [resolve_eq_scene, Attempt.run_bind_ok found, comes]

theorem interpret_of_standsFor {phrase : Phrase}
    (stands : StandsFor session world sentence phrase) (id : String) :
    interpret session world ⟨id, .fallback, sentence⟩ = (phrase.verb, phrase.sentence) := by
  rw [interpret, cannedPhrase_eq_some_iff.2 stands]

theorem interpret_of_silent (silent : ∀ phrase, ¬ StandsFor session world sentence phrase)
    (id : String) :
    interpret session world ⟨id, .fallback, sentence⟩ = (.fallback, sentence) := by
  rw [interpret, cannedPhrase_eq_none_iff.2 silent]

/-- The standard `fallback` does not listen. -/
theorem carryOut_fallback {wordings : Settings} {prompt : Varying String}
    (standard : r.verbs = VerbTable.standard wordings prompt) (s t : Sentence) :
    r.carryOut store session world .fallback s = r.carryOut store session world .fallback t := by
  have same : r.outcomeOf session world .fallback s = r.outcomeOf session world .fallback t := by
    unfold outcomeOf
    rw [r.handler_of_ne_idle (by decide), standard]
    rfl
  rw [carryOut, carryOut, same]

/-- Wherever the session of a player and its world are found, a sentence that stands for a phrase is
resolved as what the phrase says: the answer is the same, and so is what the store keeps. With the
standard verbs all sentences that stand for no phrase are resolved alike. -/
theorem phrase_is_its_action {id : String} {k k' : κ}
    (found : (r.scene store id).run.run k = (.ok (session, world), k')) :
    (∀ sentence phrase, StandsFor session world sentence phrase → phrase.verb ≠ .fallback →
      (r.resolve store ⟨id, .fallback, sentence⟩).run.run k
        = (r.resolve store ⟨id, phrase.verb, phrase.sentence⟩).run.run k) ∧
    ∀ wordings prompt, r.verbs = VerbTable.standard wordings prompt → ∀ s t : Sentence,
      (∀ phrase, ¬ StandsFor session world s phrase) →
      (∀ phrase, ¬ StandsFor session world t phrase) →
      (r.resolve store ⟨id, .fallback, s⟩).run.run k
        = (r.resolve store ⟨id, .fallback, t⟩).run.run k := by
  constructor
  · intro sentence phrase stands understood
    rw [run_resolve found (interpret_of_standsFor stands id)]
    exact (run_resolve found (interpret_of_ne_fallback understood session world)).symm
  · intro wordings prompt standard s t silent silent'
    rw [run_resolve found (interpret_of_silent silent id),
      run_resolve found (interpret_of_silent silent' id), carryOut_fallback standard s t]

end Resolver

/-- A loft with a bell, for which three phrases are known. -/
def steeple : World :=
  World.addRoom { id := "cottage", start := "loft" }
    { id := "loft", name := "loft",
      phrases := [.said "bell" .inventory, .said "Ring Bell" .idle, .said "ring bell" .restart] }

/-- A resolver that has its own answer to `idle`. -/
def bellRinger : Resolver :=
  ⟨VerbTable.standard {} (.fixed "Hello?"), {}, some fun _ _ _ => some (.say "Ding!")⟩

/-- Nobody is in the steeple yet when the bell is rung. -/
theorem phrase_is_its_action_steeple :
    let m : Memory := { worlds := shelve [steeple] }
    let session := Session.start "player" "cottage" "loft"
    let ring : Sentence := { verb := "ring", subject := "bell" }
    (bellRinger.scene Memory.store "player").run.run m = (.ok (session, steeple), m.write session)
      ∧ StandsFor session steeple ring (.said "Ring Bell" .idle) ∧ Verb.idle ≠ .fallback
      ∧ (bellRinger.resolve Memory.store ⟨"player", .fallback, ring⟩).run.run m
        = (bellRinger.resolve Memory.store ⟨"player", .idle, {}⟩).run.run m
      ∧ (∀ phrase, ¬ StandsFor session steeple { verb := "hum" } phrase)
      ∧ (∀ phrase, ¬ StandsFor session steeple { verb := "ring", subject := "bells" } phrase)
      ∧ (bellRinger.resolve Memory.store ⟨"player", .fallback, { verb := "hum" }⟩).run.run m
        = (bellRinger.resolve Memory.store
            ⟨"player", .fallback, { verb := "ring", subject := "bells" }⟩).run.run m := by
  intro m session ring
  have found : (bellRinger.scene Memory.store "player").run.run m
      = (.ok (session, steeple), m.write session) := rfl
  have stands : StandsFor session steeple ring (.said "Ring Bell" .idle) :=
    Resolver.cannedPhrase_eq_some_iff.1 rfl
  have hums : ∀ phrase, ¬ StandsFor session steeple { verb := "hum" } phrase :=
    Resolver.cannedPhrase_eq_none_iff.1 rfl
  have rings : ∀ phrase, ¬ StandsFor session steeple { verb := "ring", subject := "bells" } phrase :=
    Resolver.cannedPhrase_eq_none_iff.1 rfl
  obtain ⟨phrases, silence⟩ := Resolver.phrase_is_its_action found
  exact ⟨found, stands, by decide, phrases ring _ stands (by decide), hums, rings,
    silence {} (.fixed "Hello?") rfl _ _ hums rings⟩

end TextAdventure
