import TextAdventure.Proofs.FairPlay
import TextAdventure.Proofs.OpenExits
import TextAdventure.Proofs.Restarts
import TextAdventure.Proofs.SilentReactions

/-!
# No dead end in the cottage

However the game stands, it can be ended without starting over (`no_dead_end`). The way to the end
is told backwards: with the cat fed it is to be talked to in the kitchen, with the fish carried the
cat is to be fed, and so on to the lamp in the pantry. Each of these takes one action from the
kitchen or on the way there (`Cottage.InPlay.ends_from_kitchen`), since what is needed can always be
addressed where it is, and nothing else answers to its noun (`Cottage.InPlay.candidates_noun`).
-/

namespace TextAdventure

/-- What comes of an action is what its script does. -/
theorem Resolver.does_action {R : Update → Bool → Prop} {r : Resolver} {s : Session} {w : World}
    {action : Action} {script : Script} (comes : r.scriptIn s w action = some script)
    (does : script.Does R (interpret s w action).1.name s) :
    ∃ u, R u (r.answerIn s w action).close ∧
      (r.sessionAfter s w action).SameProgress (s.apply u) := by
  refine ⟨_, ?_, sameProgress_sessionAfter comes⟩
  have closes : (r.answerIn s w action).close
      = (script.perform (interpret s w action).1.name s).any (·.close) := by
    rw [answerIn, outcomeIn_eq, comes, Option.bind_some]
    cases script.perform (interpret s w action).1.name s <;> rfl
  rw [closes]
  exact does

/-- At most so many actions, none of which comes to a restart, end the conversation. -/
inductive EndsWithin (r : Resolver) (w : World) : Nat → Session → Prop where
  | last {n : Nat} {s : Session} (verb : Verb) (sentence : Sentence)
      (goesOn : (Resolver.interpret s w ⟨s.id, verb, sentence⟩).1 ≠ .restart)
      (ends : (r.answerIn s w ⟨s.id, verb, sentence⟩).close = true) : EndsWithin r w (n + 1) s
  | more {n : Nat} {s : Session} (verb : Verb) (sentence : Sentence)
      (goesOn : (Resolver.interpret s w ⟨s.id, verb, sentence⟩).1 ≠ .restart)
      (rest : EndsWithin r w n (r.sessionAfter s w ⟨s.id, verb, sentence⟩)) :
      EndsWithin r w (n + 1) s

/-- The verbs that steps in a session come to. -/
def verbsIn (world : World) : Session → List Step → List Verb
  | _, [] => []
  | session, (r, action) :: steps =>
    (Resolver.interpret session world action).1 ::
      verbsIn world (r.sessionAfter session world action) steps

namespace EndsWithin

variable {r : Resolver} {w : World} {n m : Nat} {s : Session}

theorem mono (few : n ≤ m) (ends : EndsWithin r w n s) : EndsWithin r w m s := by
  induction ends generalizing m with
  | last verb sentence goesOn ends =>
    obtain ⟨m, rfl⟩ : ∃ k, m = k + 1 := ⟨m - 1, by omega⟩
    exact .last verb sentence goesOn ends
  | more verb sentence goesOn _ ih =>
    obtain ⟨m, rfl⟩ : ∃ k, m = k + 1 := ⟨m - 1, by omega⟩
    exact .more verb sentence goesOn (ih (by omega))

theorem exists_steps (ends : EndsWithin r w n s) :
    ∃ steps : List Step, steps.length ≤ n ∧
      (∀ step ∈ steps, step.1 = r ∧ step.2.sessionId = s.id) ∧ .restart ∉ verbsIn w s steps ∧
      ∃ answer, (answersIn w s steps).getLast? = some answer ∧ answer.close = true := by
  induction ends with
  | @last n s verb sentence goesOn ends =>
    refine ⟨[(r, ⟨s.id, verb, sentence⟩)], by simp, by simp, ?_, _, rfl, ends⟩
    simpa [verbsIn] using goesOn.symm
  | @more n s verb sentence goesOn _ ih =>
    obtain ⟨steps, few, own, onward, answer, final, ends⟩ := ih
    refine ⟨(r, ⟨s.id, verb, sentence⟩) :: steps, ?_, ?_, ?_, answer, ?_, ends⟩
    · simpa using few
    · exact List.forall_mem_cons.2 ⟨⟨rfl, rfl⟩, own⟩
    · rw [verbsIn, List.mem_cons, not_or]
      exact ⟨goesOn.symm, onward⟩
    · rw [answersIn, List.getLast?_cons, final]
      rfl

end EndsWithin

theorem Memory.id_sessionOf (m : Memory) (w : World) (id : String) :
    (m.sessionOf w id).id = id := by
  unfold Memory.sessionOf
  rcases stored : m.sessions.get? id with _ | session
  · rfl
  · exact m.sessions.named stored

theorem Resolver.scriptIn_of_stands {r : Resolver} {default : String}
    (standard : r.IsStandard default) {verb : Verb} {handle : VerbHandler}
    (stands : ∀ wordings prompt, VerbTable.standard wordings prompt verb = some handle)
    (understood : verb ≠ .fallback) (s : Session) (w : World) (id : String) (sentence : Sentence) :
    r.scriptIn s w ⟨id, verb, sentence⟩ = handle s w sentence := by
  obtain ⟨wordings, settings, prompt, rfl, -⟩ := standard
  have handles : (Resolver.standard wordings settings prompt).handler verb = some handle :=
    stands wordings prompt
  rw [scriptIn, interpret_of_ne_fallback understood, handles, Option.bind_some]

namespace Cottage

section

variable {r : Resolver} {default : String} {s : Session} {n : Nat}

/-- The conversation ends after an action if it does so after what the script of the action does. -/
theorem InPlay.ends_by (play : InPlay s) (standard : r.IsStandard default) (verb : Verb)
    (sentence : Sentence) (understood : verb ≠ .fallback) (goesOn : verb ≠ .restart)
    {script : Script} (comes : r.scriptIn s world ⟨s.id, verb, sentence⟩ = some script)
    {change : Update} (does : script.Does (fun u _ => u = change) verb.name s)
    (rest : ∀ t, InPlay t → t.SameProgress (s.apply change) → EndsWithin r world n t) :
    EndsWithin r world (n + 1) s := by
  have means : Resolver.interpret s world ⟨s.id, verb, sentence⟩ = (verb, sentence) :=
    Resolver.interpret_of_ne_fallback understood s world
  obtain ⟨_, rfl, same⟩ := Resolver.does_action comes (by rw [means]; exact does)
  refine .more verb sentence ?_ (rest _ (play.sessionAfter standard _) same)
  rw [means]
  exact goesOn

/-- One session is as another, but in a room. -/
structure Moved (s t : Session) (room : String) : Prop where
  room : t.room = room
  flags : t.flags = s.flags
  inventory : t.inventory = s.inventory
  gone : t.gone = s.gone

theorem speakable_of_way {direction target : String} (way : Way s direction target) :
    IsSpeakable direction := by
  cases way <;> exact ⟨by decide +kernel, by decide +kernel, by decide, by decide⟩

theorem passage_of_way {direction target : String} (way : Way s direction target) :
    ∃ origin destination, world.Passage s origin direction destination ∧
      destination.id = target ∧ origin.id = s.room := by
  cases way with
  | north here =>
    have standing : world.currentRoom s = some pantry := by rw [World.currentRoom, here]; rfl
    exact ⟨pantry, kitchen, ⟨standing, rfl, rfl, rfl⟩, rfl, here.symm⟩
  | south here =>
    have standing : world.currentRoom s = some kitchen := by rw [World.currentRoom, here]; rfl
    exact ⟨kitchen, pantry, ⟨standing, rfl, rfl, rfl⟩, rfl, here.symm⟩
  | down here lit carried =>
    have standing : world.currentRoom s = some kitchen := by rw [World.currentRoom, here]; rfl
    exact ⟨kitchen, drippingCellar, ⟨standing, rfl, blocked_down.2 ⟨lit, carried⟩, rfl⟩, rfl,
      here.symm⟩
  | up here =>
    have standing : world.currentRoom s = some drippingCellar := by
      rw [World.currentRoom, here]; rfl
    exact ⟨drippingCellar, kitchen, ⟨standing, rfl, rfl, rfl⟩, rfl, here.symm⟩

theorem InPlay.ends_by_walking (play : InPlay s) (standard : r.IsStandard default)
    {direction target : String} (way : Way s direction target)
    (rest : ∀ t, InPlay t → Moved s t target → EndsWithin r world n t) :
    EndsWithin r world (n + 1) s := by
  obtain ⟨origin, destination, passage, rfl, here⟩ := passage_of_way way
  have speakable := speakable_of_way way
  have comes : r.scriptIn s world ⟨s.id, .move, { subject := direction }⟩
      = some (world.arrive s origin destination) := by
    rw [Resolver.scriptIn_of_stands standard (fun _ _ => rfl) (by decide),
      Verbs.move_of_subject rfl (speakable.normal.symm ▸ speakable.present),
      World.go_of_passage speakable passage]
  have does : (world.arrive s origin destination).Does
      (fun u _ => u = World.arrivalUpdate s origin destination) Verb.move.name s :=
    World.does_arrive (ambience_speaks passage.there) rfl
  refine play.ends_by standard .move _ (by decide) (by decide) comes does fun t play' same => ?_
  exact rest t play' ⟨same.room, same.flags, same.inventory, same.gone⟩

/-- From anywhere it is but one action to the kitchen. -/
theorem InPlay.ends_from_kitchen (play : InPlay s) (standard : r.IsStandard default)
    (rest : ∀ t, InPlay t → Moved s t "kitchen" → EndsWithin r world n t) :
    EndsWithin r world (n + 1) s := by
  rcases play.standing with here | here | here
  · exact play.ends_by_walking standard (.north here) rest
  · exact (rest s play ⟨here, rfl, rfl, rfl⟩).mono (Nat.le_succ n)
  · exact play.ends_by_walking standard (.up here) rest

/-! ### Things near -/

theorem addressable_of_near {id room : String} {thing : Thing} {place : Room}
    (item : world.items.get? id = some thing) (there : world.rooms.get? room = some place)
    (lies : thing ∈ place.things) (named : thing.id = some id) (seen : thing.visible s = true)
    (near : Near s id room) : thing ∈ world.addressable s := by
  rcases near with carried | ⟨here, present⟩
  · refine List.mem_append_left _ (List.mem_append_right _ ?_)
    exact List.mem_filterMap.2 ⟨id, IdSet.mem_toList.2 carried, item⟩
  · refine List.mem_append_right _ ?_
    have standing : world.currentRoom s = some place := by rw [World.currentRoom, here, there]
    rw [World.presentThings, standing]
    refine List.mem_filter.2 ⟨lies, ?_⟩
    have stays : s.isGone id = false := Bool.eq_false_iff.2 present
    simp [World.isPresent, named, seen, stays]

theorem addressable_lamp (near : Near s "lamp" "pantry") : lamp ∈ world.addressable s :=
  addressable_of_near rfl rfl List.mem_cons_self rfl rfl near

theorem addressable_fish (near : Near s "fish" "cellar") : fish ∈ world.addressable s :=
  addressable_of_near rfl rfl List.mem_cons_self rfl rfl near

theorem InPlay.addressable_cat (play : InPlay s) (here : s.room = "kitchen") :
    cat ∈ world.addressable s := by
  refine addressable_of_near rfl rfl List.mem_cons_self rfl rfl (.inr ⟨here, fun gone => ?_⟩)
  exact absurd (play.taken _ gone) (by decide)

/-- The nouns of those things that matter. -/
def nouns : List (String × Thing) := [("lamp", lamp), ("fish", fish), ("cat", cat)]

/-- Nothing else answers to such a noun. -/
theorem AtHand.eq_of_answersTo {noun : String} {thing other : Thing} (named : (noun, thing) ∈ nouns)
    (hand : AtHand s other) (answers : other.answersTo noun) : other = thing := by
  have quiet : ∀ other ∈ Cottage.scenery, ∀ noun ∈ nouns.map Prod.fst,
      other.answersTo noun = false := by decide +kernel
  have speaks : noun ∈ nouns.map Prod.fst := List.mem_map.2 ⟨_, named, rfl⟩
  cases hand with
  | scenery listed => simp [quiet other listed noun speaks] at answers
  | _ =>
    simp only [nouns, List.mem_cons, Prod.mk.injEq, List.not_mem_nil, or_false] at named
    rcases named with ⟨rfl, rfl⟩ | ⟨rfl, rfl⟩ | ⟨rfl, rfl⟩
    -- it is the thing itself, or one with other names
    all_goals first | rfl | exact absurd answers (by decide +kernel)

theorem nouns_plain : ∀ p ∈ nouns, Text.normal p.1 = p.1 ∧ p.1 ≠ "" ∧ p.2.answersTo p.1 = true ∧
    p.1 ∉ pronouns := by
  decide +kernel

theorem wordOf_noun {noun : String} {thing : Thing} (named : (noun, thing) ∈ nouns) :
    Interaction.wordOf s (some noun) = some ⟨noun, false⟩ := by
  obtain ⟨normal, spoken, -, no_pronoun⟩ := nouns_plain _ named
  have said := Interaction.wordOf_said s (normal.symm ▸ spoken) (.inl (normal.symm ▸ no_pronoun))
  rwa [Word.said, normal] at said

theorem find?_of_sole {α : Type} {p : α → Bool} {xs : List α} {x : α} (mem : x ∈ xs)
    (sole : ∀ y ∈ xs, y = x) (holds : p x = true) : xs.find? p = some x := by
  cases xs with
  | nil => cases mem
  | cons y ys =>
    obtain rfl := sole y List.mem_cons_self
    exact List.find?_cons_of_pos holds

/-- A noun means its thing, if that is near, and no other. -/
theorem InPlay.candidates_noun (play : InPlay s) {noun : String} {thing : Thing}
    (named : (noun, thing) ∈ nouns) (addressed : thing ∈ world.addressable s) :
    thing ∈ world.candidates s noun ∧ ∀ other ∈ world.candidates s noun, other = thing := by
  obtain ⟨normal, spoken, answers, -⟩ := nouns_plain _ named
  constructor
  · rw [World.mem_candidates, normal]
    exact ⟨spoken, addressed, answers⟩
  · intro other mem
    rw [World.mem_candidates, normal] at mem
    exact (atHand_of_addressable play.own mem.2.1).eq_of_answersTo named mem.2.2

theorem InPlay.reaches_alone (play : InPlay s) {noun : String} {thing : Thing}
    (named : (noun, thing) ∈ nouns) (addressed : thing ∈ world.addressable s) {i : Interaction}
    {cue : Cue} (reacts : thing.reactionAlone? i.verb.name = some (.run cue)) :
    i.Reaches s world { subject := noun } cue (some thing) := by
  obtain ⟨mem, sole⟩ := play.candidates_noun named addressed
  have words : Interaction.wordsOf s { subject := noun } = [⟨noun, false⟩] := by
    rw [Interaction.wordsOf, wordOf_noun named]
    rfl
  refine .alone words (find?_of_sole mem sole ?_) reacts
  rw [Interaction.applyAlone_of_run i s world reacts]
  rfl

theorem InPlay.reaches_gift (play : InPlay s) (here : s.room = "kitchen")
    (carried : "fish" ∈ s.inventory) :
    Verbs.give.Reaches s world { subject := "fish", object := "cat" } feedCat none := by
  have fishNamed : ("fish", fish) ∈ nouns := by simp [nouns]
  have catNamed : ("cat", cat) ∈ nouns := by simp [nouns]
  obtain ⟨fishMem, fishSole⟩ :=
    play.candidates_noun fishNamed (addressable_fish (.inl carried))
  obtain ⟨catMem, catSole⟩ := play.candidates_noun catNamed (play.addressable_cat here)
  have words : Interaction.wordsOf s { subject := "fish", object := "cat" }
      = [⟨"fish", false⟩, ⟨"cat", false⟩] := by
    rw [Interaction.wordsOf, wordOf_noun fishNamed, wordOf_noun catNamed]
    rfl
  have acts : Interaction.canAct "give" fish = true := rfl
  have reacts : (fish.reactionTo? cat "give" <|> cat.reactionTo? fish "give")
      = some (.run feedCat) := rfl
  refine .together words (find?_of_sole ?_ ?_ rfl) reacts
  · exact List.mem_product.2 ⟨List.mem_filter.2 ⟨fishMem, acts⟩, catMem⟩
  · rintro ⟨actor, target⟩ mem
    obtain ⟨hactor, htarget⟩ := List.mem_product.1 mem
    rw [fishSole actor (List.mem_filter.1 hactor).1, catSole target htarget]

/-- What an answer that is known beforehand does, whether or not it is about a thing. -/
theorem does_of_gives {R : Update → Bool → Prop} {verb : String} {cue : Cue} {outcome : Outcome}
    (gives : cue s verb = some (.leaf outcome)) (does : R outcome.change outcome.close)
    (about : Option Thing) :
    (about.elim (.derived cue) (Interaction.cued cue) : Script).Does R verb s := by
  have asked : (Script.derived cue).Does R verb s := by
    rw [Script.does_derived, gives]
    exact does
  cases about with
  | none => exact asked
  | some thing => exact Interaction.does_cued.2 asked

theorem InPlay.ends_by_using (play : InPlay s) (standard : r.IsStandard default) {i : Interaction}
    (stands : ∀ wordings prompt, VerbTable.standard wordings prompt i.verb = some i.handle)
    (understood : i.verb ≠ .fallback) (goesOn : i.verb ≠ .restart) {sentence : Sentence} {cue : Cue}
    {about : Option Thing} (reaches : i.Reaches s world sentence cue about) {outcome : Outcome}
    (gives : cue s i.verb.name = some (.leaf outcome))
    (rest : ∀ t, InPlay t → t.SameProgress (s.apply outcome.change) → EndsWithin r world n t) :
    EndsWithin r world (n + 1) s := by
  have comes := Resolver.scriptIn_of_stands standard stands understood s world s.id sentence
  rw [reaches.handle_eq] at comes
  exact play.ends_by standard i.verb sentence understood goesOn comes
    (does_of_gives gives rfl about) rest

/-! ### The way to the end -/

theorem InPlay.ends_talking (play : InPlay s) (standard : r.IsStandard default) (sated : Sated s) :
    EndsWithin r world 1 s := by
  have reaches : Verbs.talk.Reaches s world { subject := "cat" } talkToCat (some cat) :=
    play.reaches_alone (by simp [nouns]) (play.addressable_cat sated.here) rfl
  have gives : talkToCat s "talk" = some (.leaf
      { message := "The cat purrs and settles down to sleep. Thanks for playing!"
        close := true }) := by
    rw [talkToCat, if_pos sated.fed]
  have comes : r.scriptIn s world ⟨s.id, .talk, { subject := "cat" }⟩ = _ :=
    (Resolver.scriptIn_of_stands standard (fun _ _ => rfl) (by decide) s world s.id _).trans
      reaches.handle_eq
  obtain ⟨_, ends, -⟩ := Resolver.does_action comes
    (does_of_gives (R := fun _ close => close = true) gives rfl _)
  exact .last .talk _ nofun ends

theorem InPlay.ends_fed (play : InPlay s) (standard : r.IsStandard default)
    (fed : isCatFed s = true) : EndsWithin r world 2 s := by
  refine play.ends_from_kitchen standard fun t play' moved => ?_
  exact play'.ends_talking standard ⟨moved.room, (isCatFed_congr moved.flags).trans fed⟩

theorem InPlay.ends_with_fish (play : InPlay s) (standard : r.IsStandard default)
    (carried : "fish" ∈ s.inventory) : EndsWithin r world 3 s := by
  refine play.ends_from_kitchen standard fun t play' moved => ?_
  have reaches := play'.reaches_gift moved.room (moved.inventory.symm ▸ carried)
  refine play'.ends_by_using standard (fun _ _ => rfl) (by decide) (by decide) reaches rfl ?_
  intro u playU same
  exact playU.ends_talking standard ⟨same.room.trans moved.room, isCatFed_insert same.flags⟩

theorem InPlay.ends_in_cellar (play : InPlay s) (standard : r.IsStandard default)
    (here : s.room = "cellar") (left : "fish" ∉ s.gone) : EndsWithin r world 4 s := by
  have reaches : Verbs.take.Reaches s world { subject := "fish" }
      (Cottage.take "fish" "a salted fish") (some fish) :=
    play.reaches_alone (by simp [nouns]) (addressable_fish (.inr ⟨here, left⟩)) rfl
  have gives : Cottage.take "fish" "a salted fish" s "take" = _ :=
    if_neg fun carried => left (play.fishCarried carried)
  refine play.ends_by_using standard (fun _ _ => rfl) (by decide) (by decide) reaches gives ?_
  intro t playT same
  refine playT.ends_with_fish standard ?_
  rw [same.inventory]
  exact IdSet.mem_insert.2 (.inl rfl)

theorem InPlay.ends_lit (play : InPlay s) (standard : r.IsStandard default)
    (lit : isLit s = true) (left : "fish" ∉ s.gone) : EndsWithin r world 6 s := by
  by_cases here : s.room = "cellar"
  · exact (play.ends_in_cellar standard here left).mono (by decide)
  · refine play.ends_from_kitchen standard fun t play' moved => ?_
    have lit' : isLit t = true := (isLit_congr moved.flags).trans lit
    refine play'.ends_by_walking standard (.down moved.room lit' (play'.lit lit')) ?_
    intro u playU below
    refine playU.ends_in_cellar standard below.room ?_
    rwa [below.gone, moved.gone]

theorem InPlay.ends_with_lamp (play : InPlay s) (standard : r.IsStandard default)
    (carried : "lamp" ∈ s.inventory) (left : "fish" ∉ s.gone) : EndsWithin r world 7 s := by
  by_cases lit : isLit s = true
  · exact (play.ends_lit standard lit left).mono (by decide)
  · have reaches : Verbs.light.Reaches s world { subject := "lamp" } lightLamp (some lamp) :=
      play.reaches_alone (by simp [nouns]) (addressable_lamp (.inl carried)) rfl
    have holds : s.carries "lamp" = true := carried
    have gives : lightLamp s "light" = some (.leaf
        { message := "The wick catches and the lamp glows warmly."
          update := some
            { flags := s.flags.insert "lamp" "lit", effects := s.effects.insert lamplight } }) := by
      simp [lightLamp, holds, lit]
    refine play.ends_by_using standard (fun _ _ => rfl) (by decide) (by decide) reaches gives ?_
    intro t playT same
    refine playT.ends_lit standard (isLit_insert same.flags) ?_
    rw [same.gone]
    exact left

theorem InPlay.ends_in_pantry (play : InPlay s) (standard : r.IsStandard default)
    (here : s.room = "pantry") (away : "lamp" ∉ s.inventory) (left : "fish" ∉ s.gone) :
    EndsWithin r world 8 s := by
  have present : "lamp" ∉ s.gone := fun gone => away (play.lamp.2 gone)
  have reaches : Verbs.take.Reaches s world { subject := "lamp" }
      (Cottage.take "lamp" "the brass lamp") (some lamp) :=
    play.reaches_alone (by simp [nouns]) (addressable_lamp (.inr ⟨here, present⟩)) rfl
  have gives : Cottage.take "lamp" "the brass lamp" s "take" = _ := if_neg away
  refine play.ends_by_using standard (fun _ _ => rfl) (by decide) (by decide) reaches gives ?_
  intro t playT same
  refine playT.ends_with_lamp standard ?_ ?_
  · rw [same.inventory]
    exact IdSet.mem_insert.2 (.inl rfl)
  · rw [same.gone]
    intro gone
    rcases IdSet.mem_insert.1 gone with other | gone
    · exact absurd other (by decide)
    · exact left gone

/-- However the game stands, nine actions are enough to end it. -/
theorem InPlay.ends (play : InPlay s) (standard : r.IsStandard default) :
    EndsWithin r world 9 s := by
  by_cases gone : "fish" ∈ s.gone
  · rcases play.fishKept gone with carried | fed
    · exact (play.ends_with_fish standard carried).mono (by decide)
    · exact (play.ends_fed standard fed).mono (by decide)
  · by_cases carried : "lamp" ∈ s.inventory
    · exact (play.ends_with_lamp standard carried gone).mono (by decide)
    · rcases play.standing with here | here | here
      · exact (play.ends_in_pantry standard here carried gone).mono (by decide)
      · refine play.ends_by_walking standard (.south here) fun t play' moved => ?_
        refine play'.ends_in_pantry standard moved.room ?_ ?_
        · rwa [moved.inventory]
        · rwa [moved.gone]
      · -- nobody is in the cellar without the lamp
        exact absurd (play.lit (play.cellar (.inl here))) carried

end

/-- Whatever has been done in the cottage, each player has at most nine actions more, with any
standard resolver, that do not start over and after the last of which the conversation ends. -/
theorem no_dead_end {worlds : Shelf} {steps : List Step} {r : Resolver}
    (registered : worlds.get? name = some world)
    (standard : ∀ step ∈ steps, step.1.IsStandard name) (last : r.IsStandard name) (id : String) :
    ∃ more : List Step, more.length ≤ 9
      ∧ (∀ step ∈ more, step.1 = r ∧ step.2.sessionId = id)
      ∧ .restart ∉ verbsIn world ((memoryAfter worlds steps).sessionOf world id) more
      ∧ ∃ answer, (resolveAll Memory.store more (memoryAfter worlds steps)).1.getLast? = some answer
        ∧ endsTalk answer = true := by
  obtain ⟨play, home⟩ := inPlay_sessionOf registered standard id
  obtain ⟨more, few, own, onward, answer, final, ends⟩ := (play.ends last).exists_steps
  rw [Memory.id_sessionOf] at own
  have kept : (memoryAfter worlds steps).worlds.get? name = some world := by
    rwa [memoryAfter, resolveAll_worlds]
  have plays : ∀ step ∈ more, Plays name id step := by
    intro step mem
    obtain ⟨rfl, mine⟩ := own step mem
    exact ⟨last.defaultWorld, mine⟩
  refine ⟨more, few, own, onward, .ok answer, ?_, ends⟩
  rw [resolveAll_answers kept home plays, List.getLast?_map, final]
  rfl

/-- It is not too far to the end either for a player in the kitchen with a lamp that is not lit. -/
theorem no_dead_end_dark :
    ∃ more : List Step, more.length ≤ 9
      ∧ (∀ step ∈ more, step.1 = .standard {} {} (.fixed "Hello?") ∧ step.2.sessionId = "player")
      ∧ .restart ∉ verbsIn world ((memoryAfter (shelve [world])
          [played .take { subject := "lamp" }, played .move { subject := "n" }]).sessionOf world
            "player") more
      ∧ ∃ answer, (resolveAll Memory.store more (memoryAfter (shelve [world])
          [played .take { subject := "lamp" }, played .move { subject := "n" }])).1.getLast?
            = some answer
        ∧ endsTalk answer = true := by
  have standard : ∀ step ∈ [played .take { subject := "lamp" }, played .move { subject := "n" }],
      step.1.IsStandard name := by
    simp only [List.forall_mem_cons, List.not_mem_nil, false_imp_iff, implies_true, and_true]
    exact ⟨⟨{}, {}, .fixed "Hello?", rfl, rfl⟩, {}, {}, .fixed "Hello?", rfl, rfl⟩
  exact no_dead_end rfl standard ⟨{}, {}, .fixed "Hello?", rfl, rfl⟩ "player"

end Cottage

end TextAdventure
