import TextAdventure.Cottage
import TextAdventure.Proofs.Handlers

/-!
# What can be done in the cottage

Whatever a player asks for, in whatever words, it comes to one of a few deeds (`Cottage.Deed`):
words, a walk, a thing that is taken, the lamp lit, the kettle set on, the cat fed or talked to, and
the updates of `restart` and `fallback` (`Cottage.outcomeIn_deed`). This rests on what can be
addressed where (`Cottage.AtHand`), on what the things then do, and on which ways are open
(`Cottage.Way`).
-/

namespace TextAdventure

/-! ## What scripts do -/

/-- What is performed of a script changes something and ends the conversation or not. If nothing is
performed of it, nothing changes. -/
def Script.Does (R : Update → Bool → Prop) (verb : String) (session : Session) (script : Script) :
    Prop :=
  R (changeSofar (script.perform verb session)) ((script.perform verb session).any (·.close))

section Does

variable {R : Update → Bool → Prop} {verb : String} {session : Session} {cue : Cue}

theorem Script.does_derived :
    (derived cue).Does R verb session ↔
      (cue session verb).elim (R .empty false) (·.Does R verb session) := by
  rw [Does, perform, performCued_eq]
  cases cue session verb <;> exact Iff.rfl

/-- That pronouns stand for a thing from here on changes nothing else. -/
theorem Interaction.does_cued {thing : Thing} :
    (cued cue thing).Does R verb session ↔ (Script.derived cue).Does R verb session := by
  rw [Script.Does, Script.Does, perform_cued]
  rcases (Script.derived cue).perform verb session with _ | step
  · exact Iff.rfl
  · show R (Outcome.change (Outcome.merge _ step)) step.close ↔ R step.change step.close
    rw [Outcome.change_merge]
    exact Iff.of_eq (congrArg (R · step.close) (Update.empty_merge step.change))

/-- An outcome of words only. -/
def Outcome.Speaks (outcome : Outcome) : Prop :=
  outcome.change = .empty ∧ outcome.close = false

theorem Outcome.closedUnderMerge_speaks : ClosedUnderMerge Outcome.Speaks := by
  rintro earlier later ⟨still, stays⟩ ⟨still', stays'⟩
  refine ⟨?_, ?_⟩
  · rw [change_merge, still, still']
    rfl
  · rw [merge, stays, stays']
    rfl

/-- Entering a room where the narration is words only changes what the arrival does. -/
theorem World.does_arrive {w : World} {origin destination : Room}
    (speaks : ∀ item ∈ w.ambience session destination, item.Always Outcome.Speaks)
    (arrived : R (arrivalUpdate session origin destination) false) :
    (w.arrive session origin destination).Does R verb session := by
  have kept : ∀ sofar step : Outcome,
      (sofar.change = arrivalUpdate session origin destination ∧ sofar.close = false) →
        step.Speaks → ((sofar.merge step).change = arrivalUpdate session origin destination ∧
          (sofar.merge step).close = false) := by
    rintro sofar step ⟨enters, stays⟩ ⟨still, silent⟩
    rw [Outcome.change_merge, Outcome.merge, enters, stays, still, silent]
    exact ⟨rfl, rfl⟩
  obtain ⟨outcome, performed, enters, stays⟩ : ∃ outcome,
      (w.arrive session origin destination).perform verb session = some outcome ∧
        outcome.change = arrivalUpdate session origin destination ∧ outcome.close = false := by
    rw [arrive, Script.perform_sequence, List.foldl_cons, Script.continueWith_none, Script.perform]
    exact Script.foldl_continueWith_keeps Outcome.closedUnderMerge_speaks kept speaks verb session
      ⟨rfl, rfl⟩
  rw [Script.Does, performed]
  show R outcome.change outcome.close
  rwa [enters, stays]

end Does

section EachCue

variable {P : Cue → Prop}

theorem Handler.EachCue.literal {text : String} : (Handler.literal text).EachCue P := trivial

theorem Handler.EachCue.synonym {verb : String} : (Handler.synonym verb).EachCue P := trivial

theorem Handler.EachCue.dynamic {cue : Cue} (h : P cue) : (Handler.dynamic cue).EachCue P := h

namespace Thing

variable {thing : Thing}

theorem EachCue.bare (untouched : thing.verbs = ∅) : thing.EachCue P where
  verbs found := by
    rw [handler?, untouched, Dictionary.get?_empty] at found
    cases found

theorem EachCue.on (each : thing.EachCue P) (verb : String) {handler : Handler}
    (its : handler.EachCue P) : (thing.on verb handler).EachCue P where
  verbs found := by
    rw [handler?, Thing.on, Dictionary.get?_insert] at found
    split at found
    · cases found
      exact its
    · exact each.verbs found

end Thing

end EachCue

namespace Cottage

/-! ## The cottage -/

/-- The cellar of the cottage, with its sound. -/
def drippingCellar : Room := cellar (site.play "drip")

theorem room_cases {id : String} {room : Room} (found : world.rooms.get? id = some room) :
    (id = "pantry" ∧ room = pantry) ∨ (id = "kitchen" ∧ room = kitchen) ∨
      (id = "cellar" ∧ room = drippingCellar) := by
  simp only [world, World.addEffect, World.addRoom, Catalog.get?_file] at found
  split at found
  · next named =>
    cases found
    exact .inr (.inr ⟨named, rfl⟩)
  · split at found
    · next named =>
      cases found
      exact .inr (.inl ⟨named, rfl⟩)
    · split at found
      · next named =>
        cases found
        exact .inl ⟨named, rfl⟩
      · cases found

theorem effect_eq {id : String} {effect : Effect} (found : world.effects.get? id = some effect) :
    effect = lamplightEffect := by
  simp only [world, World.addEffect, World.addRoom, Catalog.get?_file] at found
  split at found
  · exact (Option.some.inj found).symm
  · cases found

/-! ### Flags of the lamp and the cat -/

section Flags

variable {s t : Session} {name value : String}

theorem isLit_congr (same : t.flags = s.flags) : isLit t = isLit s := by
  rw [isLit, isLit, Session.flag?, Session.flag?, same]

theorem isCatFed_congr (same : t.flags = s.flags) : isCatFed t = isCatFed s := by
  rw [isCatFed, isCatFed, Session.flag?, Session.flag?, same]

theorem isLit_insert (flags : t.flags = s.flags.insert name value) :
    isLit t = if "lamp" = name then value == "lit" else isLit s := by
  rw [isLit, Session.flag?, flags, Dictionary.get?_insert]
  split <;> rfl

theorem isCatFed_insert (flags : t.flags = s.flags.insert name value) :
    isCatFed t = if "cat" = name then value == "fed" else isCatFed s := by
  rw [isCatFed, Session.flag?, flags, Dictionary.get?_insert]
  split <;> rfl

end Flags

/-! ### Ways -/

/-- The ways out of a room that are open to the player. -/
inductive Way (session : Session) : String → String → Prop where
  | north (here : session.room = "pantry") : Way session "north" "kitchen"
  | south (here : session.room = "kitchen") : Way session "south" "pantry"
  | down (here : session.room = "kitchen") (lit : isLit session = true)
      (carried : "lamp" ∈ session.inventory) : Way session "down" "cellar"
  | up (here : session.room = "cellar") : Way session "up" "kitchen"

/-- The lock of the trapdoor is open to a burning lamp only. -/
theorem blocked_down {session : Session} :
    kitchen.blocked "down" session = none ↔ isLit session = true ∧ "lamp" ∈ session.inventory := by
  show (if isLit session && session.carries "lamp" then none else some _) = none ↔
    isLit session = true ∧ session.carries "lamp" = true
  rw [← Bool.and_eq_true]
  split
  · next burns => exact iff_of_true rfl burns
  · next dark => exact iff_of_false nofun dark

theorem way_of_passage {session : Session} {origin destination : Room} {direction : String}
    (passage : world.Passage session origin direction destination) :
    Way session direction destination.id ∧ origin.id = session.room := by
  have exit : (direction, destination.id) ∈ (origin.exitsFor session).toList :=
    Dictionary.mem_toList.2 passage.exit
  have unlocked := passage.unlocked
  rcases room_cases passage.here with ⟨here, rfl⟩ | ⟨here, rfl⟩ | ⟨here, rfl⟩
  · replace exit : (direction, destination.id) ∈ [("north", "kitchen")] := exit
    obtain ⟨rfl, leads⟩ := Prod.mk.inj (List.mem_singleton.1 exit)
    rw [leads]
    exact ⟨.north here, here.symm⟩
  · replace exit : (direction, destination.id) ∈ [("down", "cellar"), ("south", "pantry")] := exit
    simp only [List.mem_cons, Prod.mk.injEq, List.not_mem_nil, or_false] at exit
    rcases exit with ⟨rfl, leads⟩ | ⟨rfl, leads⟩
    · rw [leads]
      obtain ⟨lit, carried⟩ := blocked_down.1 unlocked
      exact ⟨.down here lit carried, here.symm⟩
    · rw [leads]
      exact ⟨.south here, here.symm⟩
  · replace exit : (direction, destination.id) ∈ [("up", "kitchen")] := exit
    obtain ⟨rfl, leads⟩ := Prod.mk.inj (List.mem_singleton.1 exit)
    rw [leads]
    exact ⟨.up here, here.symm⟩

/-! ## What can be addressed -/

/-- The things that let the game alone, or do the same each time. -/
def scenery : List Thing := [flame, jars, doorway, kettle, trapdoor, barrel]

/-- A thing is carried, or lies in its room. -/
def Near (session : Session) (id room : String) : Prop :=
  id ∈ session.inventory ∨ session.room = room ∧ id ∉ session.gone

/-- What can be addressed: the lamp and the fish, wherever they are near, and the cat in the
kitchen. -/
inductive AtHand (session : Session) : Thing → Prop where
  | lamp (near : Near session "lamp" "pantry") : AtHand session lamp
  | fish (near : Near session "fish" "cellar") : AtHand session fish
  | cat (here : session.room = "kitchen") : AtHand session cat
  | scenery {thing : Thing} (listed : thing ∈ scenery) : AtHand session thing

section AtHand

variable {session : Session} {thing : Thing}

theorem atHand_of_room {room : Room} (here : world.currentRoom session = some room)
    (lies : thing ∈ room.things) (present : World.isPresent session thing) :
    AtHand session thing := by
  have stays : ∀ id, thing.id = some id → id ∉ session.gone := by
    intro id named gone
    have isGone : session.isGone id = true := gone
    simp [World.isPresent, named, isGone] at present
  rcases room_cases here with ⟨named, rfl⟩ | ⟨named, rfl⟩ | ⟨named, rfl⟩
  · replace lies : thing ∈ [lamp, jars, doorway] := lies
    simp only [List.mem_cons, List.not_mem_nil, or_false] at lies
    rcases lies with rfl | rfl | rfl
    · exact .lamp (.inr ⟨named, stays _ rfl⟩)
    · exact .scenery (by simp [scenery])
    · exact .scenery (by simp [scenery])
  · replace lies : thing ∈ [cat, kettle, trapdoor] := lies
    simp only [List.mem_cons, List.not_mem_nil, or_false] at lies
    rcases lies with rfl | rfl | rfl
    · exact .cat named
    · exact .scenery (by simp [scenery])
    · exact .scenery (by simp [scenery])
  · replace lies : thing ∈ [fish, barrel] := lies
    simp only [List.mem_cons, List.not_mem_nil, or_false] at lies
    rcases lies with rfl | rfl
    · exact .fish (.inr ⟨named, stays _ rfl⟩)
    · exact .scenery (by simp [scenery])

theorem atHand_of_addressable (own : ∀ id ∈ session.inventory, id = "lamp" ∨ id = "fish")
    (addressed : thing ∈ world.addressable session) : AtHand session thing := by
  rcases List.mem_append.1 addressed with addressed | addressed
  · rcases List.mem_append.1 addressed with addressed | addressed
    · obtain ⟨effect, active, mem⟩ := List.mem_flatMap.1 addressed
      obtain ⟨id, -, found⟩ := List.mem_filterMap.1 active
      rw [effect_eq found] at mem
      obtain rfl : thing = flame := List.mem_singleton.1 mem
      exact .scenery (by simp [scenery])
    · obtain ⟨id, mem, found⟩ := List.mem_filterMap.1 addressed
      have carried := IdSet.mem_toList.1 mem
      rcases own id carried with rfl | rfl
      · obtain rfl : Cottage.lamp = thing := Option.some.inj found
        exact .lamp (.inl carried)
      · obtain rfl : Cottage.fish = thing := Option.some.inj found
        exact .fish (.inl carried)
  · unfold World.presentThings at addressed
    split at addressed
    · next room here =>
      obtain ⟨lies, present⟩ := List.mem_filter.1 addressed
      exact atHand_of_room here lies present
    · cases addressed

end AtHand

/-! ## What things do -/

section EachCue

variable {P : Cue → Prop}

theorem lamp_each (speaks : ∀ message, P (saying message))
    (taken : P (take "lamp" "the brass lamp")) (lit : P lightLamp) : lamp.EachCue P :=
  .on (.on (.on (.on (.bare rfl) "look" (.dynamic (speaks _))) "take" (.dynamic taken))
    "light" (.dynamic lit)) "use" .synonym

theorem fish_each (taken : P (take "fish" "a salted fish")) : fish.EachCue P :=
  .on (.on (.on (.bare rfl) "look" .literal) "eat" .literal) "take" (.dynamic taken)

theorem scenery_each (used : P useKettle) : ∀ thing ∈ scenery, thing.EachCue P := by
  intro thing listed
  simp only [scenery, List.mem_cons, List.not_mem_nil, or_false] at listed
  rcases listed with rfl | rfl | rfl | rfl | rfl | rfl
  · exact .on (.bare rfl) "look" .literal
  · exact .on (.on (.bare rfl) "look" .literal) "eat" .literal
  · exact .on (.bare rfl) "look" .literal
  · exact .on (.on (.on (.bare rfl) "look" .literal) "use" (.dynamic used)) "light" .synonym
  · exact .on (.on (.on (.bare rfl) "look" .literal) "open" .literal) "close" .literal
  · exact .on (.bare rfl) "look" .literal

end EachCue

section Cat

variable {verb : String} {handler : Handler} {cue : Cue}

/-- What the cat makes of the things that it is given. -/
def gifts : Reactions where
  byId := Dictionary.ofList [("fish", .run feedCat)]
  toAny := some (.say "The cat sniffs it and looks away.")

theorem cat_entry (entry : cat.handler? verb = some handler) :
    (∃ text, handler = .literal text) ∨ handler = .dynamic talkToCat ∨ handler = .keyed gifts := by
  simp only [cat, Thing.handler?, Thing.on, Dictionary.get?_insert] at entry
  split at entry
  · cases entry
    exact .inr (.inr rfl)
  · split at entry
    · cases entry
      exact .inr (.inl rfl)
    · split at entry
      · cases entry
        exact .inl ⟨_, rfl⟩
      · split at entry
        · cases entry
          exact .inl ⟨_, rfl⟩
        · cases entry

/-- By itself the cat has nothing but its answer. -/
theorem cat_alone (entry : cat.handler? verb = some handler)
    (reacts : handler.alone = some (.run cue)) : cue = talkToCat := by
  rcases cat_entry entry with ⟨text, rfl⟩ | rfl | rfl
  · cases reacts
  · cases reacts
    rfl
  · cases reacts

/-- Of all things it eats only the fish. -/
theorem cat_to {other : Option String} (entry : cat.handler? verb = some handler)
    (reacts : handler.to other = some (.run cue)) : cue = feedCat ∧ other = some "fish" := by
  rcases cat_entry entry with ⟨text, rfl⟩ | rfl | rfl
  · cases reacts
  · cases reacts
  · replace reacts : gifts.to other = some (.run cue) := reacts
    rw [Reactions.to, Option.orElse_eq_orElse, Option.orElse_eq_or, Option.or_eq_some_iff] at reacts
    rcases reacts with eaten | ⟨-, sniffed⟩
    · obtain ⟨id, rfl, eaten⟩ := Option.bind_eq_some_iff.1 eaten
      have only : (id, Reaction.run cue) ∈ [("fish", .run feedCat)] :=
        Dictionary.mem_toList.2 eaten
      cases List.mem_singleton.1 only
      exact ⟨rfl, rfl⟩
    · cases sniffed

end Cat

/-! ## Deeds -/

/-- The things that can be taken, with the rooms where they are kept. -/
def keptIn : List (String × String) := [("lamp", "pantry"), ("fish", "cellar")]

/-- What an action that comes to a verb changes in a session of the cottage, and whether it ends the
conversation. -/
inductive Deed (session : Session) (verb : Verb) : Update → Bool → Prop where
  | words : Deed session verb .empty false
  | walk {direction target back : String} (way : Way session direction target) :
      Deed session verb
        { room := target
          seen := some (session.seen.insertAll [session.room, target])
          cameFrom := back } false
  | restart (restarts : verb = .restart) : Deed session verb (.restart "pantry") false
  | misunderstanding (misses : verb = .fallback) :
      Deed session verb (Verbs.misunderstanding session) false
  | take {id room : String} (kept : (id, room) ∈ keptIn) (here : session.room = room)
      (present : id ∉ session.gone) :
      Deed session verb
        { inventory := session.inventory.insert id, gone := session.gone.insert id } false
  | light (carried : "lamp" ∈ session.inventory) :
      Deed session verb
        { flags := session.flags.insert "lamp" "lit"
          effects := session.effects.insert lamplight } false
  | kettle : Deed session verb { flags := session.flags.insert "kettle" "on" } false
  | feed (here : session.room = "kitchen") (carried : "fish" ∈ session.inventory) :
      Deed session verb
        { inventory := session.inventory.erase "fish"
          flags := session.flags.insert "cat" "fed" } false
  | farewell (here : session.room = "kitchen") (fed : isCatFed session = true) :
      Deed session verb .empty true

/-- A script does nothing but deeds. -/
abbrev DoesDeeds (verb : Verb) (session : Session) (script : Script) : Prop :=
  script.Does (Deed session verb) verb.name session

section Deeds

variable {session : Session} {verb : Verb}

theorem does_say (message : String) : DoesDeeds verb session (.say message) :=
  .words

theorem does_saying (message : Session → String) :
    DoesDeeds verb session (.derived (saying message)) := by
  rw [DoesDeeds, Script.does_derived]
  exact does_say _

theorem does_take {id room name : String} (kept : (id, room) ∈ keptIn)
    (near : Near session id room) : DoesDeeds verb session (.derived (take id name)) := by
  rw [DoesDeeds, Script.does_derived, take]
  split
  · exact does_say _
  · next away =>
    obtain ⟨here, present⟩ := near.resolve_left away
    exact .take kept here present

theorem does_lightLamp : DoesDeeds verb session (.derived lightLamp) := by
  rw [DoesDeeds, Script.does_derived, lightLamp]
  split
  · exact does_say _
  · next carried =>
    have carried : session.carries "lamp" = true := by simpa using carried
    split
    · exact does_say _
    · exact .light carried

theorem does_useKettle : DoesDeeds verb session (.derived useKettle) := by
  rw [DoesDeeds, Script.does_derived]
  exact .kettle

theorem does_talkToCat (here : session.room = "kitchen") :
    DoesDeeds verb session (.derived talkToCat) := by
  rw [DoesDeeds, Script.does_derived]
  show Deed session verb (Outcome.change (if isCatFed session then _ else _))
    (Outcome.close (if isCatFed session then _ else _))
  split
  · next fed => exact .farewell here fed
  · exact .words

theorem does_feedCat (here : session.room = "kitchen") (carried : "fish" ∈ session.inventory) :
    DoesDeeds verb session (.derived feedCat) := by
  rw [DoesDeeds, Script.does_derived]
  exact .feed here carried

/-- What is heard on entering a room is words only. -/
theorem ambience_speaks {id : String} {room : Room} (there : world.rooms.get? id = some room) :
    ∀ item ∈ world.ambience session room, item.Always Outcome.Speaks := by
  intro item mem
  have saying_speaks : ∀ message, (Script.derived (saying message)).Always Outcome.Speaks :=
    fun message => .derived fun _ _ _ gives => by
      cases gives
      exact .leaf ⟨rfl, rfl⟩
  obtain ⟨cue, ambient, rfl⟩ := List.mem_map.1 mem
  rcases List.mem_append.1 ambient with ambient | ambient
  · have ambient := Option.mem_toList.1 ambient
    rcases room_cases there with ⟨-, rfl⟩ | ⟨-, rfl⟩ | ⟨-, rfl⟩
    · cases ambient
    · cases ambient
      refine .derived fun _ _ _ gives => ?_
      unfold catWatches at gives
      split at gives
      · cases gives
      · cases gives
        exact .leaf ⟨rfl, rfl⟩
    · cases ambient
      exact saying_speaks _
  · obtain ⟨effect, active, ambient⟩ := List.mem_filterMap.1 ambient
    obtain ⟨id, -, found⟩ := List.mem_filterMap.1 active
    rw [effect_eq found] at ambient
    cases ambient
    exact saying_speaks _

theorem does_arrive {origin destination : Room} {direction : String}
    (passage : world.Passage session origin direction destination) :
    DoesDeeds verb session (world.arrive session origin destination) := by
  obtain ⟨way, here⟩ := way_of_passage passage
  refine World.does_arrive (ambience_speaks passage.there) ?_
  rw [World.arrivalUpdate, here]
  exact .walk way

/-- What all things at hand do are deeds, but for the cat, which has to be given the fish. -/
theorem AtHand.each {thing : Thing} (hand : AtHand session thing) :
    (thing = Cottage.cat ∧ session.room = "kitchen") ∨
      thing.EachCue fun cue => DoesDeeds verb session (.derived cue) := by
  cases hand with
  | lamp near =>
    exact .inr (lamp_each does_saying (does_take (by simp [keptIn]) near) does_lightLamp)
  | fish near => exact .inr (fish_each (does_take (by simp [keptIn]) near))
  | cat here => exact .inl ⟨rfl, here⟩
  | scenery listed => exact .inr (scenery_each does_useKettle thing listed)

theorem AtHand.carries_fish {thing : Thing} (hand : AtHand session thing)
    (named : thing.id = some "fish") (here : session.room = "kitchen") :
    "fish" ∈ session.inventory := by
  cases hand with
  | lamp => exact absurd named (by decide)
  | fish near => exact near.resolve_right fun ⟨there, _⟩ => by simp [here] at there
  | cat => exact absurd named (by decide)
  | scenery listed =>
    have nameless : ∀ thing ∈ Cottage.scenery, thing.id = none := by
      simp [Cottage.scenery, flame, jars, doorway, kettle, trapdoor, barrel, Thing.on, Thing.called]
    rw [nameless thing listed] at named
    cases named

theorem coversAtHand (own : ∀ id ∈ session.inventory, id = "lamp" ∨ id = "fish") :
    CoversAtHand (DoesDeeds verb session) world session where
  words _ _ := .words
  alone addressed entry reacts := by
    refine Interaction.does_cued.2 ?_
    rcases (atHand_of_addressable own addressed).each with ⟨rfl, here⟩ | each
    · rw [cat_alone entry reacts]
      exact does_talkToCat here
    · exact (each.verbs entry).alone reacts
  together hactor htarget entry reacts := by
    rcases (atHand_of_addressable own hactor).each with ⟨rfl, here⟩ | each
    · obtain ⟨rfl, named⟩ := cat_to entry reacts
      exact does_feedCat here ((atHand_of_addressable own htarget).carries_fish named here)
    · exact (each.verbs entry).to reacts
  arrive := does_arrive

/-- Whatever is asked for, nothing comes of it but a deed. -/
theorem outcomeIn_deed {wordings settings : Settings} {prompt : Varying String} {action : Action}
    {outcome : Outcome} (own : ∀ id ∈ session.inventory, id = "lamp" ∨ id = "fish")
    (comes : (Resolver.standard wordings settings prompt).outcomeIn session world action
      = some outcome) :
    Deed session (Resolver.interpret session world action).1 outcome.change outcome.close := by
  obtain ⟨script, does, performed⟩ := Resolver.standard_performed (coversAtHand own)
    (fun restarts _ => .restart restarts) (fun misses _ => .misunderstanding misses) comes
  rwa [DoesDeeds, Script.Does, performed] at does

end Deeds

end Cottage

end TextAdventure
