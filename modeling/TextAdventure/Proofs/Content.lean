import TextAdventure.Lookup
import TextAdventure.Proofs.Performance
import TextAdventure.Proofs.Reactions

/-!
# What the content of a world can do

The cues of a world are functions that an author wrote: all that is known of them is what is asked
of them. A script is always of some kind if each of its outcomes is, whatever its cues are asked
with (`Script.Always`), or are asked with in sessions of some kind (`Script.AlwaysFrom`). A kind
that merging keeps is then that of the outcome of the whole (`Script.AlwaysFrom.outcome`,
`Script.Always.outcome`). What is asked of every cue of a world (`World.EachCue`) holds of those of
every thing that can be addressed (`World.EachCue.of_addressable`).
-/

namespace TextAdventure

/-- Merging two outcomes of a kind gives one of this kind. -/
def ClosedUnderMerge (P : Outcome → Prop) : Prop :=
  ∀ earlier later : Outcome, P earlier → P later → P (earlier.merge later)

/-- Every outcome in a script is of a kind, whatever its cues are asked with. -/
inductive Script.Always (P : Outcome → Prop) : Script → Prop where
  | leaf {outcome : Outcome} (h : P outcome) : Always P (.leaf outcome)
  | derived {cue : Cue}
      (h : ∀ session verb script, cue session verb = some script → Always P script) :
      Always P (.derived cue)
  | sequence {items : List Script} (h : ∀ item ∈ items, Always P item) :
      Always P (.sequence items)

/-- Every outcome in a script is of a kind, as long as its cues are asked in sessions of a kind. -/
inductive Script.AlwaysFrom (S : Session → Prop) (P : Outcome → Prop) : Script → Prop where
  | leaf {outcome : Outcome} (h : P outcome) : AlwaysFrom S P (.leaf outcome)
  | derived {cue : Cue}
      (h : ∀ session verb script, S session → cue session verb = some script →
        AlwaysFrom S P script) :
      AlwaysFrom S P (.derived cue)
  | sequence {items : List Script} (h : ∀ item ∈ items, AlwaysFrom S P item) :
      AlwaysFrom S P (.sequence items)

namespace Script

variable {S : Session → Prop} {P Q : Outcome → Prop}

theorem Always.mono (imp : ∀ outcome, P outcome → Q outcome) {script : Script}
    (h : script.Always P) : script.Always Q := by
  induction h with
  | leaf h => exact .leaf (imp _ h)
  | derived _ ih => exact .derived ih
  | sequence _ ih => exact .sequence ih

theorem Always.alwaysFrom {script : Script} (h : script.Always P) : script.AlwaysFrom S P := by
  induction h with
  | leaf h => exact .leaf h
  | derived _ ih => exact .derived fun session verb script _ => ih session verb script
  | sequence _ ih => exact .sequence ih

/-- The outcome so far makes a session of the kind that the first one is of. -/
theorem from_changeSofar (kept : ∀ s outcome, S s → P outcome → S (s.apply outcome.change))
    {session : Session} (start : S session) {sofar : Option Outcome}
    (hsofar : ∀ outcome, sofar = some outcome → P outcome) :
    S (session.apply (changeSofar sofar)) := by
  cases sofar with
  | none => exact start
  | some earlier => exact kept session earlier start (hsofar earlier rfl)

/-- The outcome so far stays of a kind if that of the next item is of it. -/
theorem continueWith_kind (closed : ClosedUnderMerge P)
    (kept : ∀ s outcome, S s → P outcome → S (s.apply outcome.change)) {verb : String}
    {session : Session} (start : S session) {item : Script}
    (hitem : ∀ s outcome, S s → item.perform verb s = some outcome → P outcome)
    {sofar : Option Outcome} (hsofar : ∀ outcome, sofar = some outcome → P outcome) :
    ∀ outcome, continueWith verb session sofar item = some outcome → P outcome := by
  intro outcome h
  unfold continueWith at h
  split at h
  · exact hsofar outcome h
  · split at h
    · exact hsofar outcome h
    · next step hperform =>
      have hstep := hitem _ step (from_changeSofar kept start hsofar) hperform
      cases h
      cases sofar with
      | none => exact hstep
      | some earlier => exact closed _ _ (hsofar earlier rfl) hstep

/-- What is performed in a session of the kind has an outcome of the kind, if the outcomes keep the
session of its kind. -/
theorem AlwaysFrom.outcome (closed : ClosedUnderMerge P)
    (kept : ∀ s outcome, S s → P outcome → S (s.apply outcome.change)) {script : Script}
    (h : script.AlwaysFrom S P) {verb : String} :
    ∀ {session : Session} {outcome : Outcome}, S session →
      script.perform verb session = some outcome → P outcome := by
  induction h with
  | leaf h =>
    intro _ _ _ eq
    cases eq
    exact h
  | derived _ ih =>
    intro session outcome start eq
    rw [perform, performCued_eq] at eq
    obtain ⟨script, hcue, hperform⟩ := Option.bind_eq_some_iff.1 eq
    exact ih session verb script start hcue start hperform
  | sequence _ ih =>
    intro session outcome start eq
    rw [perform_sequence] at eq
    exact List.foldlRecOn (motive := fun sofar => ∀ outcome, sofar = some outcome → P outcome) _ _
      (fun _ h => by cases h)
      (fun _ hsofar item mem =>
        continueWith_kind closed kept start (fun _ _ known h => ih item mem known h) hsofar)
      outcome eq

theorem Always.outcome (closed : ClosedUnderMerge P) {script : Script} (h : script.Always P)
    {verb : String} {session : Session} {outcome : Outcome}
    (performed : script.perform verb session = some outcome) : P outcome :=
  (h.alwaysFrom (S := fun _ => True)).outcome closed (fun _ _ _ _ => trivial) trivial performed

/-- What is known of the outcome so far stays known over items whose outcomes let it alone. -/
theorem foldl_continueWith_keeps (closed : ClosedUnderMerge Q)
    (kept : ∀ sofar step, P sofar → Q step → P (sofar.merge step)) {items : List Script}
    (lets : ∀ item ∈ items, item.Always Q) (verb : String) (session : Session) {first : Outcome}
    (start : P first) :
    ∃ outcome, items.foldl (continueWith verb session) (some first) = some outcome ∧ P outcome := by
  refine List.foldlRecOn
    (motive := fun sofar : Option Outcome => ∃ outcome, sofar = some outcome ∧ P outcome) items _
    ⟨first, rfl, start⟩ ?_
  rintro _ ⟨sofar, rfl, known⟩ item mem
  unfold continueWith
  split
  · exact ⟨sofar, rfl, known⟩
  · split
    · exact ⟨sofar, rfl, known⟩
    · next step performed =>
      exact ⟨_, rfl, kept sofar step known ((lets item mem).outcome closed performed)⟩

end Script

/-- The part about a thing, when nothing follows it. -/
def Thing.noticed (thing : Thing) : Outcome :=
  { message := "", context := thing.reference }

/-- A cue of a thing is asked in the session as it was, and what it gives follows the part about the
thing. -/
theorem Interaction.perform_cued (cue : Cue) (thing : Thing) (verb : String) (session : Session) :
    (cued cue thing).perform verb session
      = some (((Script.derived cue).perform verb session).elim thing.noticed
          thing.noticed.merge) := by
  have noticed : (Script.about thing.reference).perform verb session = some thing.noticed := by
    rw [Script.about, Script.perform]
    rfl
  -- so far nothing is changed
  have still : session.apply (Script.changeSofar (some thing.noticed)) = session := rfl
  have goesOn : (some thing.noticed).any (·.close) = false := rfl
  rw [cued, Script.perform_andThen, noticed, Script.continueWith, still, goesOn]
  cases (Script.derived cue).perform verb session <;> rfl

section EachCue

variable (P : Cue → Prop)

def Reaction.EachCue : Reaction → Prop
  | say _ => True
  | run cue => P cue

structure Reactions.EachCue (reactions : Reactions) : Prop where
  byId : ∀ {id reaction}, reactions.byId.get? id = some reaction → reaction.EachCue P
  toAny : ∀ {reaction}, reactions.toAny = some reaction → reaction.EachCue P
  alone : ∀ {reaction}, reactions.alone = some reaction → reaction.EachCue P

def Handler.EachCue : Handler → Prop
  | literal _ | synonym _ => True
  | keyed reactions => reactions.EachCue P
  | dynamic cue => P cue

structure Thing.EachCue (thing : Thing) : Prop where
  verbs : ∀ {verb handler}, thing.handler? verb = some handler → handler.EachCue P

structure Room.EachCue (room : Room) : Prop where
  things : ∀ thing ∈ room.things, thing.EachCue P
  ambient : ∀ {cue}, room.ambient = some cue → P cue

structure Effect.EachCue (effect : Effect) : Prop where
  things : ∀ thing ∈ effect.things, thing.EachCue P
  ambient : ∀ {cue}, effect.ambient = some cue → P cue

/-- What is asked of every cue of a world's content. -/
structure World.EachCue (w : World) : Prop where
  rooms : ∀ {id room}, w.rooms.get? id = some room → room.EachCue P
  items : ∀ {id thing}, w.items.get? id = some thing → thing.EachCue P
  effects : ∀ {id effect}, w.effects.get? id = some effect → effect.EachCue P

end EachCue

/-- Every outcome that a world's content can have is of a kind. -/
def World.ContentAlways (P : Outcome → Prop) (w : World) : Prop :=
  w.EachCue fun cue => (Script.derived cue).Always P

variable {P Q : Cue → Prop}

section Mono

variable (imp : ∀ cue, P cue → Q cue)

include imp

theorem Reaction.EachCue.mono : ∀ {reaction : Reaction}, reaction.EachCue P → reaction.EachCue Q
  | .say _, _ => trivial
  | .run cue, h => imp cue h

theorem Handler.EachCue.mono : ∀ {handler : Handler}, handler.EachCue P → handler.EachCue Q
  | .literal _, _ | .synonym _, _ => trivial
  | .keyed _, h =>
    { byId := fun found => (h.byId found).mono imp
      toAny := fun found => (h.toAny found).mono imp
      alone := fun found => (h.alone found).mono imp }
  | .dynamic cue, h => imp cue h

theorem Thing.EachCue.mono {thing : Thing} (h : thing.EachCue P) : thing.EachCue Q where
  verbs found := (h.verbs found).mono imp

theorem World.EachCue.mono {w : World} (h : w.EachCue P) : w.EachCue Q where
  rooms found :=
    { things := fun thing mem => ((h.rooms found).things thing mem).mono imp
      ambient := fun eq => imp _ ((h.rooms found).ambient eq) }
  items found := (h.items found).mono imp
  effects found :=
    { things := fun thing mem => ((h.effects found).things thing mem).mono imp
      ambient := fun eq => imp _ ((h.effects found).ambient eq) }

end Mono

theorem World.ContentAlways.mono {P Q : Outcome → Prop} (imp : ∀ outcome, P outcome → Q outcome)
    {w : World} (h : w.ContentAlways P) : w.ContentAlways Q :=
  World.EachCue.mono (fun _ always => always.mono imp) h

theorem Reactions.EachCue.to {reactions : Reactions} (h : reactions.EachCue P)
    {id : Option String} {reaction : Reaction} (found : reactions.to id = some reaction) :
    reaction.EachCue P := by
  rw [Reactions.to, Option.orElse_eq_orElse, Option.orElse_eq_or, Option.or_eq_some_iff] at found
  rcases found with found | ⟨-, found⟩
  · obtain ⟨id, -, found⟩ := Option.bind_eq_some_iff.1 found
    exact h.byId found
  · exact h.toAny found

theorem Handler.EachCue.alone {handler : Handler} (h : handler.EachCue P) {cue : Cue}
    (reacts : handler.alone = some (.run cue)) : P cue := by
  match handler, reacts with
  | .keyed _, reacts => exact Reactions.EachCue.alone h reacts
  | .dynamic _, rfl => exact h

theorem Handler.EachCue.to {handler : Handler} (h : handler.EachCue P) {other : Option String}
    {cue : Cue} (reacts : handler.to other = some (.run cue)) : P cue := by
  match handler, reacts with
  | .keyed _, reacts => exact Reactions.EachCue.to h reacts

theorem World.mem_candidates {w : World} {session : Session} {word : String} {thing : Thing} :
    thing ∈ w.candidates session word ↔
      Text.normal word ≠ "" ∧ thing ∈ w.addressable session ∧
        thing.answersTo (Text.normal word) := by
  unfold candidates
  dsimp only
  split
  · next blank => simp [blank]
  · next spoken => simp [spoken]

theorem World.mem_addressable {w : World} {session : Session} {thing : Thing} :
    thing ∈ w.addressable session ↔
      thing ∈ w.effectThings session ∨ thing ∈ w.carriedThings session
        ∨ thing ∈ w.presentThings session := by
  rw [addressable, List.mem_append, List.mem_append, or_assoc]

theorem World.mem_carriedThings {w : World} {session : Session} {thing : Thing} :
    thing ∈ w.carriedThings session ↔ ∃ id ∈ session.inventory, w.items.get? id = some thing := by
  rw [carriedThings, List.mem_filterMap]
  simp only [IdSet.mem_toList]

theorem World.mem_presentThings {w : World} {session : Session} {thing : Thing} :
    thing ∈ w.presentThings session ↔
      thing ∈ (w.currentRoom session).elim [] (·.things) ∧ thing.visible session
        ∧ thing.id.any session.isGone = false := by
  unfold presentThings
  cases w.currentRoom session with
  | none => simp
  | some room => simp [isPresent]

namespace World.EachCue

variable {w : World}

theorem of_addressable (h : w.EachCue P) {session : Session} {thing : Thing}
    (mem : thing ∈ w.addressable session) : thing.EachCue P := by
  rcases mem_addressable.1 mem with mem | mem | mem
  · obtain ⟨effect, active, mem⟩ := List.mem_flatMap.1 mem
    obtain ⟨id, -, found⟩ := List.mem_filterMap.1 active
    exact (h.effects found).things thing mem
  · obtain ⟨id, -, found⟩ := mem_carriedThings.1 mem
    exact h.items found
  · unfold presentThings at mem
    split at mem
    · next room found => exact (h.rooms found).things thing (List.mem_filter.1 mem).1
    · cases mem

/-- Adding a room adds its cues, and makes items of its things. -/
theorem addRoom (h : w.EachCue P) {room : Room} (hroom : room.EachCue P) :
    (w.addRoom room).EachCue P where
  rooms {id other} found := by
    rw [World.addRoom, Catalog.get?_file] at found
    split at found
    · cases found
      exact hroom
    · exact h.rooms found
  items := by
    refine List.foldlRecOn (motive := fun items : Dictionary Thing =>
      ∀ {id thing}, items.get? id = some thing → thing.EachCue P) room.things addRoomThing
      h.items ?_
    intro items kept thing mem id other found
    unfold addRoomThing at found
    split at found
    · rw [Dictionary.get?_insertNew] at found
      split at found
      · cases found
        exact hroom.things thing mem
      · exact kept found
    · exact kept found
  effects found := h.effects found

/-- There are no cues in a world of nothing. -/
theorem bare (id start : String) : World.EachCue P { id, start } where
  rooms found := by cases found
  items found := by cases found
  effects found := by cases found

/-- There are none in a room without things and narration. -/
theorem addRoom_silent (h : w.EachCue P) {room : Room} (empty : room.things = [])
    (silent : room.ambient = none) : (w.addRoom room).EachCue P :=
  h.addRoom
    { things := fun _ mem => by simp [empty] at mem
      ambient := fun eq => by simp [silent] at eq }

end World.EachCue

end TextAdventure
