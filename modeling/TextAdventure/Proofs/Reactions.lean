import TextAdventure.Interaction

/-!
# Reactions at the end of synonyms

A thing takes a verb as it takes the verb at the end of the synonyms that start there
(`Thing.Redirects`). By itself it gives its own reaction there, or a walk if it has no entry and
leads somewhere (`Interaction.Gives`), and nothing if the synonyms are too many or never end
(`Interaction.applyAlone_eq_some_iff`). Used on another thing, it gives its reaction to it
(`Interaction.tryApply_eq`).
-/

namespace TextAdventure

/-- The reaction when a thing with this entry is used by itself. -/
def Handler.alone : Handler → Option Reaction
  | literal text => some (.say text)
  | keyed reactions => reactions.alone
  | dynamic cue => some (.run cue)
  | synonym _ => none

/-- The reaction when a thing with this entry is used with another one. -/
def Handler.to (other : Option String) : Handler → Option Reaction
  | keyed reactions => reactions.to other
  | literal _ | synonym _ | dynamic _ => none

namespace Thing

/-- Following so many synonyms from one verb in a thing's table leads to another. -/
inductive Redirects (thing : Thing) : Nat → String → String → Prop where
  | here (verb : String) : Redirects thing 0 verb verb
  | next {count : Nat} {verb other last : String}
      (synonym : thing.handler? verb = some (.synonym other))
      (rest : Redirects thing count other last) :
      Redirects thing (count + 1) verb last

/-- The entry of a thing for a verb after all synonyms, if they are not too many. -/
def entry? (thing : Thing) : Nat → String → Option Handler
  | redirects, verb =>
    match thing.handler? verb, redirects with
    | some (.synonym _), 0 => none
    | some (.synonym next), redirects + 1 => thing.entry? redirects next
    | found, _ => found

def reactionAlone? (thing : Thing) (verb : String) : Option Reaction :=
  (thing.entry? maxRedirects verb).bind Handler.alone

def reactionTo? (actor target : Thing) (verb : String) : Option Reaction :=
  (actor.entry? maxRedirects verb).bind (Handler.to target.id)

/-- What is found after synonyms is the entry at their end, if it can be reached by as many as may
follow one another. -/
theorem entry?_eq_some_iff {thing : Thing} {handler : Handler} {redirects : Nat} {verb : String} :
    thing.entry? redirects verb = some handler ↔
      ∃ count ≤ redirects, ∃ last, thing.Redirects count verb last ∧
        thing.handler? last = some handler ∧ ∀ next, handler ≠ .synonym next := by
  constructor
  · fun_induction entry? thing redirects verb with
    | case1 => exact nofun
    | case2 verb next redirects synonym ih =>
      intro found
      obtain ⟨count, few, last, path, entry, final⟩ := ih found
      exact ⟨count + 1, by omega, last, .next synonym path, entry, final⟩
    | case3 redirects verb out onward =>
      intro found
      refine ⟨0, by omega, verb, .here verb, found, ?_⟩
      rintro next rfl
      match redirects with
      | 0 => exact out next found rfl
      | redirects + 1 => exact onward next redirects found rfl
  · rintro ⟨count, few, last, path, entry, final⟩
    induction path generalizing redirects with
    | here verb =>
      unfold Thing.entry?
      split
      · next synonym => exact absurd (Option.some.inj (entry.symm.trans synonym)) (final _)
      · next synonym => exact absurd (Option.some.inj (entry.symm.trans synonym)) (final _)
      · exact entry
    | next synonym rest ih =>
      obtain ⟨redirects, rfl⟩ : ∃ n, redirects = n + 1 := ⟨redirects - 1, by omega⟩
      unfold Thing.entry?
      rw [synonym]
      exact ih (by omega) entry

/-- Whatever is found after synonyms is an entry of the thing for some verb. -/
theorem handler?_of_entry? {thing : Thing} {handler : Handler} {redirects : Nat} {verb : String}
    (found : thing.entry? redirects verb = some handler) :
    ∃ last, thing.handler? last = some handler := by
  obtain ⟨_, _, last, _, entry, _⟩ := entry?_eq_some_iff.1 found
  exact ⟨last, entry⟩

end Thing

def Reaction.script : Reaction → Script
  | say text => .say text
  | run cue => .derived cue

/-- The script of a reaction of a thing by itself, which is about the thing. -/
def Reaction.scriptAbout (thing : Thing) : Reaction → Script
  | say text => Interaction.literal text thing
  | run cue => Interaction.cued cue thing

namespace Interaction

variable (i : Interaction) (session : Session) (w : World)

/-- What a thing gives by itself for a verb, which is no synonym any more: its own reaction, or the
way that it leads. -/
inductive Gives (thing : Thing) (verb : String) : Script → Prop where
  | reaction {handler : Handler} {reaction : Reaction}
      (entry : thing.handler? verb = some handler) (alone : handler.alone = some reaction) :
      Gives thing verb (reaction.scriptAbout thing)
  | walk {direction : String} (entry : thing.handler? verb = none) (passable : i.exits = true)
      (leads : thing.exit = some direction) : Gives thing verb (w.go session direction)

variable {i session w}

/-- With an entry at the end of its synonyms, a thing gives its own reaction there and never a
walk. -/
theorem applyAlone_of_entry {thing : Thing} {handler : Handler} {redirects : Nat} {verb : String}
    (found : thing.entry? redirects verb = some handler) :
    i.applyAlone session w thing redirects verb
      = handler.alone.map (Reaction.scriptAbout thing) := by
  obtain ⟨count, few, last, path, entry, final⟩ := Thing.entry?_eq_some_iff.1 found
  clear found
  induction path generalizing redirects with
  | here verb =>
    unfold applyAlone
    rw [entry]
    rcases handler with text | next | reactions | cue
    case synonym => exact absurd rfl (final next)
    case keyed =>
      dsimp only [Handler.alone]
      rcases reactions.alone with _ | text | cue <;> rfl
    all_goals rfl
  | next synonym rest ih =>
    obtain ⟨redirects, rfl⟩ : ∃ n, redirects = n + 1 := ⟨redirects - 1, by omega⟩
    unfold applyAlone
    rw [synonym]
    exact ih (by omega) entry

theorem Gives.eq_applyAlone {thing : Thing} {verb : String} {script : Script}
    (gives : i.Gives session w thing verb script) (redirects : Nat) :
    i.applyAlone session w thing redirects verb = some script := by
  cases gives with
  | @reaction handler reaction entry alone =>
    have final : ∀ next, handler ≠ .synonym next := by
      rintro next rfl
      cases alone
    have ends : thing.entry? redirects verb = some handler :=
      Thing.entry?_eq_some_iff.2 ⟨0, by omega, verb, .here verb, entry, final⟩
    rw [applyAlone_of_entry ends, alone]
    rfl
  | walk entry passable leads =>
    unfold applyAlone
    simp only [entry, passable, leads, ↓reduceIte, Option.map_some]

/-- What comes of a thing by itself is what it gives at the end of its synonyms, if it can be
reached by as many as may follow one another. -/
theorem applyAlone_eq_some_iff {thing : Thing} {redirects : Nat} {verb : String} {script : Script} :
    i.applyAlone session w thing redirects verb = some script ↔
      ∃ count ≤ redirects, ∃ last, thing.Redirects count verb last ∧
        i.Gives session w thing last script := by
  constructor
  · fun_induction applyAlone i session w thing redirects verb with
    | case1 => exact nofun
    | case2 verb next redirects synonym ih =>
      intro comes
      obtain ⟨count, few, last, path, gives⟩ := ih comes
      exact ⟨count + 1, by omega, last, .next synonym path, gives⟩
    | case3 redirects verb text entry =>
      rintro ⟨⟩
      exact ⟨0, by omega, verb, .here verb, .reaction entry rfl⟩
    | case4 redirects verb reactions entry text alone =>
      rintro ⟨⟩
      exact ⟨0, by omega, verb, .here verb, .reaction entry alone⟩
    | case5 redirects verb reactions entry cue alone =>
      rintro ⟨⟩
      exact ⟨0, by omega, verb, .here verb, .reaction entry alone⟩
    | case6 => exact nofun
    | case7 redirects verb cue entry =>
      rintro ⟨⟩
      exact ⟨0, by omega, verb, .here verb, .reaction entry rfl⟩
    | case8 redirects verb entry passable =>
      intro comes
      obtain ⟨direction, leads, rfl⟩ := Option.map_eq_some_iff.1 comes
      exact ⟨0, by omega, verb, .here verb, .walk entry passable leads⟩
    | case9 => exact nofun
  · rintro ⟨count, few, last, path, gives⟩
    induction path generalizing redirects with
    | here verb => exact gives.eq_applyAlone redirects
    | next synonym rest ih =>
      obtain ⟨redirects, rfl⟩ : ∃ n, redirects = n + 1 := ⟨redirects - 1, by omega⟩
      unfold applyAlone
      rw [synonym]
      exact ih (by omega) gives

/-- By itself a thing does the same in two worlds, unless it is walked through and the player gets
elsewhere. -/
theorem applyAlone_congr {w' : World} (goes : i.exits = true → w.go session = w'.go session) :
    i.applyAlone session w = i.applyAlone session w' := by
  funext thing redirects verb
  have walks : (if i.exits then thing.exit.map (w.go session) else none)
      = if i.exits then thing.exit.map (w'.go session) else none := by
    split
    · next passable => rw [goes passable]
    · rfl
  -- the world is asked only where a thing leads; along synonyms the thing stays the same
  induction redirects generalizing verb with
  | zero =>
    unfold applyAlone
    rcases thing.handler? verb with _ | text | next | reactions | given
    · exact walks
    all_goals rfl
  | succ redirects ih =>
    unfold applyAlone
    rcases thing.handler? verb with _ | text | next | reactions | given
    case none => exact walks
    case some.synonym => exact ih next
    all_goals rfl

theorem applyAlone_of_run (i : Interaction) (session : Session) (w : World) {thing : Thing}
    {cue : Cue} {redirects : Nat} {verb : String}
    (reacts : (thing.entry? redirects verb).bind Handler.alone = some (.run cue)) :
    i.applyAlone session w thing redirects verb = some (cued cue thing) := by
  obtain ⟨handler, found, alone⟩ := Option.bind_eq_some_iff.1 reacts
  rw [applyAlone_of_entry found, alone]
  rfl

theorem tryApply_eq (actor target : Thing) (redirects : Nat) (verb : String) :
    tryApply actor target redirects verb
      = ((actor.entry? redirects verb).bind (Handler.to target.id)).map Reaction.script := by
  induction redirects generalizing verb with
  | zero =>
    unfold tryApply Thing.entry?
    rcases actor.handler? verb with _ | text | next | reactions | given <;> rfl
  | succ redirects ih =>
    unfold tryApply Thing.entry?
    rcases actor.handler? verb with _ | text | next | reactions | given <;> try rfl
    exact ih next

end Interaction

end TextAdventure
