import TextAdventure.Proofs.Performance

/-!
# How a script is grouped makes no difference

Merging outcomes is associative (`Outcome.merge_assoc`), and a sequence within another goes on from
the outcome so far as its items would (`Script.foldl_continueWith_eq`). So a script may be written
as one flat sequence (`Script.perform_flat`), and scripts may be put after one another in any
grouping; a cue may be replaced by the script that it gives where it stands
(`Script.grouping_irrelevant`).
-/

namespace TextAdventure

namespace Outcome

theorem joinMessages_assoc (first second third : String) :
    joinMessages (joinMessages first second) third
      = joinMessages first (joinMessages second third) := by
  by_cases h : first = ""
  · simp [joinMessages, h]
  · by_cases h' : second = ""
    · simp [joinMessages, h, h']
    · by_cases h'' : third = ""
      · simp [joinMessages, h, h', h'']
      · simp [joinMessages, h, h', h'', String.append_assoc]

/-- An empty reference is passed over at either end, so the newest one is the last one that is
not empty, or else the first. -/
theorem newest_assoc (first second third : Option String) :
    newest (newest first second) third = newest first (newest second third) := by
  simp only [newest, Option.orElse_eq_orElse, Option.orElse_eq_or]
  rcases h : third.filter (· ≠ "") with _ | latest
  · rw [Option.none_or, Option.none_or]
  · obtain ⟨-, present⟩ := Option.filter_eq_some_iff.1 h
    rw [Option.some_or, Option.some_or, Option.filter_some, if_pos present, Option.some_or]

theorem mergeUpdates_eq (first second : Option Update) :
    mergeUpdates first second = Option.merge Update.merge first second := by
  cases first <;> cases second <;> rfl

theorem merge_assoc (first second third : Outcome) :
    (first.merge second).merge third = first.merge (second.merge third) := by
  simp only [merge, joinMessages_assoc, newest_assoc, Bool.or_assoc, mergeUpdates_eq,
    (Option.associative_merge Update.merge).assoc]

instance : Std.Associative merge := ⟨merge_assoc⟩

end Outcome

namespace Script

theorem after_eq_merge (sofar : Option Outcome) (step : Outcome) :
    some (after sofar step) = Option.merge Outcome.merge sofar (some step) := by
  cases sofar <;> rfl

theorem continueWith_of_open {verb : String} {session : Session} {sofar : Option Outcome}
    (h : sofar.any (·.close) = false) (item : Script) :
    continueWith verb session sofar item = Option.merge Outcome.merge sofar
      (item.perform verb (session.apply (changeSofar sofar))) := by
  rw [continueWith, h]
  cases item.perform verb (session.apply (changeSofar sofar)) with
  | none => exact Option.merge_none_right.symm
  | some step => exact after_eq_merge sofar step

theorem apply_changeSofar_merge (session : Session) (sofar later : Option Outcome) :
    session.apply (changeSofar (Option.merge Outcome.merge sofar later))
      = (session.apply (changeSofar sofar)).apply (changeSofar later) := by
  cases later with
  | none => rw [Option.merge_none_right]; rfl
  | some step => rw [← after_eq_merge, apply_changeSofar_after]; rfl

theorem any_close_merge (sofar later : Option Outcome) :
    (Option.merge Outcome.merge sofar later).any (·.close)
      = (sofar.any (·.close) || later.any (·.close)) :=
  Option.any_merge fun _ _ => rfl

/-- What comes after an open outcome so far can be merged by itself first: it is performed in the
session that the outcome so far makes, and it closes the conversation at the same item. -/
theorem foldl_continueWith_merge {verb : String} {session : Session} {sofar : Option Outcome}
    (hopen : sofar.any (·.close) = false) :
    ∀ (items : List Script) (later : Option Outcome),
      items.foldl (continueWith verb session) (Option.merge Outcome.merge sofar later)
        = Option.merge Outcome.merge sofar
            (items.foldl (continueWith verb (session.apply (changeSofar sofar))) later)
  | [], _ => rfl
  | item :: items, later => by
    have closes := any_close_merge sofar later
    rw [hopen, Bool.false_or] at closes
    rw [List.foldl_cons, List.foldl_cons]
    rcases h : later.any (·.close)
    · rw [continueWith_of_open (closes.trans h), continueWith_of_open h, apply_changeSofar_merge,
        (Option.associative_merge Outcome.merge).assoc]
      exact foldl_continueWith_merge hopen items _
    · rw [continueWith_closed (closes.trans h), continueWith_closed h]
      exact foldl_continueWith_merge hopen items later

/-- The items of a sequence may stand in its place. -/
theorem foldl_continueWith_eq (verb : String) (session : Session) (items : List Script)
    (sofar : Option Outcome) :
    items.foldl (continueWith verb session) sofar
      = continueWith verb session sofar (sequence items) := by
  rcases h : sofar.any (·.close)
  · rw [continueWith_of_open h, perform_sequence, ← foldl_continueWith_merge h,
      Option.merge_none_right]
  · rw [continueWith_closed h, foldl_continueWith_closed h]

mutual

/-- The outcomes and cues of a script in their order, with every sequence in it spliced into the
one around it. -/
def parts : Script → List Script
  | leaf outcome => [leaf outcome]
  | derived cue => [derived cue]
  | sequence items => partsAll items

/-- The parts of all items of a sequence. -/
def partsAll : List Script → List Script
  | [] => []
  | item :: items => parts item ++ partsAll items

end

mutual

theorem sequence_notMem_parts : ∀ (script : Script) (items : List Script),
    sequence items ∉ script.parts
  | leaf outcome, _, mem => by
    rw [parts, List.mem_singleton] at mem
    cases mem
  | derived cue, _, mem => by
    rw [parts, List.mem_singleton] at mem
    cases mem
  | sequence inner, items, mem => by
    rw [parts] at mem
    exact sequence_notMem_partsAll inner items mem

theorem sequence_notMem_partsAll : ∀ (inner items : List Script),
    sequence items ∉ partsAll inner
  | [], _, mem => by
    rw [partsAll] at mem
    cases mem
  | item :: inner, items, mem => by
    rw [partsAll, List.mem_append] at mem
    rcases mem with mem | mem
    · exact sequence_notMem_parts item items mem
    · exact sequence_notMem_partsAll inner items mem

end

mutual

theorem foldl_parts (verb : String) (session : Session) :
    ∀ (script : Script) (sofar : Option Outcome),
      script.parts.foldl (continueWith verb session) sofar
        = continueWith verb session sofar script
  | leaf outcome, sofar => by rw [parts]; rfl
  | derived cue, sofar => by rw [parts]; rfl
  | sequence items, sofar => by
    rw [parts, foldl_partsAll verb session items, foldl_continueWith_eq]

theorem foldl_partsAll (verb : String) (session : Session) :
    ∀ (items : List Script) (sofar : Option Outcome),
      (partsAll items).foldl (continueWith verb session) sofar
        = items.foldl (continueWith verb session) sofar
  | [], sofar => by rw [partsAll]
  | item :: items, sofar => by
    rw [partsAll, List.foldl_append, foldl_parts verb session item,
      foldl_partsAll verb session items, List.foldl_cons]

end

/-- The script as one sequence without others in it. -/
def flat (script : Script) : Script :=
  sequence script.parts

theorem perform_flat (verb : String) (script : Script) (session : Session) :
    script.flat.perform verb session = script.perform verb session := by
  rw [flat, perform_sequence, foldl_parts, continueWith_none]

/-- The items around a place in a sequence. -/
structure Gap where
  before : List Script
  after : List Script

/-- A script at a place in others: sequences within one another, the outermost first. -/
def within : List Gap → Script → Script
  | [], script => script
  | gap :: gaps, script => sequence (gap.before ++ within gaps script :: gap.after)

/-- The session in which a script at that place is performed. -/
def sessionWithin (verb : String) : List Gap → Session → Session
  | [], session => session
  | gap :: gaps, session => sessionWithin verb gaps
      (session.apply (changeSofar ((sequence gap.before).perform verb session)))

theorem continueWith_congr {verb : String} {session : Session} {sofar : Option Outcome}
    {script other : Script}
    (same : script.perform verb (session.apply (changeSofar sofar))
      = other.perform verb (session.apply (changeSofar sofar))) :
    continueWith verb session sofar script = continueWith verb session sofar other := by
  rw [continueWith, continueWith, same]

/-- Scripts with the same outcome where they stand may stand for each other there. -/
theorem perform_within_congr {verb : String} {script other : Script} :
    ∀ (gaps : List Gap) {session : Session},
      script.perform verb (sessionWithin verb gaps session)
        = other.perform verb (sessionWithin verb gaps session) →
      (within gaps script).perform verb session = (within gaps other).perform verb session
  | [], _, same => same
  | gap :: gaps, session, same => by
    have inside := perform_within_congr gaps same
    rw [perform_sequence] at inside
    rw [within, within, perform_sequence, perform_sequence, List.foldl_append, List.foldl_append,
      List.foldl_cons, List.foldl_cons, continueWith_congr inside]

/-- Two scripts have the same outcome for every session and verb, wherever they stand. -/
def Interchangeable (script other : Script) : Prop :=
  ∀ (gaps : List Gap) (verb : String) (session : Session),
    (within gaps script).perform verb session = (within gaps other).perform verb session

theorem Interchangeable.of_perform {script other : Script}
    (same : ∀ verb session, script.perform verb session = other.perform verb session) :
    script.Interchangeable other :=
  fun _ _ _ => perform_within_congr _ (same _ _)

theorem perform_andThen_andThen (verb : String) (first second third : Script)
    (session : Session) :
    ((first.andThen second).andThen third).perform verb session
      = (sequence [first, second, third]).perform verb session := by
  rw [perform_andThen, perform_andThen, perform_sequence, List.foldl_cons, continueWith_none]
  rfl

theorem perform_andThen_assoc (verb : String) (first second third : Script) (session : Session) :
    (first.andThen (second.andThen third)).perform verb session
      = ((first.andThen second).andThen third).perform verb session := by
  have pair (s : Session) : (second.andThen third).perform verb s
      = (sequence [second, third]).perform verb s := by
    rw [perform_andThen, perform_pair]
  rw [perform_andThen, continueWith_congr (pair _), ← foldl_continueWith_eq, perform_andThen,
    perform_andThen]
  rfl

/-- A cue has the outcome of the script that it gives; one that gives none has that of an empty
sequence. -/
theorem perform_derived (verb : String) (cue : Cue) (session : Session) :
    (derived cue).perform verb session
      = ((cue session verb).getD (sequence [])).perform verb session := by
  rw [perform, performCued_eq]
  cases cue session verb with
  | none => rw [Option.getD_none, perform_sequence]; rfl
  | some script => rfl

/-- Wherever a script stands, nobody can tell it from its flat form, which has no sequence inside,
nor the ways of putting three scripts after one another, nor a cue from what it gives for the
session that it is asked with there. -/
theorem grouping_irrelevant :
    (∀ script : Script, script.Interchangeable script.flat
      ∧ ∀ items, sequence items ∉ script.parts)
    ∧ (∀ first second third : Script,
      ((first.andThen second).andThen third).Interchangeable
          (first.andThen (second.andThen third))
        ∧ ((first.andThen second).andThen third).Interchangeable
          (sequence [first, second, third]))
    ∧ ∀ (gaps : List Gap) (cue : Cue) (verb : String) (session : Session),
      (within gaps (derived cue)).perform verb session
        = (within gaps ((cue (sessionWithin verb gaps session) verb).getD
            (sequence []))).perform verb session := by
  refine ⟨fun script => ⟨?_, sequence_notMem_parts script⟩,
    fun first second third => ⟨?_, ?_⟩, fun gaps cue verb session => ?_⟩
  · exact .of_perform fun verb session => (perform_flat verb script session).symm
  · exact .of_perform fun verb session =>
      (perform_andThen_assoc verb first second third session).symm
  · exact .of_perform fun verb session =>
      perform_andThen_andThen verb first second third session
  · exact perform_within_congr gaps (perform_derived verb cue (sessionWithin verb gaps session))

end Script

end TextAdventure
