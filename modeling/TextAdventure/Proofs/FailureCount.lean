import Mathlib.Data.List.DropRight
import TextAdventure.Proofs.Interleaving
import TextAdventure.Proofs.Restarts

/-!
# How failures are counted

The failures of a session are the sentences in a row that nobody understood. An action is received
in one of three ways (`Reception`): it comes to `fallback`, it is answered by another verb, or
nothing comes of it. The first counts one failure, the second ends the row, and the third leaves it
as it is (`Resolver.failures_sessionAfter`); a phrase that stands for an action is received like
this action. So after every run the failures of a player are the misunderstandings since their last
answer, as far as the counter goes (`failures_counted`).
-/

namespace TextAdventure

/-- What became of an action. -/
inductive Reception where
  | misunderstood
  | answered
  | apologized
deriving DecidableEq

namespace Reception

/-- The failures after an action, of those before it. -/
def count : Reception → UInt32 → UInt32
  | misunderstood, n => Verbs.saturatingSucc n
  | answered, _ => 0
  | apologized, n => n

/-- The misunderstandings since an action was answered last, or since the start. -/
def misunderstandings (receptions : List Reception) : Nat :=
  (receptions.rtakeWhile (· ≠ answered)).count misunderstood

theorem misunderstandings_concat_misunderstood (receptions : List Reception) :
    misunderstandings (receptions ++ [misunderstood]) = misunderstandings receptions + 1 := by
  rw [misunderstandings, List.rtakeWhile_concat_pos _ _ _ (by decide), List.count_append]
  rfl

theorem misunderstandings_concat_answered (receptions : List Reception) :
    misunderstandings (receptions ++ [answered]) = 0 := by
  rw [misunderstandings, List.rtakeWhile_concat_neg _ _ _ (by decide)]
  rfl

theorem misunderstandings_concat_apologized (receptions : List Reception) :
    misunderstandings (receptions ++ [apologized]) = misunderstandings receptions := by
  rw [misunderstandings, List.rtakeWhile_concat_pos _ _ _ (by decide), List.count_append]
  rfl

theorem toNat_saturatingSucc (n : UInt32) :
    (Verbs.saturatingSucc n).toNat = min (n.toNat + 1) (UInt32.size - 1) := by
  have bound := n.toNat_lt_size
  unfold Verbs.saturatingSucc
  split
  · next room =>
    rw [UInt32.toNat_add, UInt32.toNat_one, Nat.mod_eq_of_lt room]
    omega
  · omega

/-- Counting one more reception keeps the counter at the misunderstandings in a row. -/
theorem toNat_count {receptions : List Reception} {n : UInt32}
    (h : n.toNat = min (misunderstandings receptions) (UInt32.size - 1)) (next : Reception) :
    (next.count n).toNat
      = min (misunderstandings (receptions ++ [next])) (UInt32.size - 1) := by
  cases next with
  | misunderstood =>
    rw [misunderstandings_concat_misunderstood, count, toNat_saturatingSucc, h]
    omega
  | answered =>
    rw [misunderstandings_concat_answered]
    rfl
  | apologized =>
    rw [misunderstandings_concat_apologized]
    exact h

end Reception

namespace Resolver

/-- How an action is received in a session. -/
def reception (r : Resolver) (session : Session) (world : World) (action : Action) : Reception :=
  match r.outcomeIn session world action with
  | none => .apologized
  | some _ =>
    if (interpret session world action).1 = .fallback then .misunderstood else .answered

end Resolver

/-- How steps in a session are received one after another. -/
def receptions (world : World) : Session → List Step → List Reception
  | _, [] => []
  | session, (r, action) :: steps =>
    r.reception session world action ::
      receptions world (r.sessionAfter session world action) steps

/-- Whatever the content of a world is asked, what it gives leaves the failures alone. -/
def World.LeavesFailures (w : World) : Prop :=
  w.ContentAlways fun outcome => outcome.change.failures = none

/-- An outcome counts no failure: it leaves them alone or sets them back. -/
def Outcome.CountsNone (outcome : Outcome) : Prop :=
  outcome.change.failures = none ∨ outcome.change.failures = some 0

theorem Outcome.closedUnderMerge_countsNone : ClosedUnderMerge Outcome.CountsNone := by
  intro earlier later h hlater
  unfold CountsNone at *
  rw [change_merge, Update.merge]
  rcases hlater with none | zero
  · rw [none]
    exact h
  · rw [zero]
    exact .inr rfl

namespace Resolver

variable {w : World} {session : Session} {wordings settings : Settings} {prompt : Varying String}
  {action : Action}

theorem standard_countsNone (leaves : w.LeavesFailures) {outcome : Outcome}
    (understood : (interpret session w action).1 ≠ .fallback)
    (comes : (standard wordings settings prompt).outcomeIn session w action = some outcome) :
    outcome.CountsNone := by
  have admits : Admits Outcome.CountsNone w session :=
    { words := fun _ _ => .inl rfl
      content := leaves.mono fun _ => .inl
      arrival := fun _ _ => .inl rfl }
  exact standard_outcomeIn admits Outcome.closedUnderMerge_countsNone (fun _ _ => .inr rfl)
    (fun misunderstood => absurd misunderstood understood) comes

/-- What `fallback` makes of a sentence counts a failure. -/
theorem failures_of_fallback {outcome : Outcome}
    (misunderstood : (interpret session w action).1 = .fallback)
    (comes : (standard wordings settings prompt).outcomeIn session w action = some outcome) :
    outcome.change.failures = some (Verbs.saturatingSucc session.failures) := by
  rw [outcomeIn_eq, scriptIn, misunderstood] at comes
  cases comes
  rfl

/-- An outcome that counts no failure is saved with none. -/
theorem failures_savedUpdate_of_countsNone {outcome : Outcome} (h : outcome.CountsNone) :
    (session.apply (savedUpdate session outcome)).failures = 0 := by
  show (if outcome.change.failures.isNone && session.failures ≠ 0 then some 0
    else outcome.change.failures).getD session.failures = 0
  rcases h with none | zero
  · rw [none]
    by_cases before : session.failures = 0
    · simp [before]
    · simp [before]
  · rw [zero]
    rfl

theorem failures_savedUpdate_of_some {outcome : Outcome} {n : UInt32}
    (h : outcome.change.failures = some n) :
    (session.apply (savedUpdate session outcome)).failures = n := by
  show (if outcome.change.failures.isNone && session.failures ≠ 0 then some 0
    else outcome.change.failures).getD session.failures = n
  rw [h]
  rfl

/-- An action counts a failure, sets the failures back or leaves them alone, by its reception. -/
theorem failures_sessionAfter (leaves : w.LeavesFailures) (session : Session) (action : Action) :
    ((standard wordings settings prompt).sessionAfter session w action).failures
      = ((standard wordings settings prompt).reception session w action).count
          session.failures := by
  rw [sessionAfter, updateIn, reception]
  rcases comes : (standard wordings settings prompt).outcomeIn session w action with _ | outcome
  · rfl
  · dsimp only [Option.map_some, Option.getD_some]
    split
    · next misunderstood =>
      exact failures_savedUpdate_of_some (failures_of_fallback misunderstood comes)
    · next understood =>
      exact failures_savedUpdate_of_countsNone (standard_countsNone leaves understood comes)

end Resolver

section Runs

variable {worlds : Shelf} {name : String} {world : World}

/-- A run of one player goes on with the count of what was received before. -/
theorem failures_sessionAfterAll (leaves : world.LeavesFailures) :
    ∀ {steps : List Step} {session : Session} (before : List Reception),
      (∀ step ∈ steps, step.1.IsStandard name) →
      session.failures.toNat = min (Reception.misunderstandings before) (UInt32.size - 1) →
      (sessionAfterAll world session steps).failures.toNat
        = min (Reception.misunderstandings (before ++ receptions world session steps))
            (UInt32.size - 1)
  | [], session, before, _, h => by rwa [receptions, List.append_nil]
  | (r, action) :: steps, session, before, standard, h => by
    obtain ⟨wordings, settings, prompt, rfl, -⟩ := standard _ List.mem_cons_self
    have next := Reception.toNat_count h
      ((Resolver.standard wordings settings prompt).reception session world action)
    rw [← Resolver.failures_sessionAfter leaves] at next
    rw [sessionAfterAll, receptions, List.append_cons]
    exact failures_sessionAfterAll leaves _
      (fun step mem => standard step (List.mem_cons_of_mem _ mem)) next

/-- What is stored for a player, whoever else has played. -/
theorem get?_memoryAfter (registered : worlds.get? name = some world) {steps : List Step}
    (starts : ∀ step ∈ steps, step.1.settings.defaultWorld = name) (id : String) :
    (memoryAfter worlds steps).sessions.get? id
      = if steps.filter (isOf id) = [] then none
        else some (sessionAfterAll world (.start id world.id world.start)
          (steps.filter (isOf id))) := by
  have own : ∀ step ∈ steps.filter (isOf id), Plays name id step := fun step mem =>
    ⟨starts step (List.mem_filter.1 mem).1, eq_of_beq (List.mem_filter.1 mem).2⟩
  rw [memoryAfter, (resolveAll_alone worlds steps id).2]
  split
  · next none =>
    rw [none]
    rfl
  · next played =>
    rw [← memoryAfter, memoryAfter_own registered own played]
    exact Memory.get?_write_of_id _ (sessionAfterAll_id world _ _)

/-- After every run from the start each player who took part has a session, and its failures are
their misunderstandings since they were last answered, up to the greatest number there is. -/
theorem failures_counted {steps : List Step} (registered : worlds.get? name = some world)
    (leaves : world.LeavesFailures) (standard : ∀ step ∈ steps, step.1.IsStandard name) :
    (∀ step ∈ steps, ((memoryAfter worlds steps).sessions.get? step.2.sessionId).isSome)
    ∧ ∀ id session, (memoryAfter worlds steps).sessions.get? id = some session →
        session.failures.toNat
          = min (Reception.misunderstandings (receptions world (.start id world.id world.start)
              (steps.filter (isOf id)))) (UInt32.size - 1) := by
  have starts : ∀ step ∈ steps, step.1.settings.defaultWorld = name := by
    intro step mem
    obtain ⟨_, settings, _, eq, named⟩ := standard step mem
    rw [eq]
    exact named
  refine ⟨fun step mem => ?_, fun id session stored => ?_⟩
  · have mine : step ∈ steps.filter (isOf step.2.sessionId) :=
      List.mem_filter.2 ⟨mem, beq_self_eq_true _⟩
    rw [get?_memoryAfter registered starts, if_neg (List.ne_nil_of_mem mine)]
    rfl
  · rw [get?_memoryAfter registered starts] at stored
    split at stored
    · cases stored
    · cases stored
      exact failures_sessionAfterAll leaves []
        (fun step mem => standard step (List.mem_filter.1 mem).1) rfl

end Runs

/-- A misunderstanding, an answer, and two more misunderstandings. -/
def stammer : List Step :=
  [played .fallback {}, played .move { subject := "u" }, played .fallback { verb := "hum" },
    played .fallback {}]

/-- The first of them is forgotten in the end. -/
theorem failures_counted_stammer :
    ∃ session, (memoryAfter (shelve [hatch]) stammer).sessions.get? "player" = some session ∧
      session.failures.toNat
        = min (Reception.misunderstandings (receptions hatch (.start "player" "cottage" "hall")
            (stammer.filter (isOf "player")))) (UInt32.size - 1) ∧
      session.failures = 2 := by
  have standard : ∀ step ∈ stammer, step.1.IsStandard "cottage" := by
    intro step mem
    simp only [stammer, List.mem_cons, List.not_mem_nil, or_false] at mem
    rcases mem with rfl | rfl | rfl | rfl <;> exact ⟨{}, {}, .fixed "Hello?", rfl, rfl⟩
  obtain ⟨present, counted⟩ := @failures_counted (shelve [hatch]) "cottage" hatch stammer rfl
    (hatch_contentAlways _) standard
  obtain ⟨session, stored⟩ := Option.isSome_iff_exists.1 (present _ List.mem_cons_self)
  have two : Reception.misunderstandings (receptions hatch (.start "player" "cottage" "hall")
      (stammer.filter (isOf "player"))) = 2 := by decide +kernel
  have count := counted "player" session stored
  refine ⟨session, stored, count, UInt32.toNat_inj.1 (count.trans ?_)⟩
  exact congrArg (min · (UInt32.size - 1)) two

end TextAdventure
