import TextAdventure.Proofs.FailureCount

/-!
# Two counts of misunderstandings

A session counts misunderstandings twice: as its failures, and in the flag `tries`, from which
`fallback` takes its words. Content that leaves the flag alone is asked only in sessions that have
it at the value it had before the action (`World.LeavesFlag`), so the standard verbs keep it but for
`fallback`, which counts one more, and `restart`, which begins anew
(`Resolver.toNat_tries_sessionAfter`). An answer sets the failures back and not the flag. So after
every run the flag counts up to three the misunderstandings since the last restart, the failures
count those since the last answer, and the two agree exactly if no misunderstanding was forgiven, or
three are not (`tries_match_failures_iff`).

The sum that `fallback` writes into the flag is not checked for overflow. It overflows only where
content itself has written the greatest count there (`tries_never_overflow`).
-/

namespace TextAdventure

/-! ## What is left of a flag -/

/-- An update leaves a flag at a value, if it has flags at all. -/
def Update.KeepsFlag (name : String) (value : Option String) (u : Update) : Prop :=
  ∀ flags, u.flags = some flags → flags.get? name = value

/-- Whatever the content of a world is asked, what it gives leaves a flag at the value that it has
where it is asked. -/
def World.LeavesFlag (name : String) (w : World) : Prop :=
  w.EachCue fun cue => ∀ value,
    (Script.derived cue).AlwaysFrom (fun s => s.flag? name = value) fun outcome =>
      outcome.change.KeepsFlag name value

section Flag

variable {name : String} {value : Option String}

theorem Outcome.closedUnderMerge_keepsFlag :
    ClosedUnderMerge fun outcome => outcome.change.KeepsFlag name value := by
  intro earlier later h hlater flags eq
  rw [change_merge] at eq
  have merged : (later.change.flags <|> earlier.change.flags) = some flags := eq
  rw [Option.orElse_eq_orElse, Option.orElse_eq_or, Option.or_eq_some_iff] at merged
  rcases merged with eq | ⟨-, eq⟩
  · exact hlater flags eq
  · exact h flags eq

theorem Update.KeepsFlag.apply {u : Update} (keeps : u.KeepsFlag name value) {s : Session}
    (before : s.flag? name = value) : (s.apply u).flag? name = value := by
  show (u.flags.getD s.flags).get? name = value
  rcases eq : u.flags with _ | flags
  · exact before
  · exact keeps flags eq

end Flag

namespace Resolver

variable {w : World} {session : Session} {wordings settings : Settings} {prompt : Varying String}
  {action : Action}

/-- The standard verbs keep a flag that the content of a world leaves alone, but for the two that
have updates of their own. -/
theorem standard_keepsFlag {name : String} (leaves : w.LeavesFlag name) {outcome : Outcome}
    (goesOn : (interpret session w action).1 ≠ .restart)
    (understood : (interpret session w action).1 ≠ .fallback)
    (comes : (standard wordings settings prompt).outcomeIn session w action = some outcome) :
    outcome.change.KeepsFlag name (session.flag? name) := by
  have covers : Covers (Script.AlwaysFrom (fun s => s.flag? name = session.flag? name)
      fun outcome => outcome.change.KeepsFlag name (session.flag? name)) w session :=
    { words := fun _ _ => .leaf nofun
      content := leaves.mono fun _ always => always _
      arrival := fun _ _ => .leaf nofun
      sequence := .sequence }
  obtain ⟨script, always, performed⟩ := standard_performed covers.atHand
    (fun restarts => absurd restarts goesOn) (fun misses => absurd misses understood) comes
  exact always.outcome Outcome.closedUnderMerge_keepsFlag
    (fun _ _ before keeps => keeps.apply before) rfl performed

end Resolver

/-! ## Counting -/

/-- What an action came to. -/
inductive Upshot where
  | misunderstood
  | restarted
  | answered
  | apologized
deriving DecidableEq

namespace Upshot

/-- Whether everything begins anew. -/
def isRestart : Upshot → Bool
  | restarted => true
  | _ => false

/-- Whether a verb other than `fallback` had something to say. -/
def isReply : Upshot → Bool
  | restarted | answered => true
  | _ => false

/-- How the action was received. -/
def reception : Upshot → Reception
  | misunderstood => .misunderstood
  | restarted | answered => .answered
  | apologized => .apologized

/-- A count of misunderstandings, of at most `most`, after an upshot. -/
def count (anew : Upshot → Bool) (most : Nat) (u : Upshot) (n : Nat) : Nat :=
  if anew u then 0 else if u = misunderstood then min (n + 1) most else n

/-- The misunderstandings since the count began anew. -/
def misunderstandings (anew : Upshot → Bool) (upshots : List Upshot) : Nat :=
  (upshots.rtakeWhile (!anew ·)).count misunderstood

theorem misunderstandings_concat (anew : Upshot → Bool) (upshots : List Upshot) (next : Upshot) :
    misunderstandings anew (upshots ++ [next]) =
      if anew next then 0
      else misunderstandings anew upshots + if next = misunderstood then 1 else 0 := by
  rw [misunderstandings, List.rtakeWhile_concat]
  by_cases begins : anew next
  · simp [begins]
  · simp [begins, misunderstandings, List.count_append, List.count_singleton]

/-- Counting one more upshot keeps a count at the misunderstandings since it began anew. -/
theorem count_eq {anew : Upshot → Bool} {most n : Nat} {upshots : List Upshot}
    (h : n = min (misunderstandings anew upshots) most) (next : Upshot) :
    next.count anew most n = min (misunderstandings anew (upshots ++ [next])) most := by
  rw [misunderstandings_concat, count]
  split
  · exact (Nat.zero_min most).symm
  · split
    · omega
    · exact h

/-- A count that begins anew more often is not the greater one. -/
theorem misunderstandings_le {anew anew' : Upshot → Bool} (imp : ∀ u, anew u → anew' u)
    (upshots : List Upshot) : misunderstandings anew' upshots ≤ misunderstandings anew upshots := by
  induction upshots using List.reverseRecOn with
  | nil => exact le_rfl
  | append_singleton upshots next ih =>
    rw [misunderstandings_concat, misunderstandings_concat]
    by_cases begins : anew next
    · simp [begins, imp next begins]
    · split
      · exact Nat.zero_le _
      · simpa [begins] using ih

end Upshot

namespace Verbs

/-- What `fallback` writes into the flag is read from it. -/
theorem count?_toString {n : UInt32} (h : n ≤ maxTries) : count? (toString n) = some n := by
  have small : ∀ k ≤ maxTries.toNat, count? (toString k) = some (UInt32.ofNat k) := by decide
  have read := small n.toNat (UInt32.le_iff_toNat_le.1 h)
  rwa [UInt32.ofNat_toNat] at read

theorem tries_eq {session after : Session}
    (same : after.flag? triesFlag = session.flag? triesFlag) :
    tries after = tries session := by
  rw [tries, tries, same]

theorem tries_eq_zero {session : Session} (unset : session.flag? triesFlag = none) :
    tries session = 0 := by
  rw [tries, unset]
  rfl

theorem toNat_min (m n : UInt32) : (min m n).toNat = min m.toNat n.toNat := by
  rw [Nat.min_def]
  exact (apply_ite UInt32.toNat _ _ _).trans (if_congr UInt32.le_iff_toNat_le rfl rfl)

/-- The sum wraps around before it is limited. -/
theorem tries_misunderstanding (session : Session) :
    tries (session.apply (misunderstanding session)) = min (tries session + 1) maxTries := by
  have written : (session.apply (misunderstanding session)).flag? triesFlag
      = some (toString (min (tries session + 1) maxTries)) :=
    (Dictionary.get?_insert _ _ _ _).trans (if_pos rfl)
  have limited : min (tries session + 1) maxTries ≤ maxTries := by
    rw [UInt32.le_iff_toNat_le, toNat_min]
    exact Nat.min_le_right _ _
  rw [tries, written, Option.bind_some, count?_toString limited, Option.getD_some]

/-- After the greatest count the player counts as never misunderstood. -/
example :
    let session := { (default : Session) with
      flags := (∅ : Flags).insert triesFlag "4294967295" }
    tries session = 4294967295 ∧ tries (session.apply (misunderstanding session)) = 0 := by
  decide +kernel

/-- A count in the range of what `fallback` writes can be raised by one. -/
theorem toNat_succ_of_le {n : UInt32} (range : n.toNat ≤ maxTries.toNat) :
    (n + 1).toNat = n.toNat + 1 := by
  have three : maxTries.toNat = 3 := rfl
  rw [UInt32.toNat_add, UInt32.toNat_one]
  omega

end Verbs

namespace Resolver

/-- What an action comes to in a session. -/
def upshot (r : Resolver) (session : Session) (world : World) (action : Action) : Upshot :=
  match r.outcomeIn session world action with
  | none => .apologized
  | some _ =>
    match (interpret session world action).1 with
    | .fallback => .misunderstood
    | .restart => .restarted
    | _ => .answered

theorem reception_eq (r : Resolver) (session : Session) (world : World) (action : Action) :
    r.reception session world action = (r.upshot session world action).reception := by
  unfold reception upshot
  cases r.outcomeIn session world action with
  | none => rfl
  | some outcome => cases (interpret session world action).1 <;> rfl

variable {w : World} {wordings settings : Settings} {prompt : Varying String}

/-- `fallback` counts one more in the flag, `restart` begins anew, and the others leave it. -/
theorem toNat_tries_sessionAfter (leaves : w.LeavesFlag Verbs.triesFlag) {session : Session}
    (range : (Verbs.tries session).toNat ≤ Verbs.maxTries.toNat) (action : Action) :
    (Verbs.tries ((standard wordings settings prompt).sessionAfter session w action)).toNat
      = ((standard wordings settings prompt).upshot session w action).count Upshot.isRestart
          Verbs.maxTries.toNat (Verbs.tries session).toNat := by
  rw [sessionAfter, updateIn, upshot]
  rcases comes : (standard wordings settings prompt).outcomeIn session w action with _ | outcome
  · rfl
  · dsimp only [Option.map_some, Option.getD_some]
    -- the two verbs that write the flag have one outcome each, the others go by the content
    split
    · next misses =>
      rw [outcomeIn_eq, scriptIn, misses] at comes
      cases comes
      have raised := congrArg UInt32.toNat (Verbs.tries_misunderstanding session)
      rwa [Verbs.toNat_min, Verbs.toNat_succ_of_le range] at raised
    · next restarts =>
      rw [outcomeIn_eq, scriptIn, restarts] at comes
      obtain ⟨script, hscript, performed⟩ := Option.bind_eq_some_iff.1 comes
      obtain ⟨start, -, rfl⟩ := Option.map_eq_some_iff.1 hscript
      cases performed
      exact congrArg UInt32.toNat (Verbs.tries_eq_zero rfl)
    · next understood goesOn =>
      have keeps := standard_keepsFlag leaves goesOn understood comes
      exact congrArg UInt32.toNat (Verbs.tries_eq (keeps.apply rfl))

/-- The failures begin anew with every answer. -/
theorem toNat_failures_sessionAfter (leaves : w.LeavesFailures) (session : Session)
    (action : Action) :
    ((standard wordings settings prompt).sessionAfter session w action).failures.toNat
      = ((standard wordings settings prompt).upshot session w action).count Upshot.isReply
          (UInt32.size - 1) session.failures.toNat := by
  rw [failures_sessionAfter leaves, reception_eq]
  cases (standard wordings settings prompt).upshot session w action with
  | misunderstood => exact Reception.toNat_saturatingSucc session.failures
  | restarted => rfl
  | answered => rfl
  | apologized => rfl

end Resolver

/-! ## Runs -/

/-- What steps in a session come to one after another. -/
def upshots (world : World) : Session → List Step → List Upshot
  | _, [] => []
  | session, (r, action) :: steps =>
    r.upshot session world action :: upshots world (r.sessionAfter session world action) steps

/-- Both counts of a session stand at the misunderstandings that they are of. -/
structure Session.Counts (s : Session) (upshots : List Upshot) : Prop where
  tries : (Verbs.tries s).toNat
    = min (Upshot.misunderstandings Upshot.isRestart upshots) Verbs.maxTries.toNat
  failures : s.failures.toNat
    = min (Upshot.misunderstandings Upshot.isReply upshots) (UInt32.size - 1)

section Runs

variable {worlds : Shelf} {name : String} {world : World}

/-- A number in the sessions of a world counts on by what actions come to. -/
def World.CountsOn (world : World) (name : String) (view : Session → Nat) (anew : Upshot → Bool)
    (most : Nat) : Prop :=
  ∀ (r : Resolver) (session : Session) (action : Action), r.IsStandard name →
    view session ≤ most → view (r.sessionAfter session world action)
      = (r.upshot session world action).count anew most (view session)

theorem World.countsOn_tries (leaves : world.LeavesFlag Verbs.triesFlag) :
    world.CountsOn name (fun s => (Verbs.tries s).toNat) Upshot.isRestart Verbs.maxTries.toNat := by
  rintro _ session action ⟨wordings, settings, prompt, rfl, -⟩ range
  exact Resolver.toNat_tries_sessionAfter leaves range action

theorem World.countsOn_failures (forgets : world.LeavesFailures) :
    world.CountsOn name (fun s => s.failures.toNat) Upshot.isReply (UInt32.size - 1) := by
  rintro _ session action ⟨wordings, settings, prompt, rfl, -⟩ -
  exact Resolver.toNat_failures_sessionAfter forgets session action

section CountsOn

variable {view : Session → Nat} {anew : Upshot → Bool} {most : Nat}
  (counts : world.CountsOn name view anew most) {steps : List Step}
  (standard : ∀ step ∈ steps, step.1.IsStandard name)
include counts standard

/-- What counts on by actions stays at the misunderstandings since it began anew, in every run. -/
theorem count_sessionAfterAll {session : Session} {before : List Upshot}
    (h : view session = min (Upshot.misunderstandings anew before) most) :
    view (sessionAfterAll world session steps)
      = min (Upshot.misunderstandings anew (before ++ upshots world session steps)) most := by
  induction steps generalizing session before with
  | nil => rwa [upshots, List.append_nil]
  | cons step steps ih =>
    obtain ⟨r, action⟩ := step
    have range : view session ≤ most := h.trans_le (Nat.min_le_right _ _)
    have next := counts r session action (standard _ List.mem_cons_self) range
    rw [Upshot.count_eq h] at next
    rw [sessionAfterAll, upshots, List.append_cons]
    exact ih (fun s mem => standard s (List.mem_cons_of_mem _ mem)) next

theorem count_stored (registered : worlds.get? name = some world) {id : String}
    {session : Session} (stored : (memoryAfter worlds steps).sessions.get? id = some session)
    (starts : view (.start id world.id world.start) = 0) :
    view session = min (Upshot.misunderstandings anew
      (upshots world (.start id world.id world.start) (steps.filter (isOf id)))) most := by
  rw [get?_memoryAfter registered fun step mem => (standard step mem).defaultWorld] at stored
  split at stored
  · cases stored
  · cases stored
    have fresh : view (.start id world.id world.start)
        = min (Upshot.misunderstandings anew []) most := starts.trans (Nat.zero_min most).symm
    exact count_sessionAfterAll counts (fun step mem => standard step (List.mem_filter.1 mem).1)
      fresh

end CountsOn

/-- Only content can bring the flag so far that the sum of `fallback` overflows: where it leaves
the flag alone, the sum is one more than the flag. -/
theorem tries_never_overflow {steps : List Step} (registered : worlds.get? name = some world)
    (leaves : world.LeavesFlag Verbs.triesFlag)
    (standard : ∀ step ∈ steps, step.1.IsStandard name) {id : String} {session : Session}
    (stored : (memoryAfter worlds steps).sessions.get? id = some session) :
    (Verbs.tries session + 1).toNat = (Verbs.tries session).toNat + 1 := by
  have counted := count_stored (World.countsOn_tries leaves) standard registered stored rfl
  exact Verbs.toNat_succ_of_le (counted.trans_le (Nat.min_le_right _ _))

/-- In a world whose content leaves both counts alone, the flag of a stored session counts the
misunderstandings since the player began anew, as far as it goes, and the failures those since the
player was answered. The flag is at the failures, as far as it goes, exactly if those are the same
or the player has been misunderstood so often since. -/
theorem tries_match_failures_iff {steps : List Step} (registered : worlds.get? name = some world)
    (forgets : world.LeavesFailures) (leaves : world.LeavesFlag Verbs.triesFlag)
    (standard : ∀ step ∈ steps, step.1.IsStandard name) {id : String} {session : Session}
    (stored : (memoryAfter worlds steps).sessions.get? id = some session) :
    let played := upshots world (.start id world.id world.start) (steps.filter (isOf id))
    session.Counts played ∧
      (Verbs.tries session = min session.failures Verbs.maxTries ↔
        Upshot.misunderstandings Upshot.isReply played
            = Upshot.misunderstandings Upshot.isRestart played ∨
          Verbs.maxTries.toNat ≤ Upshot.misunderstandings Upshot.isReply played) := by
  intro played
  have counts : session.Counts played :=
    ⟨count_stored (World.countsOn_tries leaves) standard registered stored rfl,
      count_stored (World.countsOn_failures forgets) standard registered stored rfl⟩
  have fewer : Upshot.misunderstandings Upshot.isReply played
      ≤ Upshot.misunderstandings Upshot.isRestart played :=
    Upshot.misunderstandings_le (fun u => by cases u <;> decide) played
  have three : Verbs.maxTries.toNat = 3 := rfl
  refine ⟨counts, ?_⟩
  rw [← UInt32.toNat_inj, Verbs.toNat_min, counts.tries, counts.failures, three]
  unfold UInt32.size
  omega

end Runs

theorem played_isStandard (verb : Verb) (sentence : Sentence) :
    (played verb sentence).1.IsStandard "cottage" :=
  ⟨{}, {}, .fixed "Hello?", rfl, rfl⟩

/-- Lights a lamp, and says so. -/
def glow : Cue := fun session _ =>
  some (.leaf { message := "It glows.",
                update := some { flags := some (session.flags.insert "lamp" "lit") } })

/-- A cottage with a lamp in it. -/
def parlour : World :=
  World.addRoom { id := "cottage", start := "parlour" }
    { id := "parlour", name := "parlour",
      things := [(Thing.called ["lamp"]).on "light" (.dynamic glow)] }

/-- What is asked of every cue of the cottage is asked of the lamp's. -/
theorem parlour_eachCue {P : Cue → Prop} (h : P glow) : parlour.EachCue P := by
  refine (World.EachCue.bare _ _).addRoom
    ⟨fun thing mem => ⟨fun {verb handler} found => ?_⟩, nofun⟩
  rw [List.mem_singleton.1 mem, Thing.on, Thing.handler?, Dictionary.get?_insert] at found
  split at found
  · cases found
    exact h
  · cases found

theorem parlour_leavesFailures : parlour.LeavesFailures := by
  refine parlour_eachCue (.derived fun session verb script comes => ?_)
  cases comes
  exact .leaf rfl

theorem parlour_leavesTries : parlour.LeavesFlag Verbs.triesFlag := by
  refine parlour_eachCue fun value => .derived fun session verb script known comes => ?_
  cases comes
  refine .leaf fun flags eq => ?_
  cases eq
  exact (Dictionary.get?_insert _ _ _ _).trans ((if_neg (by decide)).trans known)

/-- Two misunderstandings, an answer, and three more misunderstandings. -/
def grumble : List Step :=
  [played .fallback {}, played .fallback {}, played .light { subject := "lamp" },
    played .fallback {}, played .fallback {}, played .fallback {}]

theorem grumble_isStandard : ∀ step ∈ grumble, step.1.IsStandard "cottage" := by
  simp only [grumble, List.mem_cons, List.not_mem_nil, or_false, forall_eq_or_imp, forall_eq]
  exact ⟨played_isStandard _ _, played_isStandard _ _, played_isStandard _ _, played_isStandard _ _,
    played_isStandard _ _, played_isStandard _ _⟩

/-- The flag stands at three for the last of them only, although there were five. -/
theorem tries_match_failures_iff_grumble :
    let steps := grumble.filter (isOf "player")
    let session := sessionAfterAll parlour (.start "player" "cottage" "parlour") steps
    let played := upshots parlour (.start "player" "cottage" "parlour") steps
    (memoryAfter (shelve [parlour]) grumble).sessions.get? "player" = some session ∧
      Upshot.misunderstandings Upshot.isRestart played = 5 ∧
      session.Counts played ∧
      (Verbs.tries session = min session.failures Verbs.maxTries ↔
        Upshot.misunderstandings Upshot.isReply played
            = Upshot.misunderstandings Upshot.isRestart played ∨
          Verbs.maxTries.toNat ≤ Upshot.misunderstandings Upshot.isReply played) := by
  intro steps session played
  have registered : (shelve [parlour]).get? "cottage" = some parlour := rfl
  have stored : (memoryAfter (shelve [parlour]) grumble).sessions.get? "player" = some session := by
    rw [get?_memoryAfter registered fun step mem => (grumble_isStandard step mem).defaultWorld,
      if_neg (by decide)]
    rfl
  exact ⟨stored, by decide +kernel, tries_match_failures_iff registered parlour_leavesFailures
    parlour_leavesTries grumble_isStandard stored⟩

/-- A misunderstanding and an answer. -/
def mumble : List Step :=
  [played .fallback {}, played .look {}]

/-- The answer has set the failures back, but not the flag. -/
theorem tries_outlast_failures :
    parlour.LeavesFailures ∧ parlour.LeavesFlag Verbs.triesFlag ∧
      (∀ step ∈ mumble, step.1.IsStandard "cottage") ∧
      ∃ session, (memoryAfter (shelve [parlour]) mumble).sessions.get? "player" = some session ∧
        Verbs.tries session ≠ min session.failures Verbs.maxTries := by
  have standard : ∀ step ∈ mumble, step.1.IsStandard "cottage" := by
    simp only [mumble, List.mem_cons, List.not_mem_nil, or_false, forall_eq_or_imp, forall_eq]
    exact ⟨played_isStandard _ _, played_isStandard _ _⟩
  refine ⟨parlour_leavesFailures, parlour_leavesTries, standard,
    sessionAfterAll parlour (.start "player" "cottage" "parlour") (mumble.filter (isOf "player")),
    ?_, by decide +kernel⟩
  have registered : (shelve [parlour]).get? "cottage" = some parlour := rfl
  rw [get?_memoryAfter registered fun step mem => (standard step mem).defaultWorld,
    if_neg (by decide)]
  rfl

end TextAdventure
