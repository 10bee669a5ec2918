import TextAdventure.Proofs.Resolving
import TextAdventure.Proofs.LegalMoves

/-!
# When a store fails

Any operation of a store may fail. If each of them is done fully or not at all (`Store.Atomic`), an
action that fails leaves every stored session as it was, but for one case: a restart deletes the
session before it writes the fresh one, so if that cannot be written the player has none any more
(`failing_keeps_iff`, `restart_loses_session`).
-/

namespace TextAdventure

section Ends

variable {κ ε α β : Type} {k : κ}

namespace Attempt

/-- A computation ends with a value and a fact about it and what is kept then, or it fails with
another fact. -/
structure Ends (x : Attempt κ ε α) (k : κ) (P : α → κ → Prop) (F : ε → κ → Prop) : Prop where
  ok : ∀ {a k'}, x.run.run k = (.ok a, k') → P a k'
  error : ∀ {e k'}, x.run.run k = (.error e, k') → F e k'

variable {P : α → κ → Prop} {Q : β → κ → Prop} {F G : ε → κ → Prop}

theorem Ends.pure {a : α} (h : P a k) : (Pure.pure a : Attempt κ ε α).Ends k P F where
  ok runs := by
    cases runs
    exact h
  error runs := by cases runs

theorem Ends.imp {x : Attempt κ ε α} {P' : α → κ → Prop} (h : x.Ends k P F)
    (ok : ∀ a k', P a k' → P' a k') : x.Ends k P' F where
  ok runs := ok _ _ (h.ok runs)
  error := h.error

theorem Ends.bind {x : Attempt κ ε α} {f : α → Attempt κ ε β} (first : x.Ends k P G)
    (fails : ∀ e k', G e k' → F e k') (next : ∀ a k', P a k' → (f a).Ends k' Q F) :
    (x >>= f).Ends k Q F := by
  rcases runs : x.run.run k with ⟨e | a, k'⟩
  · have failed := fails _ _ (first.error runs)
    constructor
    · intro _ _ ends
      rw [run_bind_error runs] at ends
      cases ends
    · intro _ _ ends
      rw [run_bind_error runs] at ends
      cases ends
      exact failed
  · have rest := next a k' (first.ok runs)
    constructor
    · intro _ _ ends
      rw [run_bind_ok runs] at ends
      exact rest.ok ends
    · intro _ _ ends
      rw [run_bind_ok runs] at ends
      exact rest.error ends

/-- A computation does to the memory that is kept what another does, or fails and leaves it. -/
def FullyOrNot (view : κ → Memory) (x : Attempt κ ε α) (y : Attempt Memory ε α) : Prop :=
  ∀ k, ((x.run.run k).1, view (x.run.run k).2) = y.run.run (view k) ∨
    (∃ e, (x.run.run k).1 = .error e) ∧ view (x.run.run k).2 = view k

/-- If the other leaves the memory alone when it fails, then a failure changes nothing. -/
theorem FullyOrNot.ends {view : κ → Memory} {x : Attempt κ ε α} {y : Attempt Memory ε α}
    (h : x.FullyOrNot view y) (still : ∀ {m m' e}, y.run.run m = (.error e, m') → m' = m) (k : κ) :
    x.Ends k (fun a k' => y.run.run (view k) = (.ok a, view k'))
      fun _ k' => view k' = view k := by
  have whole := h k
  constructor
  · intro a k' runs
    rw [runs] at whole
    rcases whole with same | ⟨⟨e, fails⟩, -⟩
    · exact same.symm
    · cases fails
  · intro e k' runs
    rw [runs] at whole
    rcases whole with same | ⟨-, same⟩
    · exact still same.symm
    · exact same

end Attempt

theorem Resolver.during_ends {x : Attempt κ StoreError α} {P : α → κ → Prop} {F : κ → Prop}
    (h : x.Ends k P fun _ k' => F k') (task : Task) :
    (during task x).Ends k P fun e k' => e.task = task ∧ F k' := by
  rcases runs : x.run.run k with ⟨cause | a, k'⟩
  · have failed := h.error runs
    constructor
    · intro _ _ ends
      rw [run_during_error runs] at ends
      cases ends
    · intro _ _ ends
      rw [run_during_error runs] at ends
      cases ends
      exact ⟨rfl, failed⟩
  · have gives := h.ok runs
    constructor
    · intro _ _ ends
      rw [run_during_ok runs] at ends
      cases ends
      exact gives
    · intro _ _ ends
      rw [run_during_ok runs] at ends
      cases ends

end Ends

/-! ## Operations that are done fully or not at all -/

section Atomic

variable {κ : Type} {view : κ → Memory} {store : Store κ} {k k' : κ}

/-- Each operation takes full effect on the sessions that are kept, or fails without effect. -/
structure Store.Atomic (view : κ → Memory) (store : Store κ) : Prop where
  read : ∀ id, (store.read id).FullyOrNot view (Memory.store.read id)
  write : ∀ session, (store.write session).FullyOrNot view (Memory.store.write session)
  delete : ∀ id, (store.delete id).FullyOrNot view (Memory.store.delete id)
  world : ∀ id, (store.world id).FullyOrNot view (Memory.store.world id)

section Operations

open Resolver (during during_ends)

variable (atomic : store.Atomic view) (task : Task) (k : κ)

include atomic

theorem Store.Atomic.read_ends (id : String) :
    (during task (store.read id)).Ends k
      (fun found k' => found = (view k).sessions.get? id ∧ view k' = view k)
      fun e k' => e.task = task ∧ view k' = view k := by
  have ends := (atomic.read id).ends (fun fails => by cases fails) k
  refine during_ends (ends.imp ?_) task
  intro found k' reads
  obtain ⟨same, kept⟩ := Prod.mk.inj reads
  exact ⟨(Except.ok.inj same).symm, kept.symm⟩

theorem Store.Atomic.write_ends (session : Session) :
    (during task (store.write session)).Ends k (fun _ k' => view k' = (view k).write session)
      fun e k' => e.task = task ∧ view k' = view k := by
  have ends := (atomic.write session).ends (fun fails => by cases fails) k
  exact during_ends (ends.imp fun _ _ writes => (congrArg Prod.snd writes).symm) task

theorem Store.Atomic.delete_ends (id : String) :
    (during task (store.delete id)).Ends k (fun _ k' => view k' = (view k).delete id)
      fun e k' => e.task = task ∧ view k' = view k := by
  have ends := (atomic.delete id).ends (fun fails => by cases fails) k
  exact during_ends (ends.imp fun _ _ deletes => (congrArg Prod.snd deletes).symm) task

theorem Store.Atomic.world_ends (id : String) :
    (during task (store.world id)).Ends k
      (fun world k' => (view k).worlds.get? id = some world ∧ view k' = view k)
      fun e k' => e.task = task ∧ view k' = view k := by
  have ends := (atomic.world id).ends (fun fails => (congrArg Prod.snd fails).symm) k
  refine during_ends (ends.imp ?_) task
  intro world k' finds
  obtain ⟨found, kept⟩ : (view k).worlds.world id = .ok world ∧ view k = view k' :=
    Prod.mk.inj finds
  refine ⟨?_, kept.symm⟩
  unfold Shelf.world at found
  split at found
  · next registered =>
    cases found
    exact registered
  · cases found

end Operations

/-! ## Actions -/

/-- The session of an id is open: it was stored, or it is a fresh one that has been written. -/
def Memory.Opens (m : Memory) (id : String) (session : Session) (opened : Memory) : Prop :=
  m.sessions.get? id = some session ∧ opened = m ∨
    m.sessions.get? id = none ∧ session.id = id ∧ opened = m.write session

namespace Memory.Opens

variable {m opened : Memory} {id : String} {session : Session}

theorem session_id (opens : m.Opens id session opened) : session.id = id := by
  rcases opens with ⟨stored, -⟩ | ⟨-, own, -⟩
  · exact m.sessions.named stored
  · exact own

theorem eq_of_stored (opens : m.Opens id session opened) {s : Session}
    (stored : m.sessions.get? id = some s) : session = s ∧ opened = m := by
  rcases opens with ⟨found, same⟩ | ⟨absent, -⟩
  · exact ⟨Option.some.inj (found.symm.trans stored), same⟩
  · rw [absent] at stored
    cases stored

theorem get?_other (opens : m.Opens id session opened) {other : String} (ne : other ≠ id) :
    opened.sessions.get? other = m.sessions.get? other := by
  rcases opens with ⟨-, rfl⟩ | ⟨-, own, rfl⟩
  · rfl
  · rw [Memory.get?_write, own, if_neg ne]

end Memory.Opens

namespace Resolver

/-- An action fails when the fresh session of a restart is to be written. -/
def CutOff (m : Memory) (action : Action) (session : Session) (e : ResolveError) : Prop :=
  e.task = .saving action.sessionId ∧ ∃ world, m.worlds.get? session.worldId = some world ∧
    (interpret session world action).1 = .restart

variable (atomic : store.Atomic view)

include atomic

theorem loadSession_ends (r : Resolver) (id : String) (k : κ) :
    (r.loadSession store id).Ends k (fun session k' => (view k).Opens id session (view k'))
      fun e k' => (∀ other, e.task ≠ .saving other) ∧ view k' = view k := by
  unfold loadSession
  refine (atomic.read_ends _ k id).bind ?_ ?_
  · rintro e k' ⟨reading, kept⟩
    exact ⟨fun other => by simp [reading], kept⟩
  rintro found k₁ ⟨rfl, kept⟩
  rcases stored : (view k).sessions.get? id with _ | session
  · refine (atomic.world_ends _ k₁ _).bind ?_ ?_
    · rintro e k' ⟨loading, kept'⟩
      exact ⟨fun other => by simp [loading], kept'.trans kept⟩
    rintro world k₂ ⟨-, kept'⟩
    refine (atomic.write_ends _ k₂ _).bind ?_ ?_
    · rintro e k' ⟨creating, kept''⟩
      exact ⟨fun other => by simp [creating], (kept''.trans kept').trans kept⟩
    intro _ k₃ written
    exact .pure (.inr ⟨stored, rfl, by rw [written, kept', kept]⟩)
  · exact .pure (.inl ⟨stored, kept⟩)

/-- Saving is the last operation, and only for a restart is there another one before it. -/
theorem persist_ends (session : Session) (verb : Verb) (outcome : Outcome) (k : κ) :
    (persist store session verb outcome).Ends k (fun _ _ => True) fun e k' =>
      if verb = .restart ∧ e.task = .saving session.id then
        view k' = (view k).delete session.id
      else view k' = view k := by
  unfold persist
  dsimp only
  split
  · next restarts =>
    refine (atomic.delete_ends _ k _).bind ?_ ?_
    · rintro e k' ⟨deleting, kept⟩
      simp [deleting, kept]
    intro _ k₁ deleted
    refine (atomic.write_ends _ k₁ _).bind ?_ fun _ _ _ => .pure trivial
    rintro e k' ⟨saving, kept⟩
    simp [restarts, saving, kept, deleted]
  · next other =>
    split
    · exact .pure trivial
    · refine (atomic.write_ends _ k _).bind ?_ fun _ _ _ => .pure trivial
      rintro e k' ⟨-, kept⟩
      simp [other, kept]

theorem resolve_ends (r : Resolver) (action : Action) (k : κ) :
    (r.resolve store action).Ends k (fun _ _ => True) fun e k' =>
      (∀ other, e.task ≠ .saving other) ∧ view k' = view k ∨
        ∃ session opened, (view k).Opens action.sessionId session opened ∧
          (CutOff opened action session e ∧ view k' = opened.delete action.sessionId ∨
            ¬ CutOff opened action session e ∧ view k' = opened) := by
  unfold resolve
  refine (loadSession_ends atomic r action.sessionId k).bind (fun _ _ => .inl) ?_
  intro session k₁ opens
  refine (atomic.world_ends _ k₁ _).bind ?_ ?_
  · rintro e k' ⟨loading, kept⟩
    exact .inr ⟨session, _, opens, .inr ⟨by simp [CutOff, loading], kept⟩⟩
  rintro world k₂ ⟨registered, kept⟩
  dsimp only
  split
  · exact .pure trivial
  · next outcome comes =>
    -- what was opened stays until here, and only a restart that is cut off loses it
    refine (persist_ends atomic session _ outcome k₂).bind ?_ fun _ _ _ => .pure trivial
    intro e k' saves
    have cut : CutOff (view k₁) action session e ↔
        (interpret session world action).1 = .restart ∧ e.task = .saving session.id := by
      simp [CutOff, registered, opens.session_id, and_comm]
    refine .inr ⟨session, _, opens, ?_⟩
    rw [cut]
    split at saves
    · next restarts => exact .inl ⟨restarts, by rw [saves, kept, opens.session_id]⟩
    · next other => exact .inr ⟨other, by rw [saves, kept]⟩

end Resolver

/-- If an action fails, whatever the pattern of failures, a session that was stored is stored as it
was, unless it is the player's own and the action was a restart that failed at the very end. -/
theorem failing_keeps_iff (atomic : store.Atomic view) {r : Resolver} {action : Action} {k k' : κ}
    {e : ResolveError} (fails : (r.resolve store action).run.run k = (.error e, k')) {id : String}
    {session : Session} (stored : (view k).sessions.get? id = some session) :
    (view k').sessions.get? id = some session ↔
      ¬ (id = action.sessionId ∧ Resolver.CutOff (view k) action session e) := by
  rcases (Resolver.resolve_ends atomic r action k).error fails with
    ⟨before, kept⟩ | ⟨found, opened, opens, ⟨cut, deleted⟩ | ⟨whole, kept⟩⟩
  · simp [kept, stored, Resolver.CutOff, before]
  · rw [deleted, Memory.delete, Catalog.get?_remove]
    by_cases own : id = action.sessionId
    · obtain ⟨rfl, rfl⟩ := opens.eq_of_stored (own ▸ stored)
      simp [own, cut]
    · simp [own, opens.get?_other own, stored]
  · rw [kept]
    by_cases own : id = action.sessionId
    · obtain ⟨rfl, rfl⟩ := opens.eq_of_stored (own ▸ stored)
      simp [whole, stored]
    · simp [own, opens.get?_other own, stored]

end Atomic

/-! ## A memory that fails now and then -/

/-- An operation over a memory that fails without effect if the next sign says so. -/
def Attempt.heeding {α : Type} (x : Attempt Memory StoreError α) :
    Attempt (Memory × List Bool) StoreError α := fun k =>
  match k.2 with
  | true :: signs => (.error (.file "sessions" .notDirectory), (k.1, signs))
  | signs => ((x.run.run k.1).1, ((x.run.run k.1).2, signs.tail))

/-- The memory of which each operation fails if the next of a list of signs says so. -/
def Memory.flaky : Store (Memory × List Bool) where
  read id := (Memory.store.read id).heeding
  write session := (Memory.store.write session).heeding
  delete id := (Memory.store.delete id).heeding
  world id := (Memory.store.world id).heeding

theorem Attempt.fullyOrNot_heeding {α : Type} (x : Attempt Memory StoreError α) :
    x.heeding.FullyOrNot Prod.fst x := by
  rintro ⟨m, signs⟩
  rcases signs with _ | ⟨_ | _, signs⟩
  · exact .inl rfl
  · exact .inl rfl
  · exact .inr ⟨⟨_, rfl⟩, rfl⟩

theorem Memory.flaky_atomic : Memory.flaky.Atomic Prod.fst where
  read _ := Attempt.fullyOrNot_heeding _
  write _ := Attempt.fullyOrNot_heeding _
  delete _ := Attempt.fullyOrNot_heeding _
  world _ := Attempt.fullyOrNot_heeding _

/-- A player in the hall, with signs for the operations to come. -/
def foreboding (signs : List Bool) : Memory × List Bool :=
  (Memory.write { worlds := shelve [hatch] } (.start "player" "cottage" "hall"), signs)

/-- What comes of an action of that player. -/
def foreboded (verb : Verb) (sentence : Sentence) (signs : List Bool) :
    Except ResolveError Outcome × Memory × List Bool :=
  ((Resolver.standard {} {} (.fixed "Hello?")).resolve Memory.flaky
    ⟨"player", verb, sentence⟩).run.run (foreboding signs)

/-- The way up the hatch cannot be saved, and the player is still in the hall. -/
theorem failing_keeps_iff_hatch :
    (foreboded .move { subject := "up" } [false, false, true]).1
        = .error ⟨.saving "player", .file "sessions" .notDirectory⟩
      ∧ ((foreboded .move { subject := "up" } [false, false, true]).2.1.sessions.get? "player"
          = some (.start "player" "cottage" "hall") ↔
        ¬ ("player" = "player" ∧ Resolver.CutOff (foreboding [false, false, true]).1
          ⟨"player", .move, { subject := "up" }⟩ (.start "player" "cottage" "hall")
          ⟨.saving "player", .file "sessions" .notDirectory⟩)) := by
  have fails : (foreboded .move { subject := "up" } [false, false, true]).1
      = .error ⟨.saving "player", .file "sessions" .notDirectory⟩ := rfl
  exact ⟨fails, failing_keeps_iff Memory.flaky_atomic (Prod.ext fails rfl) rfl⟩

/-- The player starts over; the old session is deleted, but the fresh one cannot be written. -/
theorem restart_loses_session :
    Memory.flaky.Atomic Prod.fst
      ∧ (foreboding [false, false, false, true]).1.sessions.get? "player"
        = some (.start "player" "cottage" "hall")
      ∧ (foreboded .restart {} [false, false, false, true]).1
        = .error ⟨.saving "player", .file "sessions" .notDirectory⟩
      ∧ (foreboded .restart {} [false, false, false, true]).2.1.sessions.get? "player" = none :=
  ⟨Memory.flaky_atomic, rfl, rfl, rfl⟩

end TextAdventure
