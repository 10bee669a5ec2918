import TextAdventure.Proofs.LegalMoves
import TextAdventure.Proofs.Mirroring
import TextAdventure.Proofs.Turns

/-!
# Playing in several sittings

Sessions in files outlive the store that wrote them. A run over files may be broken off after any
action and taken up again by a store that is opened anew on the same directory (`inSittings`): as
long as no two players have one slug, its answers and the sessions that it leaves are those of the
run over a memory in one go (`inSittings_follow_memory`). Nothing fails over a file but for a name
that is too long.
-/

namespace TextAdventure

/-- Whether an action failed over a file that could not be read or written. -/
def Faulted : Except ResolveError Outcome → Prop
  | .error e => e.cause.IsFault
  | .ok _ => False

/-! ## Over a memory no file is at fault -/

theorem Shelf.not_isFault_of_world {worlds : Shelf} {id : String} {cause : StoreError}
    (fails : worlds.world id = .error cause) : ¬ cause.IsFault := by
  unfold Shelf.world at fails
  split at fails
  · cases fails
  · cases fails
    exact False.elim

namespace Resolver

variable (r : Resolver) (worlds : Shelf)

theorem not_faulted_turnIn (session : Session) (action : Action) :
    ¬ Faulted (r.turnIn worlds session action).1 := by
  unfold turnIn
  split
  · next fails => exact Shelf.not_isFault_of_world fails
  · exact id

theorem not_faulted_turn (stored : Option Session) (action : Action) :
    ¬ Faulted (r.turn worlds stored action).1 := by
  unfold turn
  split
  · exact r.not_faulted_turnIn worlds _ action
  · split
    · next fails => exact Shelf.not_isFault_of_world fails
    · exact r.not_faulted_turnIn worlds _ action

theorem not_faulted_resolve (m : Memory) (action : Action) :
    ¬ Faulted ((r.resolve Memory.store action).run.run m).1 := by
  rw [r.resolve_eq_turn]
  exact r.not_faulted_turn _ _ action

end Resolver

theorem not_faulted_resolveAll :
    ∀ (steps : List Step) (m : Memory),
      ∀ answer ∈ (resolveAll Memory.store steps m).1, ¬ Faulted answer
  | [], _ => by simp [resolveAll]
  | (r, action) :: steps, m =>
    List.forall_mem_cons.2 ⟨r.not_faulted_resolve m action, not_faulted_resolveAll steps _⟩

/-! ## Runs over files -/

open Files Directory

/-- The answers to the steps of several sittings, and the directory after them. For each sitting a
store is opened anew on the directory. -/
def inSittings (worlds : Shelf) (path : String) :
    List (List Step) → Directory → List (Except ResolveError Outcome) × Directory
  | [], directory => ([], directory)
  | steps :: later, directory =>
    let (answers, f) := resolveAll Files.store steps (.opened worlds path directory)
    let (others, directory) := inSittings worlds path later f.directory
    (answers ++ others, directory)

/-- Whose steps these are. -/
def isPlayer (steps : List Step) (id : String) : Prop :=
  ∃ step ∈ steps, step.2.sessionId = id

section Runs

variable {worlds : Shelf} {ids : String → Prop}
  (apart : ∀ {a b}, ids a → ids b → slug a = slug b → a = b)

include apart

/-- One action over files that mirror a memory: it has the answer that it has over the memory, or
the name for the id is too long. -/
theorem resolve_mirrors {f : Files} {m : Memory} (h : Mirrors worlds ids f m) (r : Resolver)
    {action : Action} (own : ids action.sessionId) :
    (¬ Fits (fileName action.sessionId) ∧ Faulted ((r.resolve Files.store action).run.run f).1) ∨
      ((r.resolve Files.store action).run.run f).1 = ((r.resolve Memory.store action).run.run m).1 ∧
        Mirrors worlds ids ((r.resolve Files.store action).run.run f).2
          ((r.resolve Memory.store action).run.run m).2 := by
  have follows : store.FollowsFor (Mirrors worlds ids) (NameTooLong action.sessionId)
      action.sessionId Memory.store := store_follows apart own
  have alike := r.resolve_follows follows f m h
  generalize (r.resolve Files.store action).run.run f = ef,
    (r.resolve Memory.store action).run.run m = em at alike ⊢
  cases alike with
  | ok kept _ => exact .inr ⟨rfl, kept⟩
  | error kept => exact .inr ⟨rfl, kept⟩
  | hindered hinders => exact .inl hinders

theorem resolveAll_mirrors :
    ∀ {steps : List Step} {f : Files} {m : Memory}, (∀ step ∈ steps, ids step.2.sessionId) →
      ((∀ step ∈ steps, Fits (fileName step.2.sessionId)) ∨
        ∀ answer ∈ (resolveAll Files.store steps f).1, ¬ Faulted answer) →
      Mirrors worlds ids f m →
      (resolveAll Files.store steps f).1 = (resolveAll Memory.store steps m).1 ∧
        Mirrors worlds ids (resolveAll Files.store steps f).2 (resolveAll Memory.store steps m).2
  | [], _, _, _, _, h => ⟨rfl, h⟩
  | (r, action) :: steps, f, m, own, sound, h => by
    obtain ⟨mine, others⟩ := List.forall_mem_cons.1 own
    have soundNow := sound.imp (fun fits => (List.forall_mem_cons.1 fits).1)
      fun fine => (List.forall_mem_cons.1 fine).1
    have soundLater := sound.imp (fun fits => (List.forall_mem_cons.1 fits).2)
      fun fine => (List.forall_mem_cons.1 fine).2
    rcases resolve_mirrors apart h r mine with ⟨long, faulted⟩ | ⟨same, h⟩
    · exact (soundNow.elim long fun fine => fine faulted).elim
    · obtain ⟨rest, h⟩ := resolveAll_mirrors others soundLater h
      exact ⟨congr (congrArg List.cons same) rest, h⟩

theorem inSittings_mirrors {path : String} :
    ∀ {sittings : List (List Step)} {directory : Directory} {m : Memory},
      (∀ step ∈ sittings.flatten, ids step.2.sessionId) →
      ((∀ step ∈ sittings.flatten, Fits (fileName step.2.sessionId)) ∨
        ∀ answer ∈ (inSittings worlds path sittings directory).1, ¬ Faulted answer) →
      Mirrors worlds ids (.opened worlds path directory) m →
      (inSittings worlds path sittings directory).1
          = (resolveAll Memory.store sittings.flatten m).1 ∧
        Mirrors worlds ids (.opened worlds path (inSittings worlds path sittings directory).2)
          (resolveAll Memory.store sittings.flatten m).2
  | [], _, _, _, _, h => ⟨rfl, h⟩
  | steps :: later, directory, m, own, sound, h => by
    rw [List.flatten_cons] at own sound ⊢
    rw [inSittings] at sound ⊢
    dsimp only at sound ⊢
    obtain ⟨mine, others⟩ := List.forall_mem_append.1 own
    have soundNow := sound.imp (fun fits => (List.forall_mem_append.1 fits).1)
      fun fine => (List.forall_mem_append.1 fine).1
    have soundLater := sound.imp (fun fits => (List.forall_mem_append.1 fits).2)
      fun fine => (List.forall_mem_append.1 fine).2
    obtain ⟨same, h⟩ := resolveAll_mirrors apart mine soundNow h
    obtain ⟨rest, h⟩ := inSittings_mirrors others soundLater h.reopen
    rw [resolveAll_append, same, rest]
    exact ⟨rfl, h⟩

end Runs

/-- A run over files that starts in an empty directory, in as many sittings as may be, of players no
two of whom have one slug. If their names are short enough for files, no file is ever at fault; and
whenever no file was, the answers are those of the run over a memory, and under every id there is
then the session that the memory has, if only its name can be looked for. -/
theorem inSittings_follow_memory {worlds : Shelf} {path : String} {directory : Directory}
    {sittings : List (List Step)} (empty : directory = .missing ∨ directory = .holding ∅)
    (apart : ∀ step ∈ sittings.flatten, ∀ other ∈ sittings.flatten,
      slug step.2.sessionId = slug other.2.sessionId → step.2.sessionId = other.2.sessionId) :
    ((∀ step ∈ sittings.flatten, Fits (fileName step.2.sessionId)) →
      ∀ answer ∈ (inSittings worlds path sittings directory).1, ¬ Faulted answer) ∧
    ((∀ answer ∈ (inSittings worlds path sittings directory).1, ¬ Faulted answer) →
      (inSittings worlds path sittings directory).1
          = (resolveAll Memory.store sittings.flatten { worlds }).1 ∧
        ∀ id,
          (Files.opened worlds path (inSittings worlds path sittings directory).2).session id
              = .ok ((resolveAll Memory.store sittings.flatten { worlds }).2.sessions.get? id) ∨
            ¬ Fits (fileName id) ∧ ∃ place,
              (Files.opened worlds path (inSittings worlds path sittings directory).2).session id
                = .error (.file place .nameTooLong)) := by
  have apart' {a b} : isPlayer sittings.flatten a → isPlayer sittings.flatten b →
      slug a = slug b → a = b := by
    rintro ⟨step, mem, rfl⟩ ⟨other, mem', rfl⟩
    exact apart step mem other mem'
  have own : ∀ step ∈ sittings.flatten, isPlayer sittings.flatten step.2.sessionId :=
    fun step mem => ⟨step, mem, rfl⟩
  have start := Mirrors.empty worlds (isPlayer sittings.flatten) path empty
  constructor
  · intro fits
    rw [(inSittings_mirrors apart' own (.inl fits) start).1]
    exact not_faulted_resolveAll _ _
  · intro sound
    obtain ⟨same, mirrors⟩ := inSittings_mirrors apart' own (.inr sound) start
    exact ⟨same, mirrors.session_cases⟩

/-- A player climbs; in another sitting a guest looks around, and the player starts over. -/
def twoVisits : List (List Step) :=
  let r := Resolver.standard {} {} (.fixed "Hello?")
  [[(r, ⟨"player", .move, { subject := "u" }⟩)],
    [(r, ⟨"guest", .look, {}⟩), (r, ⟨"player", .restart, {}⟩)]]

theorem inSittings_follow_memory_twoVisits :
    (∀ answer ∈ (inSittings (shelve [hatch]) "sessions" twoVisits .missing).1, ¬ Faulted answer) ∧
    (inSittings (shelve [hatch]) "sessions" twoVisits .missing).1
        = (resolveAll Memory.store twoVisits.flatten { worlds := shelve [hatch] }).1 ∧
      ∀ id,
        (Files.opened (shelve [hatch]) "sessions"
              (inSittings (shelve [hatch]) "sessions" twoVisits .missing).2).session id
            = .ok ((resolveAll Memory.store twoVisits.flatten
                { worlds := shelve [hatch] }).2.sessions.get? id) ∨
          ¬ Fits (fileName id) ∧ ∃ place,
            (Files.opened (shelve [hatch]) "sessions"
                (inSittings (shelve [hatch]) "sessions" twoVisits .missing).2).session id
              = .error (.file place .nameTooLong) := by
  have fits : ∀ step ∈ twoVisits.flatten, Fits (fileName step.2.sessionId) := by
    simp only [twoVisits, List.flatten_cons, List.flatten_nil, List.cons_append, List.nil_append,
      List.append_nil, List.forall_mem_cons]
    decide
  have apart : ∀ step ∈ twoVisits.flatten, ∀ other ∈ twoVisits.flatten,
      slug step.2.sessionId = slug other.2.sessionId →
        step.2.sessionId = other.2.sessionId := by
    simp only [twoVisits, List.flatten_cons, List.flatten_nil, List.cons_append, List.nil_append,
      List.append_nil, List.forall_mem_cons]
    decide
  obtain ⟨sound, follow⟩ := @inSittings_follow_memory (shelve [hatch]) "sessions" .missing
    twoVisits (.inl rfl) apart
  exact ⟨sound fits, follow (sound fits)⟩

end TextAdventure
