import TextAdventure.Proofs.FileSessions
import TextAdventure.Proofs.Following
import TextAdventure.Proofs.Turns

/-!
# Files keep what a memory would keep

As long as no two ids of players have one slug, the files of a directory hold the sessions that a
memory would hold, each under the name for its id (`Files.Mirrors`). Every operation on the session
of a player keeps this up and gives what it gives over the memory (`Files.store_follows`), unless
the name for the id is too long for a file. A store that is opened anew on the directory finds the
same sessions there (`Files.Mirrors.reopen`).
-/

namespace TextAdventure

/-- Whether a file could not be read or written. -/
def StoreError.IsFault : StoreError → Prop
  | file _ _ => True
  | unknownWorld _ | undecodable _ => False

namespace Files

open Directory Attempt

/-! ## Results of writing and deleting -/

section Results

variable {f : Files} (h : f.directory.Orderly)

include h

theorem write_fst (s : Session) :
    (f.write s).1 = if Fits (fileName s.id) then .ok ()
      else .error (.file (f.pathOf (fileName s.id)) .nameTooLong) := by
  rw [write, h.free.made]
  split
  · next fits => rw [write_holding fits (h.holds.noFolder _), keep]
  · next long =>
    rw [write_of_not_fits long, keep]
    rfl

theorem delete_fst_of_fits {id : String} (fits : Fits (fileName id)) : (f.delete id).1 = .ok () := by
  obtain ⟨worlds, path, directory⟩ := f
  match directory, h with
  | missing, _ => rfl
  | holding entries, h =>
    have noFolder : entries.get? (fileName id) ≠ some .folder := h.holds.noFolder _
    rw [delete, remove_holding fits noFolder, keep]
  | obstructed fault, h => exact absurd rfl (h.free fault)

/-- A name that is too long is not noticed where there are no files. -/
theorem delete_fst_of_not_fits {id : String} (long : ¬ Fits (fileName id)) :
    (f.delete id).1 = .ok () ∨ ∃ path, (f.delete id).1 = .error (.file path .nameTooLong) := by
  obtain ⟨worlds, path, directory⟩ := f
  match directory, h with
  | missing, _ => exact .inl rfl
  | holding entries, _ =>
    right
    rw [delete, remove_of_not_fits long, keep]
    exact ⟨_, rfl⟩
  | obstructed fault, h => exact absurd rfl (h.free fault)

end Results

/-! ## The files of a memory -/

/-- A store that is opened on a directory. -/
def opened (worlds : Shelf) (path : String) (directory : Directory) : Files :=
  { worlds, path, directory }

/-- The files of a directory hold the sessions of a memory, each under the name for its id, which is
one of some ids. -/
structure Mirrors (worlds : Shelf) (ids : String → Prop) (f : Files) (m : Memory) : Prop where
  shelf : f.worlds = worlds
  sameShelf : m.worlds = worlds
  orderly : f.directory.Orderly
  known : ∀ {id s}, m.sessions.get? id = some s → ids id ∧ Fits (fileName id)
  held_iff : ∀ {name}, Fits name → ∀ {s}, f.directory.held name = some s ↔
    fileName s.id = name ∧ m.sessions.get? s.id = some s

namespace Mirrors

variable {worlds : Shelf} {ids : String → Prop} {f : Files} {m : Memory} {id : String}

theorem session (h : Mirrors worlds ids f m) (fits : Fits (fileName id)) :
    f.session id = .ok (m.sessions.get? id) := by
  rw [session_eq h.orderly fits]
  refine congrArg Except.ok (Option.ext fun s => ?_)
  rw [Option.filter_eq_some_iff, h.held_iff fits, decide_eq_true_eq]
  constructor
  · rintro ⟨⟨-, stored⟩, rfl⟩
    exact stored
  · intro stored
    obtain rfl : s.id = id := m.sessions.named stored
    exact ⟨⟨rfl, stored⟩, rfl⟩

theorem absent (h : Mirrors worlds ids f m) (long : ¬ Fits (fileName id)) :
    m.sessions.get? id = none :=
  Option.eq_none_iff_forall_ne_some.2 fun _ stored => long (h.known stored).2

/-- What is read under any id is what the memory has, or the name for the id is too long. -/
theorem session_cases (h : Mirrors worlds ids f m) (id : String) :
    f.session id = .ok (m.sessions.get? id) ∨
      ¬ Fits (fileName id) ∧ ∃ path, f.session id = .error (.file path .nameTooLong) := by
  by_cases fits : Fits (fileName id)
  · exact .inl (h.session fits)
  · rw [session_of_not_fits h.orderly fits, h.absent fits]
    split
    · exact .inl rfl
    · exact .inr ⟨fits, _, rfl⟩

/-- In an empty directory there is nothing of an empty memory. -/
theorem empty (worlds : Shelf) (ids : String → Prop) (path : String) {directory : Directory}
    (empty : directory = .missing ∨ directory = .holding ∅) :
    Mirrors worlds ids (.opened worlds path directory) { worlds } where
  shelf := rfl
  sameShelf := rfl
  orderly := by
    rcases empty with rfl | rfl
    · exact orderly_of_reachable .missing
    · exact orderly_of_reachable .empty
  known stored := nomatch stored
  held_iff _ _ := by rcases empty with rfl | rfl <;> simp [opened, held, entries]

theorem reopen (h : Mirrors worlds ids f m) {path : String} :
    Mirrors worlds ids (.opened worlds path f.directory) m :=
  { h with shelf := rfl }

/-- What becomes of one session makes no difference to files with other names. -/
theorem held_iff_elsewhere (h : Mirrors worlds ids f m) {name : String} (fits : Fits name)
    (elsewhere : name ≠ fileName id) (becomes : Option Session) (s : Session) :
    f.directory.held name = some s ↔ fileName s.id = name ∧
      (if s.id = id then becomes else m.sessions.get? s.id) = some s := by
  rw [h.held_iff fits]
  split
  · next same =>
    rw [same]
    exact iff_of_false (elsewhere ·.1.symm) (elsewhere ·.1.symm)
  · exact Iff.rfl

variable (h : Mirrors worlds ids f m)
  (apart : ∀ {a b}, ids a → ids b → slug a = slug b → a = b)

include h apart

theorem write {s : Session} (own : ids s.id) (fits : Fits (fileName s.id)) :
    Mirrors worlds ids (f.write s).2 (m.write s) where
  shelf := by rw [write_eq h.orderly, ← h.shelf]
  sameShelf := h.sameShelf
  orderly := orderly_write h.orderly s
  known {id t} stored := by
    rw [m.get?_write] at stored
    split at stored
    · next eq => exact eq ▸ ⟨own, fits⟩
    · exact h.known stored
  held_iff {name} fitsName t := by
    rw [held_write h.orderly s fitsName, m.get?_write]
    split
    · next named =>
      subst named
      split
      · simp_all
      -- Another session in the same file would have the same slug.
      · next other =>
        constructor
        · rintro ⟨⟩
          exact absurd rfl other
        · rintro ⟨shared, stored⟩
          exact absurd (apart (h.known stored).1 own (fileName_inj.1 shared)) other
    · next elsewhere => exact h.held_iff_elsewhere fitsName elsewhere _ t

theorem delete (own : ids id) : Mirrors worlds ids (f.delete id).2 (m.delete id) where
  shelf := by rw [delete_eq h.orderly, ← h.shelf]
  sameShelf := h.sameShelf
  orderly := orderly_delete h.orderly id
  known {other t} stored := by
    rw [Memory.delete, Catalog.get?_remove] at stored
    split at stored
    · cases stored
    · exact h.known stored
  held_iff {name} fitsName t := by
    rw [held_delete h.orderly id fitsName, Memory.delete, Catalog.get?_remove]
    split
    · next named =>
      subst named
      refine iff_of_false (fun none => nomatch none) fun ⟨shared, stored⟩ => ?_
      split at stored
      · cases stored
      · next other => exact other (apart (h.known stored).1 own (fileName_inj.1 shared))
    · next elsewhere => exact h.held_iff_elsewhere fitsName elsewhere _ t

end Mirrors

/-! ## The two stores -/

/-- A file could not be read or written, since the name for an id is too long. -/
def NameTooLong (id : String) (e : StoreError) : Prop :=
  ¬ Fits (fileName id) ∧ e.IsFault

variable {worlds : Shelf} {ids : String → Prop}

theorem store_follows (apart : ∀ {a b}, ids a → ids b → slug a = slug b → a = b) {id : String}
    (own : ids id) :
    store.FollowsFor (Mirrors worlds ids) (NameTooLong id) id Memory.store where
  read f m h := by
    show Alike _ _ _ (f.session id, f) (.ok (m.sessions.get? id), m)
    rcases h.session_cases id with eq | ⟨long, path, eq⟩
    · rw [eq]
      exact .ok h fun session found => m.sessions.named found
    · rw [eq]
      exact .hindered ⟨long, trivial⟩
  write s named f m h := by
    subst named
    show Alike _ _ _ ((f.write s).1, (f.write s).2) (.ok (), m.write s)
    rw [write_fst h.orderly]
    split
    · next fits => exact .ok (h.write apart own fits) trivial
    · next long => exact .hindered ⟨long, trivial⟩
  delete f m h := by
    show Alike _ _ _ ((f.delete id).1, (f.delete id).2) (.ok (), m.delete id)
    by_cases fits : Fits (fileName id)
    · rw [delete_fst_of_fits h.orderly fits]
      exact .ok (h.delete apart own) trivial
    · rcases delete_fst_of_not_fits h.orderly fits with eq | ⟨path, eq⟩
      · rw [eq]
        exact .ok (h.delete apart own) trivial
      · rw [eq]
        exact .hindered ⟨fits, trivial⟩
  world name f m h := by
    show Alike _ _ _ (f.worlds.world name, f) (m.worlds.world name, m)
    rw [h.shelf, h.sameShelf]
    rcases worlds.world name with e | world
    · exact .error h
    · exact .ok h trivial

end Files

end TextAdventure
