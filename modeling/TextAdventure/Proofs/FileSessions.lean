import TextAdventure.Proofs.SessionFiles
import TextAdventure.Store.Files

/-!
# Sessions in the files of a directory

A directory in which stores only wrote and deleted sessions is orderly: each of its entries is a
file that holds a session, under the name for its id (`Files.orderly_of_reachable`). So a store
reads for an id what its file holds, if that is the session of the id (`Files.session_eq`).
Writing a session or deleting one changes what one file holds (`Files.held_write`,
`Files.held_delete`), and reading another id notices it exactly if it has the same file and its
session was in there (`Files.session_kept_iff`). Ids of one slug do lose their sessions to each
other (`Files.session_lost`): what a file holds is compared with the id when it is read, but not
when it is written over or deleted.
-/

namespace TextAdventure

theorem fileName_inj {a b : String} : fileName a = fileName b ↔ slug a = slug b := by
  simp [fileName]

namespace Directory

/-- What has a name in a directory, of any length. -/
def entries : Directory → Dictionary Entry
  | holding entries => entries
  | _ => ∅

/-- A directory that is there or can be made. -/
def IsFree (d : Directory) : Prop :=
  ∀ fault, d ≠ obstructed fault

/-- Whether a name is short enough for a file. -/
def Fits (name : String) : Prop :=
  name.utf8ByteSize ≤ maxNameLength

instance (name : String) : Decidable (Fits name) :=
  inferInstanceAs (Decidable (_ ≤ _))

/-! ## Names in a directory -/

section Names

variable {d : Directory} {entries : Dictionary Entry} {name : String}

theorem isFree_missing : missing.IsFree := by
  rintro fault ⟨⟩

theorem isFree_holding : (holding entries).IsFree := by
  rintro fault ⟨⟩

theorem made_holding : (holding entries).made = holding entries := rfl

theorem IsFree.made (free : d.IsFree) : d.made = holding d.entries := by
  match d, free with
  | missing, _ => rfl
  | holding _, _ => rfl
  | obstructed fault, free => exact absurd rfl (free fault)

theorem find_holding (fits : Fits name) : (holding entries).find name = .ok (entries.get? name) :=
  if_neg (Nat.not_lt.2 fits)

theorem find_of_not_fits (long : ¬ Fits name) :
    (holding entries).find name = .error .nameTooLong :=
  if_pos (Nat.lt_of_not_le long)

theorem IsFree.find (free : d.IsFree) (fits : Fits name) :
    d.find name = .ok (d.entries.get? name) := by
  match d, free with
  | missing, _ => rfl
  | holding _, _ => exact find_holding fits
  | obstructed fault, free => exact absurd rfl (free fault)

theorem IsFree.read_none (free : d.IsFree) (fits : Fits name) (eq : d.entries.get? name = none) :
    d.read name = .ok none := by
  rw [read, free.find fits, eq]
  rfl

theorem IsFree.read_file (free : d.IsFree) (fits : Fits name) {text : String}
    (eq : d.entries.get? name = some (.file text)) : d.read name = .ok (some text) := by
  rw [read, free.find fits, eq]
  rfl

theorem read_of_not_fits (long : ¬ Fits name) :
    (holding entries).read name = .error .nameTooLong := by
  rw [read, find_of_not_fits long]
  rfl

theorem write_holding (fits : Fits name) (noFolder : entries.get? name ≠ some .folder)
    (text : String) :
    (holding entries).write name text = .ok (holding (entries.insert name (.file text))) := by
  rw [write, made_holding, find_holding fits]
  match entries.get? name, noFolder with
  | none, _ => rfl
  | some (.file _), _ => rfl

theorem write_of_not_fits (long : ¬ Fits name) (text : String) :
    (holding entries).write name text = .error .nameTooLong := by
  rw [write, made_holding, find_of_not_fits long]
  rfl

theorem remove_holding (fits : Fits name) (noFolder : entries.get? name ≠ some .folder) :
    (holding entries).remove name = .ok (holding (entries.erase name)) := by
  rw [remove, find_holding fits]
  match entries.get? name, noFolder with
  | none, _ => rfl
  | some (.file _), _ => rfl

theorem remove_of_not_fits (long : ¬ Fits name) :
    (holding entries).remove name = .error .nameTooLong := by
  rw [remove, find_of_not_fits long]
  rfl

end Names

/-! ## Directories of sessions -/

/-- Each entry is a file that holds a session, under the name for its id. -/
def HoldsSessions (entries : Dictionary Entry) : Prop :=
  ∀ name entry, entries.get? name = some entry →
    ∃ s, fileName s.id = name ∧ entry = .file (SessionFile.write s)

section HoldsSessions

variable {entries : Dictionary Entry}

theorem holdsSessions_empty : HoldsSessions ∅ := by
  rintro name entry ⟨⟩

theorem HoldsSessions.noFolder (h : HoldsSessions entries) (name : String) :
    entries.get? name ≠ some .folder := by
  intro folder
  obtain ⟨s, -, eq⟩ := h name .folder folder
  cases eq

theorem HoldsSessions.insert (h : HoldsSessions entries) (s : Session) :
    HoldsSessions (entries.insert (fileName s.id) (.file (SessionFile.write s))) := by
  intro name entry eq
  rw [Dictionary.get?_insert] at eq
  split at eq
  · next same => exact ⟨s, same.symm, (Option.some.inj eq).symm⟩
  · exact h name entry eq

theorem HoldsSessions.erase (h : HoldsSessions entries) (name : String) :
    HoldsSessions (entries.erase name) := by
  intro k entry eq
  rw [Dictionary.get?_erase] at eq
  split at eq
  · cases eq
  · exact h k entry eq

end HoldsSessions

/-- A directory that is there or can be made, and holds sessions only. -/
structure Orderly (d : Directory) : Prop where
  free : d.IsFree
  holds : HoldsSessions d.entries

/-- The session in the file of a name. -/
def held (d : Directory) (name : String) : Option Session :=
  match d.entries.get? name with
  | some (.file text) => SessionFile.read? text
  | _ => none

/-- A directory that comes about, from one without files, by the writing and deleting of stores. -/
inductive Reachable : Directory → Prop where
  | missing : Reachable missing
  | empty : Reachable (holding ∅)
  | write {f : Files} (h : Reachable f.directory) (s : Session) : Reachable (f.write s).2.directory
  | delete {f : Files} (h : Reachable f.directory) (id : String) :
    Reachable (f.delete id).2.directory

end Directory

namespace Files

open Directory

variable {f : Files} {b : String}

/-! ## What changes in the directory -/

section Changes

variable (h : f.directory.Orderly)

include h

theorem write_eq (s : Session) :
    (f.write s).2 = { f with
      directory := holding <|
        if Fits (fileName s.id) then
          f.directory.entries.insert (fileName s.id) (.file (SessionFile.write s))
        else f.directory.entries } := by
  rw [write, h.free.made]
  split
  · next fits => rw [write_holding fits (h.holds.noFolder _), keep]
  · next long => rw [write_of_not_fits long, keep]

/-- Deleting does not make a directory that is missing. -/
theorem delete_eq (id : String) :
    (f.delete id).2 = { f with
      directory := match f.directory with
        | holding entries =>
          holding (if Fits (fileName id) then entries.erase (fileName id) else entries)
        | d => d } := by
  obtain ⟨worlds, path, directory⟩ := f
  match directory, h with
  | missing, _ => rfl
  | holding entries, h =>
    have noFolder : entries.get? (fileName id) ≠ some .folder := h.holds.noFolder _
    rw [delete]
    by_cases fits : Fits (fileName id)
    · simp only [remove_holding fits noFolder, fits, if_true, keep]
    · simp only [remove_of_not_fits fits, fits, if_false, keep]
  | obstructed fault, h => exact absurd rfl (h.free fault)

theorem entries_write (s : Session) :
    (f.write s).2.directory.entries =
      if Fits (fileName s.id) then
        f.directory.entries.insert (fileName s.id) (.file (SessionFile.write s))
      else f.directory.entries := by
  rw [write_eq h]
  rfl

theorem entries_delete (id : String) :
    (f.delete id).2.directory.entries =
      if Fits (fileName id) then f.directory.entries.erase (fileName id)
      else f.directory.entries := by
  rw [delete_eq h]
  match f.directory, h with
  | missing, _ => exact (ite_self (∅ : Dictionary Entry)).symm
  | holding entries, _ => rfl
  | obstructed fault, h => exact absurd rfl (h.free fault)

theorem delete_eq_missing_iff (id : String) :
    (f.delete id).2.directory = missing ↔ f.directory = missing := by
  rw [delete_eq h]
  match f.directory, h with
  | missing, _ => exact Iff.rfl
  | holding entries, _ => simp
  | obstructed fault, h => exact absurd rfl (h.free fault)

theorem orderly_write (s : Session) : (f.write s).2.directory.Orderly := by
  refine ⟨?_, ?_⟩
  · rw [write_eq h]
    exact isFree_holding
  · rw [entries_write h]
    split
    · exact h.holds.insert s
    · exact h.holds

theorem orderly_delete (id : String) : (f.delete id).2.directory.Orderly := by
  refine ⟨?_, ?_⟩
  · rw [delete_eq h]
    match f.directory, h with
    | missing, _ => exact isFree_missing
    | holding entries, _ => exact isFree_holding
    | obstructed fault, h => exact absurd rfl (h.free fault)
  · rw [entries_delete h]
    split
    · exact h.holds.erase _
    · exact h.holds

theorem held_write (s : Session) {name : String} (fits : Fits name) :
    (f.write s).2.directory.held name
      = if name = fileName s.id then some s else f.directory.held name := by
  rw [held, held, entries_write h]
  by_cases same : name = fileName s.id
  · rw [if_pos (same ▸ fits), Dictionary.get?_insert, if_pos same, if_pos same]
    exact SessionFile.read?_write s
  · by_cases fits' : Fits (fileName s.id) <;> simp [same, fits', Dictionary.get?_insert]

theorem held_delete (id : String) {name : String} (fits : Fits name) :
    (f.delete id).2.directory.held name
      = if name = fileName id then none else f.directory.held name := by
  rw [held, held, entries_delete h]
  by_cases same : name = fileName id
  · rw [if_pos (same ▸ fits), Dictionary.get?_erase, if_pos same, if_pos same]
  · by_cases fits' : Fits (fileName id) <;> simp [same, fits', Dictionary.get?_erase]

end Changes

/-- Stores keep a directory orderly. -/
theorem orderly_of_reachable {d : Directory} (h : d.Reachable) : d.Orderly := by
  induction h with
  | missing => exact ⟨isFree_missing, holdsSessions_empty⟩
  | empty => exact ⟨isFree_holding, holdsSessions_empty⟩
  | write _ s ih => exact orderly_write ih s
  | delete _ id ih => exact orderly_delete ih id

/-! ## What is read -/

section Reading

variable (h : f.directory.Orderly)

include h

theorem session_eq (fits : Fits (fileName b)) :
    f.session b = .ok ((f.directory.held (fileName b)).filter fun s => s.id = b) := by
  rw [session, held]
  match eq : f.directory.entries.get? (fileName b) with
  | none =>
    rw [h.free.read_none fits eq]
    rfl
  | some entry =>
    obtain ⟨s, -, rfl⟩ := h.holds _ _ eq
    rw [h.free.read_file fits eq]
    simp [decode, SessionFile.read?_write, Option.filter]

/-- No file has a name that is too long, which is noticed if the directory is there. -/
theorem session_of_not_fits (long : ¬ Fits (fileName b)) :
    f.session b =
      if f.directory = missing then .ok none
      else .error (.file (f.pathOf (fileName b)) .nameTooLong) := by
  rw [session]
  match f.directory, h with
  | missing, _ => rfl
  | holding entries, _ =>
    rw [read_of_not_fits long]
    rfl
  | obstructed fault, h => exact absurd rfl (h.free fault)

theorem session_write (s : Session) (fits : Fits (fileName b)) :
    (f.write s).2.session b
      = if slug b = slug s.id then .ok ((some s).filter fun s => s.id = b) else f.session b := by
  rw [session_eq (orderly_write h s) fits, session_eq h fits, held_write h s fits]
  simp only [fileName_inj]
  split <;> rfl

theorem session_delete (id : String) (fits : Fits (fileName b)) :
    (f.delete id).2.session b = if slug b = slug id then .ok none else f.session b := by
  rw [session_eq (orderly_delete h id) fits, session_eq h fits, held_delete h id fits]
  simp only [fileName_inj]
  split <;> rfl

theorem session_delete_of_not_fits (id : String) (long : ¬ Fits (fileName b)) :
    (f.delete id).2.session b = f.session b := by
  have path : (f.delete id).2.pathOf (fileName b) = f.pathOf (fileName b) := by
    rw [delete_eq h]
    rfl
  rw [session_of_not_fits (orderly_delete h id) long, session_of_not_fits h long, path]
  simp only [delete_eq_missing_iff h]

theorem session_ne_some_of_not_fits (long : ¬ Fits (fileName b)) (t : Session) :
    f.session b ≠ .ok (some t) := by
  rw [session_of_not_fits h long]
  split <;> rintro ⟨⟩

/-- The directory is there after a session was written, so names that are too long are noticed. -/
theorem fits_of_session_write {s : Session} {found : Option Session}
    (readable : (f.write s).2.session b = .ok found) : Fits (fileName b) := by
  by_contra long
  rw [session_of_not_fits (orderly_write h s) long, write_eq h] at readable
  cases readable

end Reading

/-- Emptying the file of an id keeps what is read for another exactly if that has a file of its own
or nothing was read. -/
theorem kept_iff {a b : String} {before after : Except StoreError (Option Session)}
    {found : Option Session} (readable : before = .ok found)
    (change : after = if slug b = slug a then .ok none else before) :
    after = before ↔ slug a ≠ slug b ∨ ∀ t, before ≠ .ok (some t) := by
  subst readable change
  by_cases same : slug b = slug a
  · cases found <;> simp [same]
  · simp [same, Ne.symm same]

/-- Writing or deleting the session of one id keeps what is read for another, as long as the file of
the other can be read, exactly if the two have different slugs or the other has no session. -/
theorem session_kept_iff (reachable : f.directory.Reachable) {a b : String} (different : a ≠ b)
    {s : Session} (own : s.id = a) :
    ((∃ found, (f.write s).2.session b = .ok found) →
      ((f.write s).2.session b = f.session b
        ↔ slug a ≠ slug b ∨ ∀ t, f.session b ≠ .ok (some t))) ∧
    ((f.delete a).2.session b = f.session b
      ↔ slug a ≠ slug b ∨ ∀ t, f.session b ≠ .ok (some t)) := by
  have h := orderly_of_reachable reachable
  refine ⟨fun ⟨found, readable⟩ => ?written, ?deleted⟩
  case written =>
    have fits := fits_of_session_write h readable
    have other : (some s).filter (fun s => s.id = b) = none := by
      simp [Option.filter, own, different]
    have change := session_write h s fits
    rw [other, own] at change
    exact kept_iff (session_eq h fits) change
  case deleted =>
    by_cases fits : Fits (fileName b)
    · exact kept_iff (session_eq h fits) (session_delete h a fits)
    -- Deleting makes no directory, so a name that is too long is read as before.
    · exact iff_of_true (session_delete_of_not_fits h a fits)
        (.inr (session_ne_some_of_not_fits h fits))

theorem session_kept_iff_guest :
    let f := (({ worlds := ∅, path := "" } : Files).write (.start "guest" "w" "hall")).2
    let s := Session.start "a/b" "w" "hall"
    f.directory.Reachable ∧ "a/b" ≠ "guest" ∧ s.id = "a/b" ∧
      (f.write s).2.session "guest" = f.session "guest" ∧
      (f.delete "a/b").2.session "guest" = f.session "guest" := by
  intro f s
  have start : ({ worlds := ∅, path := "" } : Files).directory.Reachable := .missing
  have reachable : f.directory.Reachable := start.write (.start "guest" "w" "hall")
  have different : "a/b" ≠ "guest" := by decide
  have apart : slug "a/b" ≠ slug "guest" := by decide
  have readable := session_eq (orderly_of_reachable (reachable.write s))
    (by decide : Directory.Fits (fileName "guest"))
  have kept := session_kept_iff reachable different (s := s) rfl
  exact ⟨reachable, different, rfl, (kept.1 ⟨_, readable⟩).2 (.inl apart), kept.2.2 (.inl apart)⟩

/-- Ids of one slug share a file: what is written or deleted for one is lost for the other. -/
theorem session_lost :
    let f := (({ worlds := ∅, path := "" } : Files).write (.start "a_b" "w" "hall")).2
    let s := Session.start "a/b" "w" "hall"
    f.directory.Reachable ∧ s.id ≠ "a_b" ∧
      f.session "a_b" = .ok (some (.start "a_b" "w" "hall")) ∧
      (f.write s).2.session "a_b" = .ok none ∧ (f.delete s.id).2.session "a_b" = .ok none := by
  intro f s
  have start : ({ worlds := ∅, path := "" } : Files).directory.Reachable := .missing
  have reachable : f.directory.Reachable := start.write (.start "a_b" "w" "hall")
  have fits : Directory.Fits (fileName "a_b") := by decide
  have shared : slug "a_b" = slug s.id := by decide
  refine ⟨reachable, by decide, ?_, ?_, ?_⟩
  · exact (session_write (orderly_of_reachable start) _ fits).trans (if_pos rfl)
  · exact (session_write (orderly_of_reachable reachable) s fits).trans (if_pos shared)
  · exact (session_delete (orderly_of_reachable reachable) s.id fits).trans (if_pos shared)

end Files

end TextAdventure
