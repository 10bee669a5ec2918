import Mathlib.Data.List.Induction
import TextAdventure.Proofs.FileSessions

/-!
# What is read after any changes

Sessions are written and deleted one after another, in a directory that was empty at first. Several
ids may have one file, and a file holds what the last change to it left (`Files.held_changeAll`).
Since a session that is found there is compared with the id, none is read but the one that the last
change to this very id has written: never one of another id, and never one that was written over or
deleted since. It is read exactly if the file was not changed for another id either
(`Files.read_iff_written_last`).
-/

namespace TextAdventure

/-- What is done to the session of an id. -/
inductive Change where
  | write (session : Session)
  | delete (id : String)
deriving DecidableEq

namespace Change

def id : Change → String
  | write session => session.id
  | delete id => id

/-- The session that there is after a change. -/
def left : Change → Option Session
  | write session => some session
  | delete _ => none

/-- The last change to the session of an id. -/
def lastTo (id : String) (changes : List Change) : Option Change :=
  (changes.filter (·.id = id)).getLast?

/-- The last change to a file. -/
def lastIn (name : String) (changes : List Change) : Option Change :=
  (changes.filter (fileName ·.id = name)).getLast?

theorem lastIn_concat (name : String) (changes : List Change) (c : Change) :
    lastIn name (changes ++ [c])
      = if name = fileName c.id then some c else lastIn name changes := by
  unfold lastIn
  by_cases same : fileName c.id = name
  · simp [List.filter_append, same]
  · simp [List.filter_append, same, Ne.symm same]

theorem id_of_lastTo {id : String} {changes : List Change} {c : Change}
    (last : lastTo id changes = some c) : c.id = id := by
  simpa using (List.mem_filter.1 (List.mem_of_getLast? last)).2

/-- What was last done to a file was last done to its own id. -/
theorem lastTo_of_lastIn {name : String} {changes : List Change} {c : Change}
    (last : lastIn name changes = some c) : lastTo c.id changes = some c := by
  have own : fileName c.id = name := by
    simpa using (List.mem_filter.1 (List.mem_of_getLast? last)).2
  -- the changes to an id are among those to its file, in the same order
  have toId : changes.filter (·.id = c.id)
      = (changes.filter (fileName ·.id = name)).filter (·.id = c.id) := by
    rw [List.filter_filter]
    refine List.filter_congr fun other _ => ?_
    by_cases same : other.id = c.id <;> simp [same, own]
  obtain ⟨before, eq⟩ := List.getLast?_eq_some_iff.1 last
  rw [lastTo, toId, eq, List.filter_append]
  simp

end Change

namespace Files

open Directory

variable {f : Files}

/-- The files after a change. -/
def change (f : Files) : Change → Files
  | .write session => (f.write session).2
  | .delete id => (f.delete id).2

/-- The files after changes one after another. -/
def changeAll (f : Files) (changes : List Change) : Files :=
  changes.foldl change f

theorem orderly_change (h : f.directory.Orderly) : ∀ c, (f.change c).directory.Orderly
  | .write s => orderly_write h s
  | .delete id => orderly_delete h id

theorem held_change (h : f.directory.Orderly) {name : String} (fits : Fits name) :
    ∀ c, (f.change c).directory.held name
      = if name = fileName c.id then c.left else f.directory.held name
  | .write s => held_write h s fits
  | .delete id => held_delete h id fits

theorem orderly_changeAll (h : f.directory.Orderly) (changes : List Change) :
    (f.changeAll changes).directory.Orderly := by
  induction changes using List.reverseRecOn with
  | nil => exact h
  | append_singleton changes c ih =>
    rw [changeAll, List.foldl_append]
    exact orderly_change ih c

/-- A file holds what the last change to it left, or what it held all along. -/
theorem held_changeAll (h : f.directory.Orderly) {name : String} (fits : Fits name)
    (changes : List Change) :
    (f.changeAll changes).directory.held name
      = ((Change.lastIn name changes).map Change.left).getD (f.directory.held name) := by
  induction changes using List.reverseRecOn with
  | nil => rfl
  | append_singleton changes c ih =>
    have orderly := orderly_changeAll h changes
    rw [changeAll] at ih orderly ⊢
    rw [List.foldl_append, List.foldl_cons, List.foldl_nil, held_change orderly fits, ih,
      Change.lastIn_concat]
    split <;> rfl

/-- Whatever was written and deleted: a session is read for an id exactly if the last change to the
id has written it, and no change to another id with the same file came after that. -/
theorem read_iff_written_last (start : f.directory = .missing ∨ f.directory = .holding ∅)
    (changes : List Change) (id : String) :
    (Fits (fileName id) → ∃ found, (f.changeAll changes).session id = .ok found) ∧
    ∀ s, (f.changeAll changes).session id = .ok (some s) ↔
      Fits (fileName id) ∧ Change.lastTo id changes = some (.write s) ∧
        Change.lastIn (fileName id) changes = Change.lastTo id changes := by
  have reachable : f.directory.Reachable := by
    rcases start with start | start
    · exact start ▸ .missing
    · exact start ▸ .empty
  have blank (name : String) : f.directory.held name = none := by
    rcases start with start | start <;> rw [start] <;> rfl
  have before := orderly_of_reachable reachable
  have after := orderly_changeAll before changes
  refine ⟨fun fits => ⟨_, session_eq after fits⟩, fun s => ?_⟩
  by_cases fits : Fits (fileName id)
  case neg => exact iff_of_false (session_ne_some_of_not_fits after fits s) fun h => fits h.1
  rw [session_eq after fits, held_changeAll before fits, blank]
  constructor
  · intro found
    obtain ⟨holds, own⟩ := Option.filter_eq_some_iff.1 (Except.ok.inj found)
    obtain rfl : s.id = id := of_decide_eq_true own
    rcases last : Change.lastIn (fileName s.id) changes with _ | (t | other)
    · rw [last] at holds
      cases holds
    · rw [last] at holds
      cases holds
      have written := Change.lastTo_of_lastIn last
      exact ⟨fits, written, written.symm⟩
    · rw [last] at holds
      cases holds
  · rintro ⟨-, last, same⟩
    have own : s.id = id := Change.id_of_lastTo last
    rw [same, last]
    simp [Change.left, own]

/-- Changes to three ids with one file, and to another id. -/
def traffic : List Change :=
  [.write (.start "a/b" "w" "hall"), .delete "a_b", .write (.start "a_b" "w" "hall"),
    .write (.start "guest" "w" "hall"), .delete "a b", .write (.start "a_b" "w" "attic")]

/-- One of the three has the session that was written for it last, and the first has lost its. -/
theorem read_iff_written_last_traffic :
    let f : Files := { worlds := ∅, path := "" }
    (f.directory = .missing ∨ f.directory = .holding ∅) ∧
      (f.changeAll traffic).session "a_b" = .ok (some (.start "a_b" "w" "attic")) ∧
      Change.lastTo "a/b" traffic = some (.write (.start "a/b" "w" "hall")) ∧
      ∀ s, (f.changeAll traffic).session "a/b" ≠ .ok (some s) := by
  intro f
  have start : f.directory = .missing ∨ f.directory = .holding ∅ := .inl rfl
  have found := (read_iff_written_last start traffic "a_b").2 (.start "a_b" "w" "attic")
  have lost := (read_iff_written_last start traffic "a/b").2
  refine ⟨start, found.2 ⟨by decide, by decide +kernel, by decide +kernel⟩, by decide +kernel, ?_⟩
  intro s read
  have same : Change.lastIn (fileName "a/b") traffic = Change.lastTo "a/b" traffic :=
    ((lost s).1 read).2.2
  revert same
  decide +kernel

end Files

end TextAdventure
