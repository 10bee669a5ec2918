import TextAdventure.Action

/-!
# Updates act on sessions

Merging outcomes merges what they change (`Outcome.change_merge`), and applying a merge of two
updates is applying one after the other (`Session.apply_merge`). So what a list of outcomes does to
a session can be done step by step or all at once (`Session.apply_merge_change`).

With the empty update, which is the only one that changes no session (`Update.isEmpty_iff`), updates
are a monoid that acts on sessions (`updates_act_on_sessions`). Whether a session remembers nothing
is decided by the last update that carries a reference, be it the empty one.
-/

namespace TextAdventure

namespace Update

@[simp] theorem empty_merge (u : Update) : empty.merge u = u := by
  simp only [merge, empty, Option.orElse_eq_orElse, Option.orElse_eq_or, Option.or_none]

@[simp] theorem merge_empty (u : Update) : u.merge empty = u := by
  simp only [merge, empty, Option.orElse_eq_orElse, Option.orElse_eq_or, Option.none_or]

@[simp] theorem merge_self (u : Update) : u.merge u = u := by
  simp only [merge, Option.orElse_eq_orElse, Option.orElse_eq_or, Option.or_self]

/-- A restart speaks of every field, so nothing stays of what came before it. -/
theorem merge_restart (u : Update) (room : String) : u.merge (restart room) = restart room := rfl

theorem merge_assoc (u v w : Update) : (u.merge v).merge w = u.merge (v.merge w) := by
  simp only [merge, Option.orElse_eq_orElse, Option.orElse_eq_or, Option.or_assoc]

instance : Std.Associative merge := ⟨merge_assoc⟩

end Update

namespace Outcome

/-- What an outcome changes: nothing if it has no update. -/
def change (outcome : Outcome) : Update :=
  outcome.update.getD .empty

theorem change_merge (earlier later : Outcome) :
    (earlier.merge later).change = earlier.change.merge later.change := by
  unfold change merge
  cases earlier.update <;> cases later.update
  · rfl
  · exact (Update.empty_merge _).symm
  · rfl
  · rfl

end Outcome

namespace Session

@[simp] theorem apply_empty (s : Session) : s.apply .empty = s := rfl

/-- Merging updates composes them. That an empty reference clears its field makes no difference,
since a merge keeps it. -/
theorem apply_merge (s : Session) (u later : Update) :
    s.apply (u.merge later) = (s.apply u).apply later := by
  simp only [apply, Update.merge, Option.orElse_eq_orElse, Option.orElse_eq_or, Option.getD_or,
    Option.map_or]

theorem apply_apply_self (s : Session) (u : Update) : (s.apply u).apply u = s.apply u := by
  rw [← apply_merge, Update.merge_self]

/-- Nothing stays of a session that starts over but who plays which world. -/
theorem apply_restart (s : Session) (room : String) :
    s.apply (.restart room) = .start s.id s.worldId room := rfl

theorem apply_merge_change (s : Session) (earlier later : Outcome) :
    s.apply (earlier.merge later).change = (s.apply earlier.change).apply later.change := by
  rw [Outcome.change_merge, apply_merge]

end Session

/-! ## What an update leaves alone -/

/-- What is put in the place of no value, whichever it is, is no value. -/
theorem eq_none_of_getD {α : Type} {o : Option α} {x y : α} (different : x ≠ y)
    (keeps : ∀ z, o.getD z = z) : o = none := by
  rcases o with _ | z
  · rfl
  · exact absurd ((keeps x).symm.trans (keeps y)) different

/-- Only the empty update changes no session: for every other one there is a session that it
changes. -/
theorem Update.isEmpty_iff (u : Update) : u.isEmpty ↔ ∀ s : Session, s.apply u = s := by
  rw [isEmpty, beq_iff_eq]
  constructor
  · rintro rfl s
    exact s.apply_empty
  · intro keeps
    -- a session that differs from others in one field shows what the update does to this field
    let nobody : Session := .start "" "" ""
    have room : u.room = none := eq_none_of_getD (show "" ≠ "a" by decide) fun room =>
      congrArg Session.room (keeps { nobody with room })
    have flags : u.flags = none :=
      eq_none_of_getD (show (∅ : Flags) ≠ .ofList [("", "")] by decide) fun flags =>
        congrArg Session.flags (keeps { nobody with flags })
    have sets : (∅ : IdSet) ≠ .singleton "" := by decide
    have inventory : u.inventory = none := eq_none_of_getD sets fun inventory =>
      congrArg Session.inventory (keeps { nobody with inventory })
    have gone : u.gone = none := eq_none_of_getD sets fun gone =>
      congrArg Session.gone (keeps { nobody with gone })
    have seen : u.seen = none := eq_none_of_getD sets fun seen =>
      congrArg Session.seen (keeps { nobody with seen })
    have effects : u.effects = none := eq_none_of_getD sets fun effects =>
      congrArg Session.effects (keeps { nobody with effects })
    have failures : u.failures = none :=
      eq_none_of_getD (show (0 : UInt32) ≠ 1 by decide) fun failures =>
        congrArg Session.failures (keeps { nobody with failures })
    have references : (none : Option String) ≠ some "" := nofun
    have context : u.context = none := Option.map_eq_none_iff.1 <|
      eq_none_of_getD references fun context =>
        congrArg Session.context (keeps { nobody with context })
    have cameFrom : u.cameFrom = none := Option.map_eq_none_iff.1 <|
      eq_none_of_getD references fun cameFrom =>
        congrArg Session.cameFrom (keeps { nobody with cameFrom })
    cases u
    simp_all [empty]

/-! ## References -/

theorem presentText_eq_none_iff {text : String} : presentText text = none ↔ text = "" := by
  simp [presentText]

/-- A reference is cleared by the empty one, and by nothing else. -/
theorem getD_presentText_eq_none_iff {carried previous : Option String} :
    (carried.map presentText).getD previous = none ↔
      carried = some "" ∨ carried = none ∧ previous = none := by
  rcases carried with _ | text
  · simp
  · simp [presentText_eq_none_iff]

/-- Updates are a monoid that acts on sessions: merging them is applying one after another, an
update that is applied twice does no more than once, a restart forgets all that was before it, and
the empty update is the only one that changes nothing. Through all of this an empty reference is one
that clears the field. -/
theorem updates_act_on_sessions (s : Session) (u v w : Update) (room : String) :
    (s.apply u).apply v = s.apply (u.merge v)
      ∧ (u.merge v).merge w = u.merge (v.merge w)
      ∧ Update.empty.merge u = u ∧ u.merge .empty = u
      ∧ (s.apply u).apply u = s.apply u
      ∧ u.merge (.restart room) = .restart room
      ∧ s.apply (.restart room) = .start s.id s.worldId room
      ∧ (u.isEmpty ↔ ∀ s : Session, s.apply u = s)
      ∧ ((s.apply (u.merge v)).context = none ↔
          v.context = some "" ∨ v.context = none
            ∧ (u.context = some "" ∨ u.context = none ∧ s.context = none))
      ∧ ((s.apply (u.merge v)).cameFrom = none ↔
          v.cameFrom = some "" ∨ v.cameFrom = none
            ∧ (u.cameFrom = some "" ∨ u.cameFrom = none ∧ s.cameFrom = none)) := by
  refine ⟨(s.apply_merge u v).symm, u.merge_assoc v w, u.empty_merge, u.merge_empty,
    s.apply_apply_self u, u.merge_restart room, s.apply_restart room, u.isEmpty_iff, ?_, ?_⟩
  all_goals
    rw [s.apply_merge]
    exact getD_presentText_eq_none_iff.trans
      (or_congr_right (and_congr_right fun _ => getD_presentText_eq_none_iff))

end TextAdventure
