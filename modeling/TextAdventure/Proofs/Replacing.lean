import Mathlib.Data.List.Infix
import TextAdventure.Text.Search

/-!
# Replacing a part of a text

A text with gaps in it is closed by putting a part into each of them (`close`). Replacing the part
by another text closes the gaps with that text, if no character of the text begins the part
(`replaceAll_close`). If one does, something is replaced that was no gap, and this is to be seen
unless the part is replaced by itself (`replaceAll_close_iff`).

The parts here are those whose first character comes once in them, so that two places of one never
overlap.
-/

namespace TextAdventure.Text

/-! ## One occurrence after another -/

theorem stripStart?_append (cs : List Char) : ∀ start, stripStart? start (start ++ cs) = some cs
  | [] => rfl
  | p :: ps => by rw [List.cons_append, stripStart?, if_pos rfl, stripStart?_append cs ps]

theorem stripStart?_eq_none_iff {start cs : List Char} :
    stripStart? start cs = none ↔ ¬ start <+: cs := by
  constructor
  · rintro none ⟨rest, rfl⟩
    rw [stripStart?_append] at none
    cases none
  · intro other
    refine Option.eq_none_iff_forall_ne_some.2 fun rest some => other ⟨rest, ?_⟩
    exact (eq_append_of_stripStart? some).symm

/-- In how many places a part stands in a text. -/
def occurrences (part cs : List Char) : Nat :=
  cs.tails.countP (part <+: ·)

section

variable {c b : Char} {part tail cs : List Char}

theorem replaceAll_append (replacement : List Char) :
    replaceAll (b :: tail) replacement (b :: tail ++ cs)
      = replacement ++ replaceAll (b :: tail) replacement cs := by
  rw [List.cons_append, replaceAll]
  split
  · next rest there =>
    rw [← List.cons_append, stripStart?_append] at there
    cases there
    rfl
  · next none =>
    rw [← List.cons_append, stripStart?_append] at none
    cases none

theorem replaceAll_cons (replacement : List Char) (other : ¬ b :: tail <+: c :: cs) :
    replaceAll (b :: tail) replacement (c :: cs) = c :: replaceAll (b :: tail) replacement cs := by
  rw [replaceAll]
  split
  · next rest there =>
    rw [stripStart?_eq_none_iff.2 other] at there
    cases there
  · rfl

/-- A text is cut into places of a part and characters that begin none, from left to right. -/
@[elab_as_elim]
theorem places_induction {b : Char} {tail : List Char} {motive : List Char → Prop}
    (nil : motive []) (place : ∀ rest, motive rest → motive (b :: tail ++ rest))
    (other : ∀ c cs, ¬ b :: tail <+: c :: cs → motive cs → motive (c :: cs)) (cs : List Char) :
    motive cs := by
  match cs with
  | [] => exact nil
  | c :: cs =>
    by_cases there : b :: tail <+: c :: cs
    · obtain ⟨rest, split⟩ := there
      have shorter : rest.length < (c :: cs).length := by
        rw [← split, List.length_append, List.length_cons]
        omega
      rw [← split]
      exact place rest (places_induction nil place other rest)
    · exact other c cs there (places_induction nil place other cs)
termination_by cs.length
decreasing_by
  · exact shorter
  · exact Nat.lt_succ_self _

theorem occurrences_cons :
    occurrences part (c :: cs) = occurrences part cs + if part <+: c :: cs then 1 else 0 := by
  rw [occurrences, List.tails_cons, List.countP_cons]
  simp only [decide_eq_true_eq]
  rfl

/-- No place of a part is among characters other than its first. -/
theorem occurrences_append_of_notMem :
    ∀ {before : List Char}, b ∉ before →
      occurrences (b :: tail) (before ++ cs) = occurrences (b :: tail) cs
  | [], _ => rfl
  | c :: before, notMem => by
    rw [List.mem_cons, not_or] at notMem
    rw [List.cons_append, occurrences_cons, occurrences_append_of_notMem notMem.2,
      if_neg fun there => notMem.1 (List.cons_prefix_cons.1 there).1, Nat.add_zero]

variable (once : b ∉ tail)
include once

theorem occurrences_append :
    occurrences (b :: tail) (b :: tail ++ cs) = occurrences (b :: tail) cs + 1 := by
  have whole : b :: tail <+: b :: (tail ++ cs) := ⟨cs, rfl⟩
  rw [List.cons_append, occurrences_cons, occurrences_append_of_notMem once, if_pos whole]

/-- Each place makes the text longer by the replacement and shorter by the part. -/
theorem length_replaceAll (replacement cs : List Char) :
    (replaceAll (b :: tail) replacement cs).length
        + occurrences (b :: tail) cs * (b :: tail).length
      = cs.length + occurrences (b :: tail) cs * replacement.length := by
  induction cs using @places_induction b tail with
  | nil => simp [replaceAll, occurrences]
  | place rest ih =>
    rw [replaceAll_append, occurrences_append once]
    simp only [List.length_append, Nat.add_mul, Nat.one_mul] at ih ⊢
    omega
  | other c cs there ih =>
    rw [replaceAll_cons _ there, occurrences_cons, if_neg there, Nat.add_zero]
    simp only [List.length_cons] at ih ⊢
    omega

end

/-- Replacing a part by itself changes nothing. -/
theorem replaceAll_self (b : Char) (tail cs : List Char) :
    replaceAll (b :: tail) (b :: tail) cs = cs := by
  induction cs using @places_induction b tail with
  | nil => rw [replaceAll]
  | place rest ih => rw [replaceAll_append, ih]
  | other c cs there ih => rw [replaceAll_cons _ there, ih]

/-! ## Texts with gaps -/

/-- The text with a filling in each of its gaps. -/
def close (filling : List Char) (gapped : List (Option Char)) : List Char :=
  gapped.flatMap fun
    | some c => [c]
    | none => filling

/-- No character of the text begins a part, where the part stands in the gaps. -/
def Clear (part : List Char) : List (Option Char) → Prop
  | [] => True
  | none :: gapped => Clear part gapped
  | some c :: gapped => ¬ part <+: c :: close part gapped ∧ Clear part gapped

theorem close_gap (filling : List Char) (gapped : List (Option Char)) :
    close filling (none :: gapped) = filling ++ close filling gapped := rfl

theorem close_char (filling : List Char) (c : Char) (gapped : List (Option Char)) :
    close filling (some c :: gapped) = c :: close filling gapped := rfl

theorem length_close (filling part : List Char) (gapped : List (Option Char)) :
    (close filling gapped).length + gapped.count none * part.length
      = (close part gapped).length + gapped.count none * filling.length := by
  induction gapped with
  | nil => simp [close]
  | cons g gapped ih =>
    cases g with
    | none =>
      rw [close_gap, close_gap, List.count_cons_self]
      simp only [List.length_append, Nat.add_mul, Nat.one_mul]
      omega
    | some c =>
      rw [close_char, close_char, List.count_cons_of_ne (by simp)]
      simp only [List.length_cons]
      omega

variable {b : Char} {tail : List Char}

theorem replaceAll_close (replacement : List Char) {gapped : List (Option Char)}
    (clear : Clear (b :: tail) gapped) :
    replaceAll (b :: tail) replacement (close (b :: tail) gapped) = close replacement gapped := by
  induction gapped with
  | nil => exact replaceAll.eq_1 ..
  | cons g gapped ih =>
    cases g with
    | none => rw [close_gap, replaceAll_append, ih clear, close_gap]
    | some c => rw [close_char, replaceAll_cons _ clear.1, ih clear.2, close_char]

/-- Characters other than the first of a part are clear. -/
theorem clear_append_of_notMem {gapped : List (Option Char)} :
    ∀ {cs : List Char}, b ∉ cs →
      (Clear (b :: tail) (cs.map some ++ gapped) ↔ Clear (b :: tail) gapped)
  | [], _ => Iff.rfl
  | c :: cs, notMem => by
    rw [List.mem_cons, not_or] at notMem
    have other (ds : List Char) : ¬ b :: tail <+: c :: ds := fun there =>
      notMem.1 (List.cons_prefix_cons.1 there).1
    rw [List.map_cons, List.cons_append, Clear, clear_append_of_notMem notMem.2]
    exact and_iff_right (other _)

theorem clear_of_notMem : ∀ {gapped : List (Option Char)}, some b ∉ gapped →
    Clear (b :: tail) gapped
  | [], _ => trivial
  | none :: gapped, notMem => by
    show Clear (b :: tail) gapped
    exact clear_of_notMem fun mem => notMem (List.mem_cons_of_mem _ mem)
  | some c :: gapped, notMem => by
    rw [List.mem_cons, not_or] at notMem
    refine ⟨fun there => notMem.1 ?_, clear_of_notMem notMem.2⟩
    exact congrArg some (List.cons_prefix_cons.1 there).1

/-- What goes on in the text with gaps does so whatever is in them, if it goes into none. -/
theorem prefix_close {replacement : List Char} {gapped : List (Option Char)} :
    ∀ {start : List Char}, b ∉ start → start <+: close (b :: tail) gapped →
      start <+: close replacement gapped
  | [], _, _ => List.nil_prefix
  | c :: start, notMem, there => by
    rw [List.mem_cons, not_or] at notMem
    match gapped with
    | [] => exact absurd (List.prefix_nil.1 there) (by simp)
    | none :: gapped =>
      exact absurd (List.cons_prefix_cons.1 there).1.symm notMem.1
    | some d :: gapped =>
      rw [close_char, List.cons_prefix_cons] at there ⊢
      exact ⟨there.1, prefix_close notMem.2 there.2⟩

variable (once : b ∉ tail)
include once

theorem count_none_le (gapped : List (Option Char)) :
    gapped.count none ≤ occurrences (b :: tail) (close (b :: tail) gapped) ∧
      (occurrences (b :: tail) (close (b :: tail) gapped) = gapped.count none ↔
        Clear (b :: tail) gapped) := by
  induction gapped with
  | nil => simp [close, occurrences, Clear]
  | cons g gapped ih =>
    obtain ⟨le, iff⟩ := ih
    cases g with
    | none =>
      rw [close_gap, occurrences_append once, List.count_cons_self, Clear, ← iff]
      omega
    | some c =>
      rw [close_char, occurrences_cons, List.count_cons_of_ne (by simp), Clear, ← iff]
      by_cases there : b :: tail <+: c :: close (b :: tail) gapped
      · simp only [there, if_true, not_true_eq_false, false_and, iff_false]
        omega
      · simp only [there, if_false, not_false_eq_true, true_and, Nat.add_zero, and_true]
        exact le

theorem eq_of_replaceAll_close {replacement : List Char} {gapped : List (Option Char)}
    (length : replacement.length = (b :: tail).length)
    (same : replaceAll (b :: tail) replacement (close (b :: tail) gapped)
      = close replacement gapped) :
    replacement = b :: tail ∨ Clear (b :: tail) gapped := by
  induction gapped with
  | nil => exact .inr trivial
  | cons g gapped ih =>
    cases g with
    | none =>
      rw [close_gap, replaceAll_append, close_gap] at same
      exact ih (List.append_cancel_left same)
    | some c =>
      rw [close_char, close_char] at same
      by_cases there : b :: tail <+: c :: close (b :: tail) gapped
      · -- the first place that is no gap is replaced, and kept on the other side
        left
        obtain ⟨rfl, within⟩ := List.cons_prefix_cons.1 there
        have kept : b :: tail <+: b :: close replacement gapped :=
          List.cons_prefix_cons.2 ⟨rfl, prefix_close once within⟩
        obtain ⟨rest, split⟩ := there
        rw [← split, replaceAll_append] at same
        have replaced : replacement <+: b :: close replacement gapped := ⟨_, same⟩
        exact (List.prefix_of_prefix_length_le replaced kept length.le).eq_of_length length
      · rw [replaceAll_cons _ there] at same
        exact (ih (List.cons.inj same).2).imp_right fun clear => ⟨there, clear⟩

/-- Replacing a part closes the gaps that it stands in, and does nothing else, just if it stands
nowhere else or is replaced by itself. -/
theorem replaceAll_close_iff (replacement : List Char) (gapped : List (Option Char)) :
    replaceAll (b :: tail) replacement (close (b :: tail) gapped) = close replacement gapped ↔
      replacement = b :: tail
        ∨ occurrences (b :: tail) (close (b :: tail) gapped) = gapped.count none := by
  obtain ⟨le, clear_iff⟩ := count_none_le once gapped
  rw [clear_iff]
  constructor
  · intro same
    obtain ⟨extra, eq⟩ := Nat.exists_eq_add_of_le le
    have replaced := length_replaceAll once replacement (close (b :: tail) gapped)
    have closed := length_close replacement (b :: tail) gapped
    rw [same, eq, Nat.add_mul, Nat.add_mul] at replaced
    have lengths : extra * replacement.length = extra * (b :: tail).length := by omega
    rcases Nat.eq_zero_or_pos extra with rfl | pos
    · exact .inr (clear_iff.1 eq)
    · exact eq_of_replaceAll_close once (Nat.eq_of_mul_eq_mul_left pos lengths) same
  · rintro (rfl | clear)
    · exact replaceAll_self b tail _
    · exact replaceAll_close replacement clear

end TextAdventure.Text
