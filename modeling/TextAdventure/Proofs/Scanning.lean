import Mathlib.Algebra.Group.Nat.Defs
import Mathlib.Data.List.TakeDrop
import TextAdventure.Text.Scanner

/-!
# What scanners take

One equation for each scanner, on a text of which it takes the front; what a scanner made of
others takes follows from these by the equations of the monad. Hexadecimal digits read back as the
number that they were written for (`Hexadecimal.number?_digits`).
-/

namespace TextAdventure.Text

namespace Hexadecimal

theorem value?_of_isDigit {c : Char} (h : c.isDigit) : value? c = some (c.toNat - 48) := by
  simp [value?, h]

theorem value?_digit : ∀ n, n < 16 → value? (digit n) = some n := by decide

theorem digit_ne_brace : ∀ n, n < 16 → digit n ≠ '\x7d' := by decide

theorem number?_digits (n : Nat) : number? (digits n) = some n := by
  fun_induction digits n with
  | case1 n small => simp [number?, value?_digit n small]
  | case2 n large ih =>
    rw [number?] at ih ⊢
    rw [List.foldlM_append, ih]
    simp [value?_digit _ (Nat.mod_lt n (by decide))]
    omega

theorem digits_ne_nil (n : Nat) : digits n ≠ [] := by
  rw [digits]
  split <;> simp

theorem brace_notMem_digits (n : Nat) : '\x7d' ∉ digits n := by
  fun_induction digits n with
  | case1 n small => simpa using (digit_ne_brace n small).symm
  | case2 n large ih =>
    rw [List.mem_append, List.mem_singleton]
    rintro (mem | eq)
    · exact ih mem
    · exact digit_ne_brace _ (Nat.mod_lt n (by decide)) eq.symm

theorem length_digits_le : ∀ {k n : Nat}, n < 16 ^ (k + 1) → (digits n).length ≤ k + 1
  | 0, n, h => by
    rw [digits, if_pos (by omega)]
    simp
  | k + 1, n, h => by
    rw [digits]
    split
    · simp
    · have shorter : (digits (n / 16)).length ≤ k + 1 := length_digits_le (by omega)
      simpa using shorter

end Hexadecimal

namespace Scanner

theorem run_accept_self (c : Char) (cs : List Char) :
    (accept c).run (c :: cs) = some (true, cs) := by
  simp [accept]

theorem run_accept_of_ne {c d : Char} (h : c ≠ d) (cs : List Char) :
    (accept c).run (d :: cs) = some (false, d :: cs) := by
  simp [accept, h]

theorem run_expect (c : Char) (cs : List Char) : (expect c).run (c :: cs) = some ((), cs) := by
  simp [expect, run_accept_self]

theorem run_next (c : Char) (cs : List Char) : next.run (c :: cs) = some (c, cs) := by
  simp [next]

theorem run_startsWith (start : String) (text : List Char) :
    (startsWith start).run text = some (start.toList.isPrefixOf text, text) := by
  simp [startsWith]

theorem run_acceptText_of_not {start : String} {text : List Char} (h : ¬ start.toList <+: text) :
    (acceptText start).run text = some (false, text) := by
  simp [acceptText, run_startsWith, h]

theorem run_drop (n : Nat) (text : List Char) : (drop n).run text = some ((), text.drop n) := by
  simp [drop]

theorem run_takeWhile {p : Char → Bool} {taken : List Char} {c : Char} (cs : List Char)
    (h : ∀ x ∈ taken, p x) (hc : p c = false) :
    (takeWhile p).run (taken ++ c :: cs) = some (taken, c :: cs) := by
  simp [takeWhile, List.span_eq_takeWhile_dropWhile, List.takeWhile_append_of_pos h,
    List.dropWhile_append_of_pos h, hc]

theorem run_discard {α : Type} (s : Scanner α) (text : List Char) :
    (discard s).run text = (s.run text).map fun p => ((), p.2) := by
  rw [Functor.discard, map_const]
  simp [Option.map_eq_bind]

/-- A loop that takes nothing of the text folds its list. -/
theorem run_forIn_yield {α β : Type} {f : α → β → Scanner (ForInStep β)} {g : β → α → β}
    {text : List Char} :
    ∀ {list : List α} {b : β},
      (∀ a ∈ list, ∀ b, (f a b).run text = some (.yield (g b a), text)) →
      (forIn list b f).run text = some (list.foldl g b, text)
  | [], b, _ => by simp
  | a :: list, b, h => by
    have rest : (forIn list (g b a) f).run text = some (list.foldl g (g b a), text) :=
      run_forIn_yield fun a' mem => h a' (List.mem_cons_of_mem _ mem)
    simp [h a List.mem_cons_self, rest]

theorem run_charOf (c : Char) (text : List Char) : (charOf c.toNat).run text = some (c, text) := by
  have valid : c.toNat.isValidChar := c.valid
  simp [charOf, valid]

end Scanner

end TextAdventure.Text
