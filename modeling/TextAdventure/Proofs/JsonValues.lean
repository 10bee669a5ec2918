import TextAdventure.Json.Record
import TextAdventure.Proofs.Scanning

/-!
# Reading written values

A reader takes a value from what was written for it (`Json.Reader.Takes`), whatever comes after it
in a list, an object or at the end. Texts are read character by character, each as it is or by its
escape (`Json.Reader.run_textBody_escapeChar`), numbers digit by digit. How one item of a list or
one member of an object turns what was read so far into something else is a relation along the list
of them (`Json.Reader.ReadsItems`, `Json.Reader.ReadsMembers`), from which follows what is read of
the whole (`Json.Reader.ReadsItems.takes_list`, `Json.Reader.ReadsMembers.run_object`).
-/

namespace TextAdventure

namespace Decimal

theorem isDigit_digitChar : ∀ d, d < 10 → (digitChar d).isDigit := by decide

theorem toNat_digitChar : ∀ d, d < 10 → (digitChar d).toNat - 48 = d := by decide

theorem isDigit_of_mem_digits {n : Nat} : ∀ c ∈ digits n, c.isDigit := by
  fun_induction digits n with
  | case1 n small => simpa using isDigit_digitChar n small
  | case2 n large ih =>
    intro c mem
    rcases List.mem_append.1 mem with mem | mem
    · exact ih c mem
    · rw [List.mem_singleton.1 mem]
      exact isDigit_digitChar _ (Nat.mod_lt n (by decide))

theorem value_digits (n : Nat) : value (digits n) = n := by
  fun_induction digits n with
  | case1 n small => simp [value, toNat_digitChar n small]
  | case2 n large ih =>
    rw [value] at ih ⊢
    rw [List.foldl_append, ih, List.foldl_cons, List.foldl_nil,
      toNat_digitChar _ (Nat.mod_lt n (by decide))]
    omega

theorem digits_ne_nil (n : Nat) : digits n ≠ [] := by
  rw [digits]
  split <;> simp

/-- Only zero is written with a zero in front. -/
theorem eq_zero_of_head?_digits {n : Nat} (zero : (digits n).head? = some '0') : n = 0 := by
  fun_induction digits n with
  | case1 n small =>
    have first : digitChar n = '0' := Option.some.inj zero
    rw [← toNat_digitChar n small, first]
    rfl
  | case2 n large ih =>
    rw [List.head?_append, Option.or_of_isSome (by simp [digits_ne_nil])] at zero
    exact absurd (ih zero) (by omega)

theorem eq_zero_of_isDigit {d : Char} (isDigit : d.isDigit) (zero : d.toNat - 48 = 0) :
    d = '0' := by
  have low : 48 ≤ d.toNat := by
    simp only [Char.isDigit, Bool.and_eq_true, decide_eq_true_eq] at isDigit
    exact UInt32.le_iff_toNat_le.1 isDigit.1
  have code : d.toNat = 48 := by omega
  rw [← Char.ofNat_toNat d, code]

/-- After a zero in front there are no more digits. -/
theorem eq_nil_of_digits_zero {n : Nat} {d : Char} {ds : List Char}
    (written : digits n = d :: ds) (zero : d.toNat - 48 = 0) : ds = [] := by
  have isDigit : d.isDigit := isDigit_of_mem_digits d (written ▸ List.mem_cons_self)
  have first : d = '0' := eq_zero_of_isDigit isDigit zero
  have none : n = 0 := eq_zero_of_head?_digits (by rw [written, first]; rfl)
  rw [none, digits, if_pos (by decide)] at written
  exact (List.cons.inj written).2.symm

end Decimal

namespace Json.Reader

variable {α β σ : Type}

/-! ## Tokens -/

theorem run_accept_self (c : Char) (cs : List Char) :
    (accept c).run (c :: cs) = pure (true, cs) := by
  simp [accept]

theorem run_accept_of_ne {c d : Char} (h : c ≠ d) (cs : List Char) :
    (accept c).run (d :: cs) = pure (false, d :: cs) := by
  simp [accept, h]

theorem run_drop (n : Nat) (text : List Char) : (drop n).run text = pure ((), text.drop n) := by
  simp [drop]

theorem run_token {c : Char} (h : isBlank c = false) (atEnd : Cause) (cs : List Char) :
    (token atEnd).run (c :: cs) = pure (c, c :: cs) := by
  simp [token, skipBlanks, h]

theorem run_skipBlanks {c : Char} (h : isBlank c = false) (cs : List Char) :
    skipBlanks.run (c :: cs) = pure ((), c :: cs) := by
  simp [skipBlanks, h]

theorem run_discard {reader : Reader α} {a : α} {text rest : List Char}
    (h : reader.run text = pure (a, rest)) : (discard reader).run text = pure ((), rest) := by
  rw [Functor.discard, map_const]
  simp [h]

theorem run_word (rest : List Char) : ∀ cs : List Char, (word cs).run (cs ++ rest) = pure ((), rest)
  | [] => rfl
  | c :: cs => by simp [word, run_word rest cs]

theorem run_colon (rest : List Char) : colon.run (':' :: rest) = pure ((), rest) := by
  have plain : isBlank ':' = false := rfl
  simp [colon, run_discard (run_token plain .objectEnds rest), run_accept_self]

/-! ## Texts -/

open Writer (escapeChar)

theorem fourDigits?_control {c : Char} (control : c.toNat < 0x20) (rest : List Char) :
    fourDigits? ('0' :: '0' :: Text.Hexadecimal.digit (c.toNat / 16)
      :: Text.Hexadecimal.digit (c.toNat % 16) :: rest) = some c.toNat := by
  have high := Text.Hexadecimal.value?_digit (c.toNat / 16) (by omega)
  have low := Text.Hexadecimal.value?_digit (c.toNat % 16) (by omega)
  have zero := Text.Hexadecimal.value?_digit 0 (by decide)
  have whole : 16 * (c.toNat / 16) + c.toNat % 16 = c.toNat := Nat.div_add_mod _ 16
  rw [show Text.Hexadecimal.digit 0 = '0' from rfl] at zero
  simp [fourDigits?, Text.Hexadecimal.number?, zero, high, low, whole]

theorem run_unicode_control {c : Char} (control : c.toNat < 0x20) (rest : List Char) :
    unicode.run ('0' :: '0' :: Text.Hexadecimal.digit (c.toNat / 16)
      :: Text.Hexadecimal.digit (c.toNat % 16) :: rest) = pure (c, rest) := by
  have notLow : ¬ 0xDC00 ≤ c.toNat := by omega
  have notHigh : c.toNat < 0xD800 := by omega
  simp [unicode, codeUnit, fourDigits?_control control, notLow, notHigh]

/-- The solidus alone has an escape and is written without it. -/
theorem escapeChar_simple : ∀ e ∈ simpleEscapes, e.1 ≠ '/' →
    escapeChar e.2 = ['\\', e.1] ∧ simpleEscapes.lookup e.1 = some e.2 := by decide

/-- A character within quotes is written as it is, or as a backslash and what it is read from. -/
theorem escapeChar_cases (c : Char) :
    (escapeChar c = [c] ∧ isControl c = false ∧ c ≠ '"' ∧ c ≠ '\\') ∨
      ∃ code, escapeChar c = '\\' :: code ∧
        ∀ rest, escaped.run (code ++ rest) = pure (c, rest) := by
  by_cases simple : ∃ e ∈ simpleEscapes, e.1 ≠ '/' ∧ e.2 = c
  · obtain ⟨e, mem, notSolidus, rfl⟩ := simple
    obtain ⟨written, found⟩ := escapeChar_simple e mem notSolidus
    exact .inr ⟨[e.1], written, fun rest => by simp [escaped, found]⟩
  · obtain ⟨quote, backslash, backspace, feed, line, carriage, tab⟩ :
        c ≠ '"' ∧ c ≠ '\\' ∧ c ≠ '\x08' ∧ c ≠ '\x0c' ∧ c ≠ '\n' ∧ c ≠ '\r' ∧ c ≠ '\t' := by
      simpa [simpleEscapes, eq_comm] using simple
    have written : escapeChar c
        = if c.toNat < 0x20 then
            ['\\', 'u', '0', '0', Text.Hexadecimal.digit (c.toNat / 16),
              Text.Hexadecimal.digit (c.toNat % 16)]
          else [c] := by
      simp [escapeChar, quote, backslash, backspace, feed, line, carriage, tab]
    by_cases control : c.toNat < 0x20
    · rw [if_pos control] at written
      have notSimple : simpleEscapes.lookup 'u' = none := by decide
      exact .inr ⟨_, written, fun rest => by
        simp [escaped, notSimple, run_unicode_control control]⟩
    · rw [if_neg control] at written
      exact .inl ⟨written, by simp [isControl, control], quote, backslash⟩

theorem run_textBody_escapeChar (fuel : Nat) (c : Char) (rest : List Char) :
    (textBody (fuel + 1)).run (escapeChar c ++ rest)
      = (textBody fuel).run rest >>= fun p => pure (c :: p.1, p.2) := by
  rcases escapeChar_cases c with ⟨written, plain, notQuote, notBackslash⟩ | ⟨code, written, reads⟩
  · rw [written, textBody]
    simp [plain, notQuote, notBackslash]
  · have plain : isControl '\\' = false := by decide
    rw [written, textBody]
    simp [plain, reads]

theorem run_textBody (rest : List Char) :
    ∀ {cs : List Char} {fuel : Nat}, cs.length < fuel →
      (textBody fuel).run (cs.flatMap escapeChar ++ '"' :: rest) = pure (cs, rest)
  | [], fuel + 1, _ => by
    have plain : isControl '"' = false := by decide
    simp [textBody, plain]
  | c :: cs, fuel + 1, h => by
    rw [List.flatMap_cons, List.append_assoc, run_textBody_escapeChar,
      run_textBody rest (Nat.lt_of_succ_lt_succ h), pure_bind]

theorem length_le_flatMap {f : α → List β} (h : ∀ a, f a ≠ []) :
    ∀ l : List α, l.length ≤ (l.flatMap f).length
  | [] => Nat.le_refl 0
  | a :: l => by
    have pos := List.length_pos_iff.2 (h a)
    have more := length_le_flatMap h l
    rw [List.flatMap_cons, List.length_append, List.length_cons]
    omega

theorem escapeChar_ne_nil (c : Char) : escapeChar c ≠ [] := by
  rcases escapeChar_cases c with ⟨written, -⟩ | ⟨code, written, -⟩ <;> simp [written]

theorem run_quoted (t : String) (rest : List Char) :
    quoted.run (t.toList.flatMap escapeChar ++ '"' :: rest) = pure (t, rest) := by
  have enough := length_le_flatMap escapeChar_ne_nil t.toList
  have fits : t.toList.length < (t.toList.flatMap escapeChar ++ '"' :: rest).length + 1 := by
    rw [List.length_append]
    omega
  simp only [quoted, StateT.run_bind, StateT.run_get, pure_bind, run_textBody rest fits,
    StateT.run_pure, String.ofList_toList]

theorem newline_notMem_escapeChar (c : Char) : '\n' ∉ escapeChar c := by
  have digits : ∀ n < 16, '\n' ≠ Text.Hexadecimal.digit n := by decide
  unfold escapeChar
  split_ifs with _ _ _ _ newline _ _ control
  any_goals decide
  -- the code of a control character, and a character that is written as it is
  · have high := digits (c.toNat / 16) (by omega)
    have low := digits (c.toNat % 16) (by omega)
    simp [high, low]
  · simpa [eq_comm] using newline

/-! ## What follows a value -/

/-- What may come after a value. -/
inductive Ended : List Char → Prop where
  | text : Ended []
  | item (rest : List Char) : Ended (',' :: rest)
  | list (rest : List Char) : Ended (']' :: rest)
  | object (rest : List Char) : Ended ('\x7d' :: rest)

/-- Whether a value that is there begins with a character. -/
def startsValue (c : Char) : Bool :=
  c = '"' || c = '[' || c = '\x7b' || c = 't' || c = 'f' || c.isDigit

theorem isBlank_of_startsValue {c : Char} (h : startsValue c) : isBlank c = false := by
  rw [Bool.eq_false_iff]
  intro blank
  simp only [isBlank, Bool.or_eq_true, decide_eq_true_eq] at blank
  rcases blank with ((rfl | rfl) | rfl) | rfl <;> exact absurd h (by decide)

/-- A reader takes a value from what is written for it, which stays on one line. -/
structure Takes (reader : Reader α) (written : List Char) (value : α) : Prop where
  starts : ∃ c cs, written = c :: cs ∧ startsValue c
  oneLine : '\n' ∉ written
  run_eq : ∀ {rest}, Ended rest → reader.run (written ++ rest) = pure (value, rest)

theorem Takes.map {reader : Reader α} {written : List Char} {a : α}
    (takes : Takes reader written a) (f : α → β) :
    Takes (do return f (← reader)) written (f a) where
  starts := takes.starts
  oneLine := takes.oneLine
  run_eq ended := by simp [takes.run_eq ended]

theorem Takes.optional {reader : Reader α} {written : List Char} {a : α}
    (takes : Takes reader written a) : Takes (optional reader) written (some a) where
  starts := takes.starts
  oneLine := takes.oneLine
  run_eq {rest} ended := by
    obtain ⟨c, cs, rfl, starts⟩ := takes.starts
    have there : c ≠ 'n' := by
      rintro rfl
      exact absurd starts (by decide)
    have skipped := run_skipBlanks (isBlank_of_startsValue starts) (cs ++ rest)
    have read := takes.run_eq ended
    rw [List.cons_append] at read ⊢
    simp [Reader.optional, skipped, there, read]

theorem takes_text (wanted : String) (t : String) : Takes (text wanted) (Writer.text t) t where
  starts := ⟨_, _, rfl, rfl⟩
  oneLine := by
    have inside (c : Char) (_ : c ∈ t.toList) := newline_notMem_escapeChar c
    simpa [Writer.text] using inside
  run_eq {rest} _ := by
    have plain : isBlank '"' = false := rfl
    rw [Writer.text, List.cons_append, List.append_assoc, List.singleton_append]
    simp [text, run_token plain, run_drop, run_quoted]

theorem takes_bool (b : Bool) : Takes bool (Writer.bool b) b := by
  cases b with
  | true =>
    refine ⟨⟨_, _, rfl, rfl⟩, by decide, fun {rest} _ => ?_⟩
    have starts : (token .valueEnds).run (Writer.bool true ++ rest)
        = pure ('t', Writer.bool true ++ rest) := run_token rfl _ _
    have read : (word "true".toList).run (Writer.bool true ++ rest) = pure ((), rest) :=
      run_word rest _
    simp only [bool, StateT.run_bind, starts, read, pure_bind, StateT.run_pure]
  | false =>
    refine ⟨⟨_, _, rfl, rfl⟩, by decide, fun {rest} _ => ?_⟩
    have starts : (token .valueEnds).run (Writer.bool false ++ rest)
        = pure ('f', Writer.bool false ++ rest) := run_token rfl _ _
    have read : (word "false".toList).run (Writer.bool false ++ rest) = pure ((), rest) :=
      run_word rest _
    simp only [bool, StateT.run_bind, starts, read, pure_bind, StateT.run_pure]

/-! ## Numbers -/

section Numbers

variable {rest : List Char}

theorem Ended.gather_eq (ended : Ended rest) (bound n count : Nat) :
    gather bound n count rest = ((n, count), rest) := by
  cases ended <;> rfl

theorem Ended.head?_isDigit (ended : Ended rest) : rest.head?.any Char.isDigit = false := by
  cases ended <;> rfl

theorem Ended.run_passDigits (ended : Ended rest) : passDigits.run rest = pure (0, rest) := by
  cases ended <;> rfl

theorem Ended.run_accept_point (ended : Ended rest) :
    (accept '.').run rest = pure (false, rest) := by
  cases ended <;> rfl

theorem Ended.run_startsExponent (ended : Ended rest) :
    startsExponent.run rest = pure (false, rest) := by
  cases ended <;> rfl

theorem le_foldl_digits :
    ∀ (ds : List Char) (n : Nat), n ≤ ds.foldl (fun n c => 10 * n + (c.toNat - 48)) n
  | [], n => Nat.le_refl n
  | d :: ds, n => by
    have more := le_foldl_digits ds (10 * n + (d.toNat - 48))
    rw [List.foldl_cons]
    omega

theorem gather_digits {bound : Nat} (ended : Ended rest) :
    ∀ {ds : List Char} {n : Nat} (count : Nat), (∀ d ∈ ds, d.isDigit) →
      ds.foldl (fun n c => 10 * n + (c.toNat - 48)) n < bound →
      gather bound n count (ds ++ rest)
        = ((ds.foldl (fun n c => 10 * n + (c.toNat - 48)) n, count + ds.length), rest)
  | [], n, count, _, _ => ended.gather_eq bound n count
  | d :: ds, n, count, isDigit, below => by
    have first := isDigit d List.mem_cons_self
    have next : 10 * n + (d.toNat - 48) < bound :=
      Nat.lt_of_le_of_lt (le_foldl_digits ds _) below
    have more := gather_digits ended (count + 1)
      (fun e mem => isDigit e (List.mem_cons_of_mem _ mem)) below
    rw [List.cons_append, gather]
    simp only [first, next, decide_true, Bool.and_self, if_true]
    rw [more, List.foldl_cons, List.length_cons]
    congr 2
    omega

theorem run_digits {bound n : Nat} (ended : Ended rest) {ds : List Char}
    (isDigit : ∀ d ∈ ds, d.isDigit)
    (below : ds.foldl (fun n c => 10 * n + (c.toNat - 48)) n < bound) :
    (digits bound n).run (ds ++ rest)
      = pure ((ds.foldl (fun n c => 10 * n + (c.toNat - 48)) n, ds.length), rest) := by
  have gathered := gather_digits ended 0 isDigit below
  rw [Nat.zero_add] at gathered
  simp only [digits, StateT.run_bind, StateT.run_get, StateT.run_set, pure_bind, StateT.run_pure,
    gathered]

theorem run_firstDigit {d : Char} (isDigit : d.isDigit) (cs : List Char) :
    firstDigit.run (d :: cs) = pure (d.toNat - 48, cs) := by
  simp [firstDigit, isDigit]

theorem run_number {n : Nat} (small : n < Nat.pow 2 64) (ended : Ended rest) :
    (number false).run (Decimal.digits n ++ rest) = pure (.whole n, rest) := by
  obtain ⟨d, ds, written⟩ := List.exists_cons_of_ne_nil (Decimal.digits_ne_nil n)
  have isDigit : ∀ e ∈ d :: ds, e.isDigit := written ▸ Decimal.isDigit_of_mem_digits
  obtain ⟨first, others⟩ := List.forall_mem_cons.1 isDigit
  have value : ds.foldl (fun n c => 10 * n + (c.toNat - 48)) (d.toNat - 48) = n := by
    have value := Decimal.value_digits n
    rwa [written, Decimal.value, List.foldl_cons, Nat.mul_zero, Nat.zero_add] at value
  have lone : (d.toNat - 48 = 0 && (ds ++ rest).head?.any Char.isDigit) = false := by
    rw [Bool.and_eq_false_imp, decide_eq_true_eq]
    intro zero
    rw [Decimal.eq_nil_of_digits_zero written zero]
    exact ended.head?_isDigit
  have whole := run_digits ended others (value.symm ▸ small)
  have fits : n ≤ maxWhole false := Nat.le_sub_one_of_lt small
  rw [value] at whole
  rw [written]
  simp only [List.cons_append, number, StateT.run_bind, run_firstDigit first, pure_bind,
    StateT.run_get, lone, Bool.false_eq_true, if_false, whole, ended.run_passDigits,
    ended.run_accept_point, ended.run_startsExponent, fits, decide_true, Bool.false_and,
    Bool.not_false, Bool.and_self, if_true, StateT.run_pure]

theorem takes_word32 (n : UInt32) : Takes word32 (Writer.nat n.toNat) n := by
  have isDigit : ∀ d ∈ Decimal.digits n.toNat, d.isDigit := Decimal.isDigit_of_mem_digits
  obtain ⟨d, ds, written⟩ := List.exists_cons_of_ne_nil (Decimal.digits_ne_nil n.toNat)
  have first : d.isDigit := isDigit d (written ▸ List.mem_cons_self)
  have starts : startsValue d := by simp [startsValue, first]
  have oneLine : '\n' ∉ Decimal.digits n.toNat := fun mem =>
    absurd (isDigit '\n' mem) (by decide)
  refine ⟨⟨d, ds, written, starts⟩, oneLine, fun {rest} ended => ?_⟩
  have small : n.toNat < Nat.pow 2 64 := Nat.lt_trans n.toNat_lt (by decide)
  have read := run_number small ended
  have unsigned : '-' ≠ d := by
    rintro rfl
    exact absurd first (by decide)
  have inRange : (0 ≤ (n.toNat : Int) && (n.toNat : Int) < UInt32.size) = true := by
    rw [Bool.and_eq_true, decide_eq_true_eq, decide_eq_true_eq]
    exact ⟨Int.natCast_nonneg _, Int.ofNat_lt.2 n.toNat_lt_size⟩
  rw [written, List.cons_append] at read
  rw [Writer.nat, written, List.cons_append]
  simp only [word32, StateT.run_bind, run_token (isBlank_of_startsValue starts), pure_bind, first,
    Bool.or_true, if_true, run_accept_of_ne unsigned, read, inRange, StateT.run_pure,
    Int.toNat_natCast, UInt32.ofNat_toNat]

end Numbers

/-! ## Lists and objects -/

theorem separated_cons (first : List Char) :
    ∀ others : List (List Char),
      Writer.separated (first :: others) = first ++ others.flatMap (',' :: ·)
  | [] => by simp [Writer.separated]
  | second :: others => by
    rw [Writer.separated, separated_cons second others]
    · simp
    · simp

theorem Ended.flatMap {rest : List Char} (ended : Ended rest) :
    ∀ items : List (List Char), Ended (items.flatMap (',' :: ·) ++ rest)
  | [] => ended
  | _ :: _ => .item _

theorem newline_notMem_separated {items : List (List Char)} (h : ∀ item ∈ items, '\n' ∉ item) :
    '\n' ∉ Writer.separated items := by
  cases items with
  | nil => simp [Writer.separated]
  | cons first others =>
    rw [separated_cons, List.mem_append, List.mem_flatMap]
    rintro (here | ⟨item, mem, there⟩)
    · exact h first List.mem_cons_self here
    · have inside : '\n' ∈ item := by simpa using there
      exact h item (List.mem_cons_of_mem _ mem) inside

/-! ### Lists -/

/-- Written items, one after another, turn what was read so far into something else. -/
inductive ReadsItems (item : σ → Reader σ) : List (List Char) → σ → σ → Prop where
  | nil (s : σ) : ReadsItems item [] s s
  | cons {written : List Char} {others : List (List Char)} {s t u : σ}
      (takes : Takes (item s) written t) (more : ReadsItems item others t u) :
      ReadsItems item (written :: others) s u

section Items

variable {item : σ → Reader σ} {items : List (List Char)} {s t : σ}

theorem run_moreItems_end (first : Bool) (rest : List Char) :
    (moreItems first).run (']' :: rest) = pure (false, rest) := by
  have plain : isBlank ']' = false := rfl
  simp [moreItems, run_token plain, run_drop]

theorem ne_bracket_of_startsValue {c : Char} (starts : startsValue c) : c ≠ ']' := by
  rintro rfl
  exact absurd starts (by decide)

theorem run_moreItems_first {c : Char} (starts : startsValue c) (cs : List Char) :
    (moreItems true).run (c :: cs) = pure (true, c :: cs) := by
  simp [moreItems, run_token (isBlank_of_startsValue starts), ne_bracket_of_startsValue starts]

theorem run_moreItems_next {c : Char} (starts : startsValue c) (cs : List Char) :
    (moreItems false).run (',' :: c :: cs) = pure (true, c :: cs) := by
  have plain : isBlank ',' = false := rfl
  simp [moreItems, run_token plain, run_drop, run_token (isBlank_of_startsValue starts),
    ne_bracket_of_startsValue starts]

theorem ReadsItems.run_items (reads : ReadsItems item items s t) (rest : List Char) :
    ∀ {fuel : Nat}, items.length < fuel →
      (Reader.items item fuel false s).run (items.flatMap (',' :: ·) ++ ']' :: rest)
        = pure (t, rest) := by
  induction reads with
  | nil s =>
    rintro (_ | fuel) enough
    · exact absurd enough (Nat.not_lt_zero _)
    · simp [Reader.items, run_moreItems_end]
  | @cons written others s t u takes more ih =>
    rintro (_ | fuel) enough
    · exact absurd enough (Nat.not_lt_zero _)
    · obtain ⟨c, cs, rfl, starts⟩ := takes.starts
      have read := takes.run_eq ((Ended.list rest).flatMap others)
      have next := run_moreItems_next starts
        (cs ++ (others.flatMap (',' :: ·) ++ ']' :: rest))
      rw [List.cons_append] at read
      simp [Reader.items, next, read, ih (Nat.lt_of_succ_lt_succ enough)]

theorem ReadsItems.oneLine (reads : ReadsItems item items s t) :
    ∀ written ∈ items, '\n' ∉ written := by
  induction reads with
  | nil s => exact fun _ mem => nomatch mem
  | cons takes _ ih => exact List.forall_mem_cons.2 ⟨takes.oneLine, ih⟩

theorem length_lt_separated (first : List Char) (others : List (List Char)) (c : Char)
    (rest : List Char) :
    others.length < (Writer.separated (first :: others) ++ c :: rest).length := by
  have enough : others.length ≤ (others.flatMap (',' :: ·)).length :=
    length_le_flatMap (List.cons_ne_nil ',') others
  rw [separated_cons, List.length_append, List.length_append, List.length_cons]
  omega

/-- A list is read from what is written for its items. -/
theorem ReadsItems.takes_list (reads : ReadsItems item items s t) (wanted : String) :
    Takes (list wanted item s) (Writer.list items) t where
  starts := ⟨_, _, rfl, rfl⟩
  oneLine := by
    have inside := newline_notMem_separated reads.oneLine
    simp [Writer.list, inside]
  run_eq {rest} _ := by
    have plain : isBlank '[' = false := rfl
    rw [Writer.list, List.cons_append, List.append_assoc, List.singleton_append]
    simp only [list, StateT.run_bind, run_token plain, pure_bind, if_true, run_drop, List.drop_one,
      List.tail_cons, StateT.run_get]
    cases reads with
    | nil s => simp [Reader.items, Writer.separated, run_moreItems_end]
    | @cons written others _ t _ takes more =>
      obtain ⟨c, cs, rfl, starts⟩ := takes.starts
      have enough := length_lt_separated (c :: cs) others ']' rest
      have read := takes.run_eq ((Ended.list rest).flatMap others)
      rw [separated_cons, List.append_assoc] at enough ⊢
      rw [List.cons_append] at read enough ⊢
      simp only [Reader.items, StateT.run_bind, run_moreItems_first starts, pure_bind, if_true,
        read, more.run_items rest enough]

end Items

/-! ### Objects -/

/-- Written members, one after another, turn what was read so far into something else. -/
inductive ReadsMembers (member : String → σ → Reader σ) :
    List (String × List Char) → σ → σ → Prop where
  | nil (s : σ) : ReadsMembers member [] s s
  | cons {key : String} {written : List Char} {others : List (String × List Char)} {s t u : σ}
      (oneLine : '\n' ∉ written)
      (read : ∀ {rest}, Ended rest →
        (member key s).run (':' :: (written ++ rest)) = pure (t, rest))
      (more : ReadsMembers member others t u) :
      ReadsMembers member ((key, written) :: others) s u

section Members

variable {member : String → σ → Reader σ} {entries : List (String × List Char)} {s t : σ}

theorem run_moreMembers_end (first : Bool) (rest : List Char) :
    (moreMembers first).run ('\x7d' :: rest) = pure (false, rest) := by
  have plain : isBlank '\x7d' = false := rfl
  simp [moreMembers, run_token plain, run_drop]

theorem run_moreMembers_first (cs : List Char) :
    (moreMembers true).run ('"' :: cs) = pure (true, cs) := by
  have plain : isBlank '"' = false := rfl
  simp [moreMembers, run_token plain, run_accept_self]

theorem run_moreMembers_next (cs : List Char) :
    (moreMembers false).run (',' :: '"' :: cs) = pure (true, cs) := by
  have comma : isBlank ',' = false := rfl
  have quote : isBlank '"' = false := rfl
  simp [moreMembers, run_token comma, run_token quote, run_drop, run_accept_self]

theorem member_append (key : String) (written rest : List Char) :
    Writer.member key written ++ rest
      = '"' :: (key.toList.flatMap escapeChar ++ '"' :: ':' :: (written ++ rest)) := by
  simp [Writer.member, Writer.text]

theorem ReadsMembers.run_members (reads : ReadsMembers member entries s t) (rest : List Char) :
    ∀ {fuel : Nat}, entries.length < fuel →
      (members member fuel false s).run
          ((entries.map fun m => Writer.member m.1 m.2).flatMap (',' :: ·) ++ '\x7d' :: rest)
        = pure (t, rest) := by
  induction reads with
  | nil s =>
    rintro (_ | fuel) enough
    · exact absurd enough (Nat.not_lt_zero _)
    · simp [members, run_moreMembers_end]
  | @cons key written others s t u oneLine read more ih =>
    rintro (_ | fuel) enough
    · exact absurd enough (Nat.not_lt_zero _)
    · have read := read ((Ended.object rest).flatMap
        (others.map fun m => Writer.member m.1 m.2))
      rw [List.map_cons, List.flatMap_cons, List.append_assoc, List.cons_append, member_append]
      simp [members, run_moreMembers_next, run_quoted, read, ih (Nat.lt_of_succ_lt_succ enough)]

theorem ReadsMembers.oneLine (reads : ReadsMembers member entries s t) :
    '\n' ∉ Writer.object entries := by
  have inside : ∀ written ∈ entries.map fun m => Writer.member m.1 m.2, '\n' ∉ written := by
    induction reads with
    | nil s => exact fun _ mem => nomatch mem
    | @cons key _ _ _ _ _ oneLine _ _ ih =>
      have key := (takes_text "" key).oneLine
      refine List.forall_mem_cons.2 ⟨?_, ih⟩
      simp [Writer.member, key, oneLine]
  have joined := newline_notMem_separated inside
  simp [Writer.object, joined]

/-- An object is read from what is written for its members, after its bracket. -/
theorem ReadsMembers.run_object (reads : ReadsMembers member entries s t) (rest : List Char) :
    (do members member ((← get).length + 1) true s : Reader σ).run
        (Writer.separated (entries.map fun m => Writer.member m.1 m.2) ++ '\x7d' :: rest)
      = pure (t, rest) := by
  simp only [StateT.run_bind, StateT.run_get, pure_bind]
  cases reads with
  | nil s => simp [members, Writer.separated, run_moreMembers_end]
  | @cons key written others _ t _ _ read more =>
    have enough := length_lt_separated (Writer.member key written)
      (others.map fun m => Writer.member m.1 m.2) '\x7d' rest
    have read := read ((Ended.object rest).flatMap (others.map fun m => Writer.member m.1 m.2))
    rw [List.length_map] at enough
    rw [List.map_cons, members]
    -- The fuel is only a number from here on.
    generalize (Writer.separated _ ++ _).length = fuel at enough ⊢
    rw [separated_cons, List.append_assoc, member_append]
    simp [run_moreMembers_first, run_quoted, read, more.run_members rest enough]

theorem ReadsMembers.takes_object (reads : ReadsMembers member entries s t) (wanted : String) :
    Takes (object wanted member s) (Writer.object entries) t where
  starts := ⟨_, _, rfl, rfl⟩
  oneLine := reads.oneLine
  run_eq {rest} _ := by
    have plain : isBlank '\x7b' = false := rfl
    rw [Writer.object, List.cons_append, List.append_assoc, List.singleton_append]
    simp only [object, StateT.run_bind, run_token plain, pure_bind, if_true, run_drop,
      List.drop_one, List.tail_cons, ← reads.run_object rest]

end Members

end Json.Reader

end TextAdventure
