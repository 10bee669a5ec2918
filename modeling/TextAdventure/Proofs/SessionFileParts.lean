import TextAdventure.Proofs.Scanning
import TextAdventure.SessionFile.Reader
import TextAdventure.SessionFile.Writer

/-!
# The parts of session files

What is written between quotes is read character by character, each as it is or by its escape
(`Reader.escapeChar_cases`, `Reader.run_text`). The entries of a block stand in rows. How one entry
turns the value read so far into the next one is a relation along the list of entries
(`Reader.Reads`); from it follows what is read of the whole block between its brackets, whatever
blanks it was written with (`Reader.run_items`, `Reader.run_block`). Sets and flags are blocks that
are read by inserting one entry after another (`Reader.run_idSet`, `Reader.run_flags`).
-/

namespace TextAdventure.SessionFile.Reader

open Text (Scanner)
open Text.Scanner

/-! ## Texts -/

theorem toNat_lt (c : Char) : c.toNat < 0x110000 := by
  rcases c.valid with h | ⟨-, h⟩
  · exact Nat.lt_trans h (by decide)
  · exact h

theorem takeWhile_digits (c : Char) (rest : List Char) :
    ((Text.Hexadecimal.digits c.toNat ++ '\x7d' :: rest).take 6).takeWhile
        (fun x => !decide (x = '\x7d'))
      = Text.Hexadecimal.digits c.toNat := by
  have short : (Text.Hexadecimal.digits c.toNat).length ≤ 5 + 1 :=
    Text.Hexadecimal.length_digits_le (Nat.lt_trans (toNat_lt c) (by decide))
  have inside : ∀ x ∈ Text.Hexadecimal.digits c.toNat, !decide (x = '\x7d') := by
    intro x mem
    simpa using fun eq : x = '\x7d' => Text.Hexadecimal.brace_notMem_digits _ (eq ▸ mem)
  rw [List.take_append, List.take_of_length_le short, List.takeWhile_append_of_pos inside]
  cases 6 - (Text.Hexadecimal.digits c.toNat).length <;> simp

theorem run_codedChar (c : Char) (rest : List Char) :
    codedChar.run ('\x7b' :: (Text.Hexadecimal.digits c.toNat ++ '\x7d' :: rest))
      = some (c, rest) := by
  simp only [codedChar, StateT.run_bind, StateT.run_get, Option.pure_def, Option.bind_eq_bind,
    Option.bind_some, ne_eq, decide_not, run_expect, run_drop, takeWhile_digits, List.drop_left',
    List.isEmpty_iff, Text.Hexadecimal.digits_ne_nil, if_false, Text.Hexadecimal.number?_digits,
    run_charOf]

/-- A character within quotes is written as it is, or as a backslash and what it is read from. -/
theorem escapeChar_cases (afterX : Scanner Char) (c : Char) :
    (Text.escapeChar ['"', '\''] c = [c] ∧ c ≠ '"' ∧ c ≠ '\\') ∨
      ∃ code, Text.escapeChar ['"', '\''] c = '\\' :: code ∧
        ∀ rest, (escaped afterX).run (code ++ rest) = some (c, rest) := by
  unfold Text.escapeChar
  split
  · next h => exact .inr ⟨_, rfl, fun rest => by simp [escaped, run_next, h]⟩
  · split
    · next h => exact .inr ⟨_, rfl, fun rest => by simp [escaped, run_next, h]⟩
    · split
      · next h => exact .inr ⟨_, rfl, fun rest => by simp [escaped, run_next, h]⟩
      · split
        · next h => exact .inr ⟨_, rfl, fun rest => by simp [escaped, run_next, h]⟩
        · split
          · next h =>
            refine .inr ⟨_, rfl, fun rest => ?_⟩
            simp only [List.contains_cons, List.contains_nil, Bool.or_false, Bool.or_eq_true,
              decide_eq_true_eq, beq_iff_eq] at h
            rcases h with rfl | rfl | rfl <;> simp [escaped, run_next]
          · next h =>
            split
            · exact .inr ⟨_, rfl, fun rest => by simp [escaped, run_next, run_codedChar]⟩
            · exact .inl ⟨rfl, by rintro rfl; simp at h, by rintro rfl; simp at h⟩

theorem run_quoted_cons (afterX : Scanner Char) (fuel : Nat) (c : Char) (rest : List Char) :
    (quoted afterX (fuel + 1)).run (Text.escapeChar ['"', '\''] c ++ rest)
      = ((quoted afterX fuel).run rest).map fun p => (c :: p.1, p.2) := by
  rcases escapeChar_cases afterX c with ⟨eq, notQuote, notBackslash⟩ | ⟨code, eq, reads⟩
  · rw [eq, quoted]
    simp [run_next]
  · rw [eq, quoted]
    simp [run_next, reads]

theorem run_quoted (afterX : Scanner Char) (rest : List Char) :
    ∀ {cs : List Char} {fuel : Nat}, cs.length < fuel →
      (quoted afterX fuel).run (cs.flatMap (Text.escapeChar ['"', '\'']) ++ '"' :: rest)
        = some (cs, rest)
  | [], fuel + 1, _ => by simp [quoted, run_next]
  | c :: cs, fuel + 1, h => by
    rw [List.flatMap_cons, List.append_assoc, run_quoted_cons,
      run_quoted afterX rest (Nat.lt_of_succ_lt_succ h)]
    rfl

theorem length_le_flatMap_escapeChar (quotes : List Char) :
    ∀ cs : List Char, cs.length ≤ (cs.flatMap (Text.escapeChar quotes)).length
  | [] => Nat.le_refl 0
  | c :: cs => by
    have pos : 1 ≤ (Text.escapeChar quotes c).length := by
      unfold Text.escapeChar
      repeat' split
      all_goals simp
    have rest := length_le_flatMap_escapeChar quotes cs
    rw [List.flatMap_cons, List.length_append, List.length_cons]
    omega

theorem run_literal {afterX : Scanner Char} {body value rest : List Char}
    (reads : (quoted afterX (body.length + 1)).run body = some (value, rest)) :
    (literal afterX).run ('"' :: body) = some (String.ofList value, rest) := by
  simp [literal, run_accept_self, reads]

theorem toList_text (t : String) :
    (Writer.text t).toList = '"' :: (t.toList.flatMap (Text.escapeChar ['"', '\'']) ++ ['"']) := by
  simp [Writer.text, Text.quote]

theorem run_text (t : String) (rest : List Char) :
    text.run ((Writer.text t).toList ++ rest) = some (t, rest) := by
  rw [toList_text, List.cons_append, List.append_assoc, List.singleton_append]
  have enough := length_le_flatMap_escapeChar ['"', '\''] t.toList
  rw [text, run_literal (run_quoted encodedChar rest ?_), String.ofList_toList]
  rw [List.length_append]
  omega

/-! ## Blanks -/

/-- Whether a text goes on with a token: neither with a blank nor with a comment. -/
def startsToken : List Char → Bool
  | [] => false
  | c :: _ => !isSpace c && c ≠ '/'

theorem run_space (text : List Char) :
    space.run text = (passGap .open text).map fun rest => ((), rest) := by
  cases h : passGap .open text <;> simp [space, h]

theorem run_space_of_startsToken {text : List Char} (h : startsToken text) :
    space.run text = some ((), text) := by
  match text, h with
  | c :: cs, h =>
    obtain ⟨notBlank, notSlash⟩ : isSpace c = false ∧ c ≠ '/' := by simpa [startsToken] using h
    simp [run_space, passGap, notBlank, notSlash]

theorem run_space_cons {c : Char} (blank : isSpace c) (text : List Char) :
    space.run (c :: text) = space.run text := by
  have notSlash : c ≠ '/' := by
    rintro rfl
    exact absurd blank (by decide)
  simp [run_space, passGap, blank, notSlash]

theorem run_space_append {blanks : List Char} (h : ∀ c ∈ blanks, isSpace c) (text : List Char) :
    space.run (blanks ++ text) = space.run text := by
  induction blanks with
  | nil => rfl
  | cons c blanks ih =>
    rw [List.cons_append, run_space_cons (h c List.mem_cons_self),
      ih fun c mem => h c (List.mem_cons_of_mem _ mem)]

theorem isSpace_of_mem_indent {depth : Nat} : ∀ c ∈ (Writer.indent depth).toList, isSpace c := by
  intro c mem
  rw [Writer.indent, String.toList_ofList] at mem
  rw [List.eq_of_mem_replicate mem]
  decide

theorem run_comma {text after : List Char} (h : space.run text = some ((), after)) :
    comma.run (',' :: text) = some (true, after) := by
  have here : space.run (',' :: text) = some ((), ',' :: text) := run_space_of_startsToken rfl
  simp [comma, here, run_accept_self, h]

theorem run_colon {text : List Char} (h : startsToken text) :
    colon.run (':' :: ' ' :: text) = some ((), text) := by
  have here : space.run (':' :: ' ' :: text) = some ((), ':' :: ' ' :: text) :=
    run_space_of_startsToken rfl
  have next : space.run (' ' :: text) = some ((), text) :=
    (run_space_cons rfl text).trans (run_space_of_startsToken h)
  simp [colon, here, run_expect, next]

/-! ## Rows of entries -/

/-- Reading entries one after another, each up to the comma after it, turns one value into
another. -/
inductive Reads {α : Type} (closing : Char) (item : α → Scanner α) : List String → α → α → Prop
  | nil (a : α) : Reads closing item [] a a
  | cons {entry : String} {entries : List String} {a b c : α} (token : startsToken entry.toList)
      (goesOn : entry.toList.head? ≠ some closing)
      (reads : ∀ rest, (item a).run (entry.toList ++ ',' :: rest) = some (b, ',' :: rest))
      (more : Reads closing item entries b c) : Reads closing item (entry :: entries) a c

/-- Entries that stand for the elements of a list are read by folding it. -/
theorem reads_foldl {α ε : Type} {closing : Char} {item : α → Scanner α} {written : ε → String}
    {step : α → ε → α} (token : ∀ e, startsToken (written e).toList)
    (goesOn : ∀ e, (written e).toList.head? ≠ some closing)
    (reads : ∀ a e rest, (item a).run ((written e).toList ++ ',' :: rest)
      = some (step a e, ',' :: rest)) :
    ∀ (list : List ε) (a : α), Reads closing item (list.map written) a (list.foldl step a)
  | [], a => .nil a
  | e :: list, a =>
    .cons (token e) (goesOn e) (reads a e) (reads_foldl token goesOn reads list (step a e))

/-- Entries as they are written one on a line, with what follows them. -/
def rows (depth : Nat) (ending : List Char) : List String → List Char
  | [] => (Writer.indent depth).toList ++ ending
  | entry :: entries =>
    (Writer.indent (depth + 1)).toList ++ (entry.toList ++ ',' :: '\n' :: rows depth ending entries)

theorem toList_block {opening closing : String} {depth : Nat} {entries : List String}
    (h : entries ≠ []) (rest : List Char) :
    (Writer.block opening closing depth entries).toList ++ rest
      = opening.toList ++ '\n' :: rows depth (closing.toList ++ rest) entries := by
  have row (entries : List String) : (String.join (entries.map fun entry =>
      Writer.indent (depth + 1) ++ entry ++ ",\n")).toList ++
        ((Writer.indent depth).toList ++ (closing.toList ++ rest))
      = rows depth (closing.toList ++ rest) entries := by
    induction entries with
    | nil => simp [rows]
    | cons entry entries ih => simp [rows, ← ih]
  rw [Writer.block, if_neg (by simpa using h), ← row]
  simp

theorem startsToken_append {text : List Char} (h : startsToken text) (rest : List Char) :
    startsToken (text ++ rest) := by
  match text, h with
  | _ :: _, h => exact h

theorem head?_append {text : List Char} (h : startsToken text) (rest : List Char) :
    (text ++ rest).head? = text.head? := by
  match text, h with
  | _ :: _, _ => rfl

theorem length_le_rows (depth : Nat) (ending : List Char) :
    ∀ entries : List String, entries.length ≤ (rows depth ending entries).length
  | [] => Nat.zero_le _
  | entry :: entries => by
    have rest := length_le_rows depth ending entries
    simp only [rows, List.length_append, List.length_cons]
    omega

theorem run_space_rows_nil {ending : List Char} (token : startsToken ending) (depth : Nat) :
    space.run (rows depth ending []) = some ((), ending) := by
  rw [rows, run_space_append isSpace_of_mem_indent, run_space_of_startsToken token]

theorem run_space_rows_cons {entry : String} (token : startsToken entry.toList) (depth : Nat)
    (ending : List Char) (entries : List String) :
    space.run (rows depth ending (entry :: entries))
      = some ((), entry.toList ++ ',' :: '\n' :: rows depth ending entries) := by
  rw [rows, run_space_append isSpace_of_mem_indent,
    run_space_of_startsToken (startsToken_append token _)]

section Items

variable {α : Type} {closing : Char} {item : α → Scanner α} {entries : List String} {a b : α}

/-- Passing over the blanks in front of rows leads to a token. -/
theorem exists_run_space_rows (h : Reads closing item entries a b) (depth : Nat)
    {ending : List Char} (token : startsToken ending) :
    ∃ text, space.run (rows depth ending entries) = some ((), text) ∧ startsToken text := by
  cases h with
  | nil => exact ⟨_, run_space_rows_nil token depth, token⟩
  | cons first => exact ⟨_, run_space_rows_cons first depth ending _, startsToken_append first _⟩

theorem run_items_of_space {fuel : Nat} {separated : Bool} {text after : List Char}
    (h : space.run text = some ((), after)) (token : startsToken after) :
    (items closing item fuel separated a).run text
      = (items closing item fuel separated a).run after := by
  cases fuel with
  | zero => rfl
  | succ fuel => rw [items, StateT.run_bind, StateT.run_bind, h, run_space_of_startsToken token]

theorem run_items_closing {rest : List Char} (token : startsToken (closing :: rest)) (fuel : Nat)
    (separated : Bool) :
    (items closing item (fuel + 1) separated a).run (closing :: rest) = some (a, rest) := by
  rw [items, StateT.run_bind, run_space_of_startsToken token]
  simp [run_drop]

theorem run_items_cons {fuel : Nat} {text next after : List Char} (token : startsToken text)
    (goesOn : text.head? ≠ some closing) (reads : (item a).run text = some (b, next))
    (separates : comma.run next = some (true, after)) :
    (items closing item (fuel + 1) true a).run text
      = (items closing item fuel true b).run after := by
  rw [items, StateT.run_bind, run_space_of_startsToken token]
  simp [goesOn, reads, separates]

theorem run_items (h : Reads closing item entries a b) (depth : Nat) {rest : List Char}
    (token : startsToken (closing :: rest)) {fuel : Nat} (enough : entries.length < fuel) :
    (items closing item fuel true a).run (rows depth (closing :: rest) entries)
      = some (b, rest) := by
  induction h generalizing fuel with
  | nil a =>
    obtain ⟨fuel, rfl⟩ := Nat.exists_eq_add_of_lt enough
    rw [run_items_of_space (run_space_rows_nil token depth) token]
    exact run_items_closing token _ true
  | @cons entry entries a b c first goesOn reads more ih =>
    obtain ⟨fuel, rfl⟩ : ∃ n, fuel = n + 1 := ⟨fuel - 1, by omega⟩
    obtain ⟨text, blanks, token'⟩ := exists_run_space_rows more depth token
    have separates : comma.run (',' :: '\n' :: rows depth (closing :: rest) entries)
        = some (true, text) := run_comma ((run_space_cons rfl _).trans blanks)
    have here := startsToken_append first (',' :: '\n' :: rows depth (closing :: rest) entries)
    rw [← head?_append first] at goesOn
    -- The blanks after an entry are passed over with its comma, not with the next entry.
    rw [run_items_of_space (run_space_rows_cons first depth _ _) here,
      run_items_cons here goesOn (reads _) separates, ← run_items_of_space blanks token']
    exact ih (Nat.lt_of_succ_lt_succ enough)

theorem run_expect_bind {β : Type} (c : Char) (f : Unit → Scanner β) (rest : List Char) :
    (expect c >>= f).run (c :: rest) = (f ()).run rest := by
  simp [run_expect]

theorem run_itemsTo (text : List Char) :
    (itemsTo closing item a).run text
      = (items closing item (text.length + 1) true a).run text := by
  simp [itemsTo]

/-- Entries between brackets are read one after another. -/
theorem run_block {opening : Char} {before after : String} (h : Reads closing item entries a b)
    (opens : before.toList = [opening]) (closes : after.toList = [closing])
    (token : startsToken [closing]) (depth : Nat) (rest : List Char) :
    (expect opening >>= fun _ => itemsTo closing item a).run
        ((Writer.block before after depth entries).toList ++ rest) = some (b, rest) := by
  have token : startsToken (closing :: rest) := token
  by_cases none : entries = []
  · subst none
    cases h
    have written : (Writer.block before after depth []).toList ++ rest
        = opening :: closing :: rest := by simp [Writer.block, opens, closes]
    rw [written, run_expect_bind, run_itemsTo]
    exact run_items_closing token _ true
  · obtain ⟨text, blanks, token'⟩ := exists_run_space_rows h depth token
    have enough := length_le_rows depth (closing :: rest) entries
    have newline : isSpace '\n' := by decide
    rw [toList_block none, opens, closes, List.singleton_append, List.singleton_append,
      run_expect_bind, run_itemsTo,
      run_items_of_space ((run_space_cons newline _).trans blanks) token',
      ← run_items_of_space blanks token']
    exact run_items h depth token (by rw [List.length_cons]; omega)

end Items

/-! ## Values -/

theorem startsToken_text (t : String) : startsToken (Writer.text t).toList := by
  rw [toList_text]
  rfl

theorem head?_text (t : String) : (Writer.text t).toList.head? = some '"' := by
  rw [toList_text]
  rfl

theorem run_idSet (ids : IdSet) (rest : List Char) :
    idSet.run ((Writer.set ids).toList ++ rest) = some (ids, rest) := by
  have reads : Reads ']' (fun ids => return ids.insert (← text)) (ids.toList.map Writer.text) ∅
      (IdSet.ofList ids.toList) := by
    refine reads_foldl startsToken_text (fun id => ?_) (fun ids id rest => ?_) ids.toList ∅
    · simp [head?_text]
    · simp [run_text]
  rw [ids.ofList_toList] at reads
  exact run_block reads rfl rfl rfl 1 rest

theorem run_flags (fs : Flags) (rest : List Char) :
    flags.run ((Writer.map fs).toList ++ rest) = some (fs, rest) := by
  have token (key : String) (text : List Char) : startsToken ((Writer.text key).toList ++ text) :=
    startsToken_append (startsToken_text key) text
  have reads : Reads '\x7d' (fun flags => do
      let key ← text
      colon
      return flags.insert key (← text)) (fs.toList.map fun e => Writer.text e.1 ++ ": " ++
        Writer.text e.2) ∅ (Dictionary.ofList fs.toList) := by
    refine reads_foldl (fun e => ?_) (fun e => ?_) (fun flags e rest => ?_) fs.toList ∅
    · simp [token]
    · simp [head?_append (startsToken_text e.1), head?_text]
    · simp [run_text, run_colon (token e.2 _)]
  rw [fs.ofList_toList] at reads
  exact run_block reads rfl rfl rfl 1 rest

end TextAdventure.SessionFile.Reader
