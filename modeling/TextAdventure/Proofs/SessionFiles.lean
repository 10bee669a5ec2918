import TextAdventure.Proofs.SessionFileParts

/-!
# Session files

A session is read from the file that it was written to (`read?_write`). Each of its values is taken
from the front of what was written for it, up to the comma after it (`Reader.Takes`): texts, sets
and flags by the lemmas on parts, counts digit by digit (`Reader.run_integer`), and texts that may
be missing within the brackets of `Some`. The value of a field goes into the fields read before
(`Reader.IsField`, `Reader.Takes.reads_cons`), so that the written fields are read one after another
into those of the session (`Reader.reads_fields`).
-/

namespace TextAdventure.SessionFile

namespace Reader

open Text (Scanner)
open Text.Scanner

/-! ## Letters and names -/

theorem toNat_of_isAlpha {c : Char} (h : c.isAlpha) :
    65 ≤ c.toNat ∧ c.toNat ≤ 90 ∨ 97 ≤ c.toNat ∧ c.toNat ≤ 122 := by
  rcases (Bool.or_eq_true _ _).mp h with upper | lower
  · exact .inl (of_decide_eq_true upper)
  · obtain ⟨low, high⟩ := (Bool.and_eq_true _ _).mp lower
    exact .inr ⟨of_decide_eq_true low, of_decide_eq_true high⟩

theorem startsToken_of_isAlphanum {c : Char} (h : c.isAlphanum) (cs : List Char) :
    startsToken (c :: cs) := by
  have range : (65 ≤ c.toNat ∧ c.toNat ≤ 90 ∨ 97 ≤ c.toNat ∧ c.toNat ≤ 122) ∨
      48 ≤ c.toNat ∧ c.toNat ≤ 57 := by
    rcases (Bool.or_eq_true _ _).mp h with letter | digit
    · exact .inl (toNat_of_isAlpha letter)
    · exact .inr (Char.isDigit_iff_toNat.1 digit)
  have notSlash : c ≠ '/' := by
    rintro rfl
    exact absurd h (by decide)
  simp [startsToken, isSpace, notSlash]
  omega

theorem startsName_of_isAlpha {c : Char} (h : c.isAlpha) : Text.startsName c := by
  have range := toNat_of_isAlpha h
  have ascii : c.toNat < 0x80 := by omega
  simp [Text.startsName, ascii, h]

theorem run_acceptName (key : String) {c : Char} (ends : Text.continuesName c = false)
    (rest : List Char) :
    (acceptName key).run (key.toList ++ c :: rest) = some (true, c :: rest) := by
  simp [acceptName, run_startsWith, ends, ← String.length_toList]

theorem run_acceptName_of_not {name : String} {text : List Char} (h : ¬ name.toList <+: text) :
    (acceptName name).run text = some (false, text) := by
  simp [acceptName, run_startsWith, h]

/-! ## Counts -/

theorem toNat_sub_lt {c : Char} (h : c.isDigit) : c.toNat - 48 < 10 := by
  have range := Char.isDigit_iff_toNat.1 h
  simp at range
  omega

theorem isIntegerChar_of_isDigit {c : Char} (h : c.isDigit) : isIntegerChar c := by
  simp [isIntegerChar, Text.Hexadecimal.value?_of_isDigit h]

theorem run_typeName {type : IntegerType} (mem : type ∈ integerTypes) (rest : List Char) :
    (acceptName type.name).run (',' :: rest) = some (false, ',' :: rest) := by
  refine run_acceptName_of_not ?_
  simp only [integerTypes, List.mem_cons, List.not_mem_nil, or_false] at mem
  rcases mem with rfl | rfl | rfl | rfl | rfl | rfl | rfl | rfl <;> simp [signed, unsigned]

section Count

variable {ds : List Char} (digits : ∀ d ∈ ds, d.isDigit) (nonempty : ds ≠ []) (rest : List Char)

include digits nonempty

theorem run_accept_digits {c : Char} (noDigit : c.isDigit = false) :
    (accept c).run (ds ++ ',' :: rest) = some (false, ds ++ ',' :: rest) := by
  obtain ⟨d, ds, rfl⟩ := List.exists_cons_of_ne_nil nonempty
  refine run_accept_of_ne ?_ _
  rintro rfl
  simp [digits c List.mem_cons_self] at noDigit

/-- Digits do not begin with the mark of another base. -/
theorem run_acceptText_digits {mark : String} {a b : Char} (eq : mark.toList = [a, b])
    (noDigit : b.isDigit = false) (noComma : b ≠ ',') :
    (acceptText mark).run (ds ++ ',' :: rest) = some (false, ds ++ ',' :: rest) := by
  refine run_acceptText_of_not ?_
  obtain ⟨d, ds, rfl⟩ := List.exists_cons_of_ne_nil nonempty
  cases ds with
  | nil => simp [eq, noComma]
  | cons e ds =>
    have ne : b ≠ e := by
      rintro rfl
      simp [digits b (by simp)] at noDigit
    simp [eq, ne]

theorem run_magnitude :
    magnitude.run (ds ++ ',' :: rest) = some (Nat.ofDigitChars 10 ds 0, ',' :: rest) := by
  have unmarked {mark : String} {a b : Char} (eq : mark.toList = [a, b]) :=
    run_acceptText_digits digits nonempty rest eq
  have taken : (takeWhile isIntegerChar).run (ds ++ ',' :: rest) = some (ds, ',' :: rest) :=
    run_takeWhile rest (fun d mem => isIntegerChar_of_isDigit (digits d mem)) (by decide)
  have notLow : ∀ d ∈ ds, d ≠ '_' := by
    rintro d mem rfl
    exact absurd (digits _ mem) (by decide)
  have first : ds.head? ≠ some '_' := fun eq => notLow _ (List.mem_of_head? eq) rfl
  have binary : (acceptText "0b").run (ds ++ ',' :: rest) = _ := unmarked rfl rfl (by decide)
  have octal : (acceptText "0o").run (ds ++ ',' :: rest) = _ := unmarked rfl rfl (by decide)
  have hexadecimal : (acceptText "0x").run (ds ++ ',' :: rest) = _ := unmarked rfl rfl (by decide)
  simp [magnitude, binary, octal, hexadecimal, taken, nonempty, first]
  rw [run_forIn_yield (g := fun sofar d => 10 * sofar + (d.toNat - 48))]
  · rfl
  · intro d mem value
    have small := toNat_sub_lt (digits d mem)
    simp [notLow d mem, Text.Hexadecimal.value?_of_isDigit (digits d mem), Nat.not_le.2 small]

theorem run_integer (small : Nat.ofDigitChars 10 ds 0 < 2 ^ 64) :
    integer.run (ds ++ ',' :: rest)
      = some (((Nat.ofDigitChars 10 ds 0 : Int), none), ',' :: rest) := by
  have minus := run_accept_digits digits nonempty rest (c := '-') rfl
  have plus : (discard (accept '+')).run (ds ++ ',' :: rest) = some ((), ds ++ ',' :: rest) := by
    rw [run_discard, run_accept_digits digits nonempty rest rfl]
    rfl
  have after : (ds ++ ',' :: rest).dropWhile isIntegerChar = ',' :: rest := by
    rw [List.dropWhile_append_of_pos fun d mem => isIntegerChar_of_isDigit (digits d mem)]
    rfl
  have least : Int.pow 2 63 = 9223372036854775808 := by decide
  have greatest : Int.pow 2 64 = 18446744073709551616 := by decide
  have unchanged (types : List IntegerType) :
      types.foldl (fun sofar _ => sofar) (none : Option IntegerType) = none := by
    induction types with
    | nil => rfl
    | cons _ _ ih => exact ih
  simp [integer, minus, plus, after]
  rw [run_forIn_yield (g := fun sofar _ => sofar)]
  · simp [run_magnitude digits nonempty, unchanged]
    split
    · omega
    · rfl
  · intro type mem sofar
    simp [run_typeName mem]

end Count

theorem isDigit_of_mem_toDigits (n : UInt32) : ∀ d ∈ Nat.toDigits 10 n.toNat, d.isDigit :=
  fun _ mem => Nat.isDigit_of_mem_toDigits (by decide) (by decide) mem

theorem run_count (n : UInt32) (rest : List Char) :
    count.run ((toString n.toNat).toList ++ ',' :: rest) = some (n, ',' :: rest) := by
  have value := Nat.ofDigitChars_ten_toDigits (n := n.toNat)
  have small := n.toNat_lt
  have inRange : (0 ≤ (n.toNat : Int) && (n.toNat : Int) < UInt32.size) = true := by
    rw [Bool.and_eq_true, decide_eq_true_eq, decide_eq_true_eq]
    exact ⟨Int.natCast_nonneg _, Int.ofNat_lt.2 n.toNat_lt_size⟩
  have read := run_integer (isDigit_of_mem_toDigits n) Nat.toDigits_ne_nil rest (by omega)
  rw [value] at read
  rw [Nat.toString_eq_ofList_toDigits, String.toList_ofList, count, StateT.run_bind, read,
    Option.bind_eq_bind, Option.bind_some]
  -- `simp` would count up to the bound.
  dsimp only
  rw [if_pos inRange]
  simp

/-! ## Optional texts -/

theorem run_optional (ext : Extensions) (t : String) (rest : List Char) :
    (optional ext).run (("Some(" ++ Writer.text t ++ ")").toList ++ ',' :: rest)
      = some (some t, ',' :: rest) := by
  have bracket : Text.continuesName '(' = false := by decide
  have written : ("Some(" ++ Writer.text t ++ ")").toList ++ ',' :: rest
      = "Some".toList ++ '(' :: ((Writer.text t).toList ++ ')' :: ',' :: rest) := by simp
  have notNone : ¬ "None".toList <+:
      "Some".toList ++ '(' :: ((Writer.text t).toList ++ ')' :: ',' :: rest) := by simp
  have none := run_acceptName_of_not notNone
  have taken := run_acceptName "Some" bracket
    ((Writer.text t).toList ++ ')' :: ',' :: rest)
  have opens : space.run ('(' :: ((Writer.text t).toList ++ ')' :: ',' :: rest))
      = some ((), '(' :: ((Writer.text t).toList ++ ')' :: ',' :: rest)) :=
    run_space_of_startsToken rfl
  have inner : space.run ((Writer.text t).toList ++ ')' :: ',' :: rest)
      = some ((), (Writer.text t).toList ++ ')' :: ',' :: rest) :=
    run_space_of_startsToken (startsToken_append (startsToken_text t) _)
  have closes : space.run (')' :: ',' :: rest) = some ((), ')' :: ',' :: rest) :=
    run_space_of_startsToken rfl
  have noComma : comma.run (')' :: ',' :: rest) = some (false, ')' :: ',' :: rest) := by
    simp [comma, closes, run_accept_of_ne]
  rw [written]
  generalize "Some".toList ++ '(' :: ((Writer.text t).toList ++ ')' :: ',' :: rest) = whole
    at none taken ⊢
  simp [optional, none, taken, opens, run_accept_self, inner, run_text, run_discard, noComma,
    run_expect]

/-! ## Fields -/

/-- Whether characters are letters that make a name, and no beginning of a literal text. -/
def isPlainName : List Char → Bool
  | c :: d :: cs => c ≠ 'b' && (c :: d :: cs).all Char.isAlpha
  | _ => false

theorem run_name {key : String} (plain : isPlainName key.toList) (rest : List Char) :
    name.run (key.toList ++ ':' :: rest) = some (key, ':' :: rest) := by
  match eq : key.toList, plain with
  | c :: d :: cs, plain =>
    obtain ⟨notBytes, letters⟩ : c ≠ 'b' ∧ ∀ x ∈ c :: d :: cs, x.isAlpha := by
      simpa [isPlainName] using plain
    have starts := startsName_of_isAlpha (letters c (by simp))
    have continues : ∀ x ∈ c :: d :: cs, Text.continuesName x := fun x mem => by
      simp [Text.continuesName, startsName_of_isAlpha (letters x mem)]
    have notQuote : '"' ≠ d := by
      rintro rfl
      exact absurd (letters '"' (by simp)) (by decide)
    have notSign : '#' ≠ d := by
      rintro rfl
      exact absurd (letters '#' (by simp)) (by decide)
    have colon : isRawNameChar ':' = false := by decide
    have taken : (takeWhile Text.continuesName).run (c :: d :: (cs ++ ':' :: rest))
        = some (c :: d :: cs, ':' :: rest) := run_takeWhile rest continues (by decide)
    have back : String.ofList (c :: d :: cs) = key := by rw [← eq, String.ofList_toList]
    simp [name, name?, startsLiteral, run_startsWith, Ne.symm notBytes, notQuote, notSign, starts,
      taken, colon, back]

/-- A scanner takes a text as a value, up to the comma after it. -/
structure Takes {α : Type} (value : Scanner α) (written : String) (a : α) : Prop where
  token : startsToken written.toList
  run_eq : ∀ rest, value.run (written.toList ++ ',' :: rest) = some (a, ',' :: rest)

theorem takes_text (t : String) : Takes text (Writer.text t) t :=
  ⟨startsToken_text t, fun _ => run_text t _⟩

theorem startsToken_block {opening : Char} {before after : String}
    (opens : before.toList = [opening]) (token : startsToken [opening]) (depth : Nat)
    (entries : List String) : startsToken (Writer.block before after depth entries).toList := by
  have token (rest : List Char) : startsToken (opening :: rest) := startsToken_append token rest
  rw [Writer.block]
  split <;> simp [opens, token]

theorem takes_idSet (ids : IdSet) : Takes idSet (Writer.set ids) ids :=
  ⟨startsToken_block rfl rfl 1 _, fun _ => run_idSet ids _⟩

theorem takes_flags (fs : Flags) : Takes flags (Writer.map fs) fs :=
  ⟨startsToken_block rfl rfl 1 _, fun _ => run_flags fs _⟩

theorem takes_count (n : UInt32) : Takes count (toString n.toNat) n := by
  refine ⟨?_, run_count n⟩
  rw [Nat.toString_eq_ofList_toDigits, String.toList_ofList]
  match eq : Nat.toDigits 10 n.toNat with
  | [] => exact absurd eq Nat.toDigits_ne_nil
  | d :: ds =>
    have digit : d.isDigit := isDigit_of_mem_toDigits n d (by simp [eq])
    exact startsToken_of_isAlphanum (by simp [Char.isAlphanum, digit]) ds

theorem takes_optional (ext : Extensions) (t : String) :
    Takes (optional ext) ("Some(" ++ Writer.text t ++ ")") (some t) := by
  refine ⟨?_, run_optional ext t⟩
  simp only [String.toList_append, List.append_assoc]
  exact startsToken_of_isAlphanum (by decide : 'S'.isAlphanum) _

theorem run_once {α : Type} {value : Scanner α} {written : String} {a : α}
    (takes : Takes value written a) (rest : List Char) :
    (once none value).run (':' :: ' ' :: (written.toList ++ ',' :: rest))
      = some (some a, ',' :: rest) := by
  simp [once, run_colon (startsToken_append takes.token _), takes.run_eq]

/-- The field of a name has a value that is read by a scanner. -/
structure IsField {α : Type} (ext : Extensions) (key : String) (get : Fields → Option α)
    (set : Fields → Option α → Fields) (value : Scanner α) : Prop where
  plain : isPlainName key.toList
  run_eq : ∀ f text, (field ext f).run (key.toList ++ ':' :: text)
    = ((once (get f) value).run (':' :: text)).map fun p => (set f p.1, p.2)

section Fields

variable {ext : Extensions} {f g : Fields} {entries : List String}

/-- A field that is new is read in front of others. -/
theorem Takes.reads_cons {α : Type} {value : Scanner α} {written start : String} {a : α}
    (takes : Takes value written a) (key : String) (get : Fields → Option α)
    (set : Fields → Option α → Fields) (starts : start.toList = key.toList ++ [':', ' '])
    (new : get f = none) (isField : IsField ext key get set value)
    (more : Reads ')' (field ext) entries (set f (some a)) g) :
    Reads ')' (field ext) ((start ++ written) :: entries) f g := by
  obtain ⟨c, cs, eq, letter⟩ : ∃ c cs, key.toList = c :: cs ∧ c.isAlpha := by
    match eq : key.toList, isField.plain with
    | c :: d :: cs, plain => exact ⟨c, d :: cs, rfl, by simp_all [isPlainName]⟩
  have alphanum : c.isAlphanum := by simp [Char.isAlphanum, letter]
  have notClosing : c ≠ ')' := by
    rintro rfl
    exact absurd letter (by decide)
  refine .cons ?_ ?_ (fun rest => ?_) more
  · simp [starts, eq, startsToken_of_isAlphanum alphanum]
  · simp [starts, eq, notClosing]
  · rw [String.toList_append, starts]
    simp [isField.run_eq, new, run_once takes]

/-- A field that need not be there is read in front of others if it is new. -/
theorem reads_optional {v : Option String} (key : String) (get : Fields → Option (Option String))
    (set : Fields → Option (Option String) → Fields) (new : get f = none) (same : set f none = f)
    (isField : IsField ext key get set (optional ext))
    (more : Reads ')' (field ext) entries (set f (v.map some)) g) :
    Reads ')' (field ext) (Writer.optional key v ++ entries) f g := by
  cases v with
  | none => exact same ▸ more
  | some t =>
    have written : key ++ ": Some(" ++ Writer.text t ++ ")"
        = (key ++ ": ") ++ ("Some(" ++ Writer.text t ++ ")") := by
      rw [show ": Some(" = ": " ++ "Some(" from rfl]
      simp only [String.append_assoc]
    rw [Writer.optional, Option.toList_some, List.map_singleton, List.singleton_append, written]
    exact (takes_optional ext t).reads_cons key get set (by simp) new isField more

/-- The fields that are read from the file of a session. -/
def fieldsOf (s : Session) : Fields where
  id := s.id
  worldId := s.worldId
  room := s.room
  flags := s.flags
  inventory := s.inventory
  gone := s.gone
  seen := s.seen
  effects := s.effects
  failures := s.failures
  context := s.context.map some
  cameFrom := s.cameFrom.map some

theorem reads_fields (ext : Extensions) (s : Session) :
    Reads ')' (field ext) (Writer.fields s) {} (fieldsOf s) := by
  rw [Writer.fields, List.append_assoc, ← List.append_nil (Writer.optional "cameFrom" _)]
  refine
    (takes_text s.id).reads_cons "id" (·.id) ({ · with id := · }) rfl rfl ?_ <|
    (takes_text s.worldId).reads_cons "worldId" (·.worldId) ({ · with worldId := · }) rfl rfl ?_ <|
    (takes_text s.room).reads_cons "room" (·.room) ({ · with room := · }) rfl rfl ?_ <|
    (takes_flags s.flags).reads_cons "flags" (·.flags) ({ · with flags := · }) rfl rfl ?_ <|
    (takes_idSet s.inventory).reads_cons "inventory" (·.inventory) ({ · with inventory := · })
      rfl rfl ?_ <|
    (takes_idSet s.gone).reads_cons "gone" (·.gone) ({ · with gone := · }) rfl rfl ?_ <|
    (takes_idSet s.seen).reads_cons "seen" (·.seen) ({ · with seen := · }) rfl rfl ?_ <|
    (takes_idSet s.effects).reads_cons "effects" (·.effects) ({ · with effects := · })
      rfl rfl ?_ <|
    (takes_count s.failures).reads_cons "failures" (·.failures) ({ · with failures := · })
      rfl rfl ?_ <|
    reads_optional "context" (·.context) ({ · with context := · }) rfl rfl ?_ <|
    reads_optional "cameFrom" (·.cameFrom) ({ · with cameFrom := · }) rfl rfl ?_ <|
    .nil _
  -- What is left is that the value after each name goes into the field of the name.
  all_goals
    refine ⟨rfl, fun f text => ?_⟩
    rw [field, StateT.run_bind, run_name rfl]
    simp [Option.map_eq_bind]

end Fields

theorem run_session_fieldsOf (s : Session) (text : List Char) :
    (fieldsOf s).session.run text = some (s, text) := by
  cases s with
  | mk id worldId room flags inventory gone seen effects failures context cameFrom =>
    cases context <;> cases cameFrom <;> rfl

theorem run_session (s : Session) : session.run (write s).toList = some (s, []) := by
  have opens : startsToken (write s).toList := startsToken_block rfl rfl 0 _
  have starts : (write s).toList.head? = some '(' := by
    simp [write, Writer.block, Writer.fields]
  have bracket : Text.continuesName '(' = false := by decide
  have noExtensions (fuel : Nat) :
      (extensions (fuel + 1) {}).run (write s).toList = some ({}, (write s).toList) := by
    simp [extensions, run_space_of_startsToken opens, starts]
  have fields : ((expect '(').run (write s).toList).bind
      (fun p => (itemsTo ')' (field {}) {}).run p.2) = some (fieldsOf s, []) := by
    rw [write, ← List.append_nil (Writer.block _ _ _ _).toList]
    exact run_block (reads_fields {} s) rfl rfl rfl 0 []
  simp [session, noExtensions, starts, bracket, run_space_of_startsToken opens]
  rw [← Option.bind_assoc, fields]
  simp [run_space, passGap, run_session_fieldsOf]

end Reader

/-- A session is read from the file that it was written to. -/
theorem read?_write (s : Session) : read? (write s) = some s := by
  rw [read?, Text.Scanner.run?, Reader.run_session]

end TextAdventure.SessionFile
