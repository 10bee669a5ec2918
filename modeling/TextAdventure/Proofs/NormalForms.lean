import Mathlib.Logic.Relation
import TextAdventure.Text.Normal
import TextAdventure.Proofs.Blanks

/-!
# Spellings of one word

A word may be spelled with blanks around it, with ASCII letters in either case, and with articles in
front (`Respelled`). All spellings have one normal form (`normal_eq_of_respelled`), and they are
blank together or not at all (`blank_iff_of_respelled`). Changing the case of ASCII letters
disturbs nothing of lower-casing, since what a capital sigma becomes depends on whether its
neighbours are letters but not on their case (`lowercase_map_asciiLower`); and what stands before a
blank has no part in what comes after it (`lowercaseAfter_append_blank`).
-/

namespace TextAdventure.Text

/-! ## Case of ASCII letters -/

theorem asciiLower_of_not_ascii {c : Char} (h : ¬ c.toNat < 0x80) : asciiLower c = c := by
  have above : ¬ c ≤ 'Z' := fun le => h (Nat.lt_of_le_of_lt le (by decide))
  rw [asciiLower, if_neg (by simp [above])]

/-- What is the same of both cases of each ASCII letter takes no notice of the case. -/
theorem asciiLower_congr {β : Type} (f : Char → β)
    (ascii : ∀ n < 0x80, f (asciiLower (Char.ofNat n)) = f (Char.ofNat n)) (c : Char) :
    f (asciiLower c) = f c := by
  by_cases h : c.toNat < 0x80
  · have here := ascii c.toNat h
    rwa [Char.ofNat_toNat] at here
  · rw [asciiLower_of_not_ascii h]

theorem isBlank_asciiLower (c : Char) : isBlank (asciiLower c) = isBlank c :=
  asciiLower_congr isBlank (by decide) c

theorem lowerChar_asciiLower (c : Char) : lowerChar (asciiLower c) = lowerChar c :=
  asciiLower_congr lowerChar (by decide) c

theorem isCased_asciiLower (c : Char) : isCased (asciiLower c) = isCased c :=
  asciiLower_congr isCased (by decide) c

theorem isCaseIgnorable_asciiLower (c : Char) :
    isCaseIgnorable (asciiLower c) = isCaseIgnorable c :=
  asciiLower_congr isCaseIgnorable (by decide) c

theorem asciiLower_eq_sigma_iff (c : Char) : asciiLower c = 'Σ' ↔ c = 'Σ' :=
  iff_of_eq (asciiLower_congr (· = 'Σ') (by decide) c)

theorem startsCased_map_asciiLower (cs : List Char) :
    startsCased (cs.map asciiLower) = startsCased cs := by
  have ignorable : isCaseIgnorable ∘ asciiLower = isCaseIgnorable :=
    funext isCaseIgnorable_asciiLower
  rw [startsCased, startsCased, List.dropWhile_map, ignorable]
  rcases cs.dropWhile isCaseIgnorable with _ | ⟨c, _⟩
  · rfl
  · exact isCased_asciiLower c

theorem lowercaseAfter_map_asciiLower :
    ∀ (cs : List Char) (cased : Bool),
      lowercaseAfter cased (cs.map asciiLower) = lowercaseAfter cased cs
  | [], _ => rfl
  | c :: cs, cased => by
    simp only [List.map_cons, lowercaseAfter, asciiLower_eq_sigma_iff, startsCased_map_asciiLower,
      lowerChar_asciiLower, isCaseIgnorable_asciiLower, isCased_asciiLower,
      lowercaseAfter_map_asciiLower cs]

theorem lowercase_map_asciiLower (cs : List Char) :
    lowercase (cs.map asciiLower) = lowercase cs :=
  lowercaseAfter_map_asciiLower cs false

/-- A character that lower-casing leaves as it is, whatever stands around it. -/
structure IsLower (c : Char) : Prop where
  lower : lowerChar c = [c]
  other : c ≠ 'Σ'

theorem isLower_of_ascii {c : Char} (ascii : c.toNat < 0x80) (lower : asciiLower c = c) :
    IsLower c where
  lower := by rw [lowerChar, if_pos ascii, lower]
  other := by
    rintro rfl
    exact absurd ascii (by decide)

theorem lowercaseAfter_eq_self :
    ∀ {cs : List Char}, (∀ c ∈ cs, IsLower c) → ∀ cased : Bool, lowercaseAfter cased cs = cs
  | [], _, _ => rfl
  | c :: cs, plain, cased => by
    obtain ⟨lower, other⟩ := plain c List.mem_cons_self
    rw [lowercaseAfter, if_neg other, lower,
      lowercaseAfter_eq_self fun d mem => plain d (List.mem_cons_of_mem _ mem)]
    rfl

theorem trim_map_asciiLower (cs : List Char) :
    trim (cs.map asciiLower) = (trim cs).map asciiLower := by
  have blank : isBlank ∘ asciiLower = isBlank := funext isBlank_asciiLower
  simp only [trim, trimStart, trimEnd, List.dropWhile_map, blank, ← List.map_reverse]

/-! ## Blanks -/

theorem trim_append_blanks (cs : List Char) {after : List Char} (h : ∀ c ∈ after, isBlank c) :
    trim (cs ++ after) = trim cs := by
  have takes (cs : List Char) : trimEnd (cs ++ after) = trimEnd cs := by
    rw [trimEnd, trimEnd, List.reverse_append,
      List.dropWhile_append_of_pos fun c mem => h c (List.mem_reverse.1 mem)]
  have starts : trimStart (cs ++ after)
      = if (trimStart cs).isEmpty then trimStart after else trimStart cs ++ after :=
    List.dropWhile_append
  have none : trimStart after = [] := List.dropWhile_eq_nil_iff.2 h
  rw [trim, trim, starts]
  split
  · next silent => rw [none, List.isEmpty_iff.1 silent]
  · exact takes (trimStart cs)

theorem trim_blanks_append {before : List Char} (h : ∀ c ∈ before, isBlank c) (cs : List Char) :
    trim (before ++ cs) = trim cs := by
  rw [trim, trim, trimStart, trimStart, List.dropWhile_append_of_pos h]

/-- The code points of blank characters. -/
def blankCodes : List Nat :=
  List.range' 9 5 ++ [0x20, 0x85, 0xA0, 0x1680] ++ List.range' 0x2000 11 ++
    [0x2028, 0x2029, 0x202F, 0x205F, 0x3000]

theorem toNat_mem_blankCodes {c : Char} (blank : isBlank c) : c.toNat ∈ blankCodes := by
  simp only [isBlank, Bool.or_eq_true, Bool.and_eq_true, decide_eq_true_eq] at blank
  simp only [blankCodes, List.mem_append, List.mem_range'_1, List.mem_cons, List.not_mem_nil,
    or_false]
  omega

/-- A blank is nothing to letter case: it has no other form, and letters end at it. -/
structure IsCaseless (c : Char) : Prop where
  lower : lowerChar c = [c]
  uncased : isCased c = false
  counts : isCaseIgnorable c = false
  other : c ≠ 'Σ'

theorem isCaseless_of_blank {c : Char} (blank : isBlank c) : IsCaseless c := by
  have all : ∀ n ∈ blankCodes, lowerChar (Char.ofNat n) = [Char.ofNat n] ∧
      isCased (Char.ofNat n) = false ∧ isCaseIgnorable (Char.ofNat n) = false ∧
      Char.ofNat n ≠ 'Σ' := by decide +kernel
  obtain ⟨lower, uncased, counts, other⟩ := all c.toNat (toNat_mem_blankCodes blank)
  rw [Char.ofNat_toNat] at lower uncased counts other
  exact ⟨lower, uncased, counts, other⟩

theorem lowercaseAfter_blank {c : Char} (blank : isBlank c) (cased : Bool) (cs : List Char) :
    lowercaseAfter cased (c :: cs) = c :: lowercase cs := by
  have caseless := isCaseless_of_blank blank
  simp [lowercaseAfter, lowercase, caseless.lower, caseless.uncased, caseless.counts,
    caseless.other]

theorem startsCased_append_blank {c : Char} (blank : isBlank c) (before after : List Char) :
    startsCased (before ++ c :: after) = startsCased before := by
  have caseless := isCaseless_of_blank blank
  unfold startsCased
  rw [List.dropWhile_append]
  rcases before.dropWhile isCaseIgnorable with _ | ⟨d, ds⟩
  · simp [caseless.counts, caseless.uncased]
  · rfl

/-- A blank has no part in lower-casing: what stands before and after it is lower-cased apart. -/
theorem lowercaseAfter_append_blank {c : Char} (blank : isBlank c) (after : List Char) :
    ∀ (before : List Char) (cased : Bool), lowercaseAfter cased (before ++ c :: after)
      = lowercaseAfter cased before ++ c :: lowercase after
  | [], cased => lowercaseAfter_blank blank cased after
  | d :: before, cased => by
    rw [List.cons_append, lowercaseAfter, lowercaseAfter, startsCased_append_blank blank,
      lowercaseAfter_append_blank blank after before, List.append_assoc]

theorem lowercase_blanks_append {blanks : List Char} (h : ∀ c ∈ blanks, isBlank c)
    (cs : List Char) : lowercase (blanks ++ cs) = blanks ++ lowercase cs := by
  induction blanks with
  | nil => rfl
  | cons c blanks ih =>
    rw [List.cons_append, lowercase, lowercaseAfter_blank (h c List.mem_cons_self),
      ih fun c mem => h c (List.mem_cons_of_mem _ mem), List.cons_append]

/-! ## Articles -/

/-- The articles, in lower case. -/
def articles : List (List Char) := [['a'], ['a', 'n'], ['t', 'h', 'e'], ['m', 'y']]

theorem lowercaseAfter_ascii :
    ∀ {letters : List Char}, (∀ d ∈ letters, d.toNat < 0x80) → ∀ cased : Bool,
      lowercaseAfter cased letters = letters.map asciiLower
  | [], _, _ => rfl
  | d :: letters, ascii, cased => by
    have small : d.toNat < 0x80 := ascii d List.mem_cons_self
    have other : d ≠ 'Σ' := by
      rintro rfl
      exact absurd small (by decide)
    have lower : lowerChar d = [asciiLower d] := by rw [lowerChar, if_pos small]
    rw [lowercaseAfter, if_neg other, lower,
      lowercaseAfter_ascii fun e mem => ascii e (List.mem_cons_of_mem _ mem)]
    rfl

/-- ASCII letters before a blank are lower-cased one by one. -/
theorem lowercaseAfter_letters_blank {c : Char} (blank : isBlank c) (cs : List Char)
    {letters : List Char} (ascii : ∀ d ∈ letters, d.toNat < 0x80) (cased : Bool) :
    lowercaseAfter cased (letters ++ c :: cs) = letters.map asciiLower ++ c :: lowercase cs := by
  rw [lowercaseAfter_append_blank blank, lowercaseAfter_ascii ascii]

theorem dropArticles_blank {c : Char} (blank : isBlank c) (cs : List Char) :
    dropArticles (c :: cs) = dropArticles cs := by
  rw [dropArticles.eq_def]
  split
  case h_5 same =>
    obtain ⟨rfl, rfl⟩ := List.cons.inj same
    exact if_pos blank
  case h_6 none => cases none
  -- no article starts with a blank
  all_goals
    next same =>
    obtain ⟨rfl, -⟩ := List.cons.inj same
    exact absurd blank (by decide)

theorem dropArticles_blanks_append {blanks : List Char} (h : ∀ c ∈ blanks, isBlank c)
    (cs : List Char) : dropArticles (blanks ++ cs) = dropArticles cs := by
  induction blanks with
  | nil => rfl
  | cons c blanks ih =>
    rw [List.cons_append, dropArticles_blank (h c List.mem_cons_self),
      ih fun c mem => h c (List.mem_cons_of_mem _ mem)]

theorem dropArticles_article {article : List Char} (known : article ∈ articles) (cs : List Char) :
    dropArticles (article ++ ' ' :: cs) = dropArticles cs := by
  simp only [articles, List.mem_cons, List.not_mem_nil, or_false] at known
  rcases known with rfl | rfl | rfl | rfl <;> rfl

theorem dropArticles_suffix (cs : List Char) : dropArticles cs <:+ cs := by
  fun_induction dropArticles cs with
  | case1 rest ih => exact ih.trans (List.suffix_append ['a', ' '] rest)
  | case2 rest ih => exact ih.trans (List.suffix_append ['a', 'n', ' '] rest)
  | case3 rest ih => exact ih.trans (List.suffix_append ['t', 'h', 'e', ' '] rest)
  | case4 rest ih => exact ih.trans (List.suffix_append ['m', 'y', ' '] rest)
  | case5 c rest _ _ _ _ _ ih => exact ih.trans (List.suffix_cons c rest)
  | case6 => exact List.suffix_rfl
  | case7 => exact List.suffix_rfl

theorem dropArticles_eq_self {cs : List Char} (starts : ∀ c ∈ cs.head?, isBlank c = false)
    (bare : ∀ article ∈ articles, ∀ rest, cs ≠ article ++ ' ' :: rest) : dropArticles cs = cs := by
  rw [dropArticles.eq_def]
  split
  · exact absurd rfl (bare ['a'] (by decide) _)
  · exact absurd rfl (bare ['a', 'n'] (by decide) _)
  · exact absurd rfl (bare ['t', 'h', 'e'] (by decide) _)
  · exact absurd rfl (bare ['m', 'y'] (by decide) _)
  · next c rest _ _ _ _ => rw [starts c rfl]; rfl
  · rfl

theorem solid_of_article :
    ∀ article ∈ articles, article ≠ [] ∧ ∀ c ∈ article, isBlank c = false := by
  have all : ∀ article ∈ articles, article ≠ [] ∧ article.all (!isBlank ·) := by decide
  simpa using all

/-- An article is made of ASCII letters, whatever their case. -/
theorem ascii_of_article {article : List Char} (known : article.map asciiLower ∈ articles) :
    ∀ c ∈ article, c.toNat < 0x80 := by
  have all : ∀ known ∈ articles, known.all fun c => c.toNat < 0x80 := by decide
  intro c mem
  by_contra large
  have lower := List.all_eq_true.1 (all _ known) _ (List.mem_map_of_mem mem)
  rw [asciiLower_of_not_ascii large] at lower
  exact large (of_decide_eq_true lower)

/-- Trimming takes nothing off between an article and the word after it. -/
theorem trim_article {article : List Char} (known : article.map asciiLower ∈ articles)
    (blanks : List Char) {word : List Char} (present : trim word ≠ []) :
    trim (article ++ ' ' :: (blanks ++ word))
      = article ++ ' ' :: (blanks ++ word.takeWhile isBlank ++ trim word) := by
  have sound : ∀ known ∈ articles, known.head?.all fun c => !isBlank c := by decide
  have starts : trimStart (article ++ ' ' :: (blanks ++ word))
      = article ++ ' ' :: (blanks ++ word) := by
    match article, known with
    | [], known => exact absurd known (by decide)
    | c :: cs, known =>
      have first : isBlank c = false := by
        rw [← isBlank_asciiLower]
        simpa using sound _ known
      simp [trimStart, first]
  have finish : trimEnd word = word.takeWhile isBlank ++ trim word := by
    rw [trim, ← trimEnd_append present]
    exact congrArg trimEnd List.takeWhile_append_dropWhile.symm
  have ends : trimEnd word ≠ [] := by simp [finish, present]
  rw [trim, starts, List.append_cons, ← List.append_assoc, trimEnd_append ends, finish]
  simp

theorem normal_article {article : List Char} (known : article.map asciiLower ∈ articles)
    {blanks : List Char} (h : ∀ c ∈ blanks, isBlank c) {word : List Char}
    (present : trim word ≠ []) :
    dropArticles (lowercase (trim (article ++ ' ' :: (blanks ++ word))))
      = dropArticles (lowercase (trim word)) := by
  have between : ∀ c ∈ blanks ++ word.takeWhile isBlank, isBlank c := by
    intro c mem
    rcases List.mem_append.1 mem with mem | mem
    · exact h c mem
    · exact List.mem_takeWhile_imp mem
  rw [trim_article known blanks present, lowercase,
    lowercaseAfter_letters_blank (by decide) _ (ascii_of_article known),
    dropArticles_article known, lowercase_blanks_append between,
    dropArticles_blanks_append between]

/-! ## Spellings -/

/-- Two spellings of a word that differ in one respect. -/
inductive Respells (word : String) : String → Prop where
  /-- There are blanks around it. -/
  | blanks {before after : List Char} (hbefore : ∀ c ∈ before, isBlank c)
      (hafter : ∀ c ∈ after, isBlank c) :
      Respells word (String.ofList (before ++ word.toList ++ after))
  /-- Some of its ASCII letters are written in the other case. -/
  | letters {other : String} (same : sameIgnoringAsciiCase word.toList other.toList) :
      Respells word other
  /-- There is an article in front of it, with one space or more in between. -/
  | article {article : List Char} (known : article.map asciiLower ∈ articles) (more : Nat)
      (present : trim word.toList ≠ []) :
      Respells word
        (String.ofList (article ++ ' ' :: (List.replicate more ' ' ++ word.toList)))

/-- Two spellings of one word, which may differ in any of these respects any number of times. -/
def Respelled : String → String → Prop :=
  Relation.EqvGen Respells

theorem Respelled.congr {β : Type} {word other : String} (f : String → β)
    (agrees : ∀ word other, Respells word other → f word = f other)
    (respelled : Respelled word other) : f word = f other :=
  congrArg (Quot.lift f agrees) (Quot.eqvGen_sound respelled)

theorem normal_eq_of_respells {word other : String} (h : Respells word other) :
    normal word = normal other := by
  cases h with
  | blanks hbefore hafter =>
    rw [normal, normal, String.toList_ofList, trim_append_blanks _ hafter,
      trim_blanks_append hbefore]
  | letters same =>
    have lower : ∀ cs, lowercase (trim cs) = lowercase (trim (cs.map asciiLower)) := fun cs => by
      rw [trim_map_asciiLower, lowercase_map_asciiLower]
    rw [normal, normal, lower, eq_of_beq same, ← lower]
  | article known more present =>
    rw [normal, normal, String.toList_ofList,
      normal_article known (fun c mem => by rw [List.eq_of_mem_replicate mem]; decide) present]

theorem blank_iff_of_respells {word other : String} (h : Respells word other) :
    trim word.toList = [] ↔ trim other.toList = [] := by
  cases h with
  | blanks hbefore hafter =>
    rw [String.toList_ofList, trim_append_blanks _ hafter, trim_blanks_append hbefore]
  | letters same =>
    have blank : ∀ cs, trim cs = [] ↔ trim (cs.map asciiLower) = [] := fun cs => by
      rw [trim_map_asciiLower, List.map_eq_nil_iff]
    rw [blank, eq_of_beq same, ← blank]
  | article known more present =>
    rw [String.toList_ofList, trim_article known _ present]
    exact iff_of_false present (by simp)

/-- All spellings of a word have one normal form. -/
theorem normal_eq_of_respelled {word other : String} (respelled : Respelled word other) :
    normal word = normal other :=
  respelled.congr normal fun _ _ => normal_eq_of_respells

/-- No spelling of a word is blank unless all are. -/
theorem blank_iff_of_respelled {word other : String} (respelled : Respelled word other) :
    trim word.toList = [] ↔ trim other.toList = [] :=
  iff_of_eq (respelled.congr (fun word => trim word.toList = []) fun _ _ h =>
    propext (blank_iff_of_respells h))

end TextAdventure.Text
