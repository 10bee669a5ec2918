import TextAdventure.Proofs.NormalForms

/-!
# Normal forms are final

What has been lower-cased stays as it is when it is lower-cased again: the lower-case forms of one
run of characters belong to no run (`lowerNat_lowerNat`), and they are neither sigmas that wait for
their neighbours nor blank. So a word in normal form is its own normal form (`normal_normal`), and
the words of a text in lower case are its words, each in lower case (`words_lowercase`).
-/

namespace TextAdventure.Text

/-! ## Runs of upper-case characters -/

/-- A code point is one of those in a run. -/
def InRun (run : Nat × Nat × Nat × Nat) (n : Nat) : Prop :=
  run.1 ≤ n ∧ n ≤ run.2.1 ∧ (n - run.1) % run.2.2.1 = 0

/-- The lower-case form of the last code point of a run. -/
def lastLower (run : Nat × Nat × Nat × Nat) : Nat :=
  run.2.2.2 + (run.2.1 - run.1)

/-- The lower-case forms of a run lie below another or above it, or go past it in steps of two. -/
def isApart (run other : Nat × Nat × Nat × Nat) : Bool :=
  Nat.blt (lastLower run) other.1 || Nat.blt other.2.1 run.2.2.2 ||
    ((Nat.beq run.2.2.1 2 || Nat.beq run.1 run.2.1) && Nat.beq other.2.2.1 2 &&
      Nat.beq ((run.2.2.2 + other.1) % 2) 1)

theorem runs_apart : lowerRuns.all (fun run => lowerRuns.all (isApart run)) = true := by
  decide +kernel

/-- Lower-case forms are characters, and neither capitals nor blank nor lower-cased by a rule of
their own. -/
theorem runs_sound : ∀ run ∈ lowerRuns, 0x5A < run.2.2.2 ∧
    (lastLower run < 0xD800 ∨ 0xE000 ≤ run.2.2.2 ∧ lastLower run < 0x110000) ∧
    ∀ n ∈ 0x130 :: 0x3A3 :: blankCodes, n < run.2.2.2 ∨ lastLower run < n := by
  decide +kernel

theorem not_inRun_lower {run other : Nat × Nat × Nat × Nat} (apart : isApart run other) {n : Nat}
    (inRun : InRun run n) : ¬ InRun other (run.2.2.2 + (n - run.1)) := by
  obtain ⟨first, last, step, lower⟩ := run
  obtain ⟨first', last', step', lower'⟩ := other
  simp only [isApart, lastLower, Bool.or_eq_true, Bool.and_eq_true, Nat.blt_eq, Nat.beq_eq]
    at apart
  simp only [InRun] at inRun ⊢
  rintro ⟨above, below, even⟩
  rcases apart with (apart | apart) | ⟨⟨rfl | rfl, rfl⟩, odd⟩ <;> omega

theorem lowerNat_eq_self {n : Nat} (outside : ∀ run ∈ lowerRuns, ¬ InRun run n) :
    lowerNat n = n := by
  unfold lowerNat
  split
  · next found =>
    have inRun := List.find?_some found
    simp only [Bool.and_eq_true, decide_eq_true_eq] at inRun
    exact absurd ⟨inRun.1.1, inRun.1.2, inRun.2⟩ (outside _ (List.mem_of_find?_eq_some found))
  · rfl

theorem lowerNat_cases (n : Nat) :
    lowerNat n = n ∨
      ∃ run ∈ lowerRuns, InRun run n ∧ lowerNat n = run.2.2.2 + (n - run.1) := by
  unfold lowerNat
  split
  · next found =>
    have inRun := List.find?_some found
    simp only [Bool.and_eq_true, decide_eq_true_eq] at inRun
    exact .inr ⟨_, List.mem_of_find?_eq_some found, ⟨inRun.1.1, inRun.1.2, inRun.2⟩, rfl⟩
  · exact .inl rfl

theorem lowerNat_lowerNat (n : Nat) : lowerNat (lowerNat n) = lowerNat n := by
  rcases lowerNat_cases n with same | ⟨run, mem, inRun, lower⟩
  · rw [same, same]
  · rw [lower]
    refine lowerNat_eq_self fun other mem' => not_inRun_lower ?_ inRun
    exact List.all_eq_true.1 (List.all_eq_true.1 runs_apart run mem) other mem'

/-! ## Lower-case characters -/

theorem toNat_ofNat {n : Nat} (char : n < 0xD800 ∨ 0xE000 ≤ n ∧ n < 0x110000) :
    (Char.ofNat n).toNat = n := by
  have valid : n.isValidChar := by
    rcases char with low | ⟨high, bound⟩
    · exact .inl low
    · exact .inr ⟨by omega, bound⟩
  rw [Char.ofNat, dif_pos valid]
  rfl

theorem asciiLower_eq_self {c : Char} (small : 0x5A < c.toNat) : asciiLower c = c := by
  have above : ¬ c ≤ 'Z' := fun le => absurd (Nat.lt_of_lt_of_le small le) (by decide)
  rw [asciiLower, if_neg (by simp [above])]

/-- The lower-case form of a character in a run is in lower case, and not blank. -/
theorem isLower_of_inRun {run : Nat × Nat × Nat × Nat} (mem : run ∈ lowerRuns) {n : Nat}
    (inRun : InRun run n) (lower : lowerNat n = run.2.2.2 + (n - run.1)) :
    IsLower (Char.ofNat (lowerNat n)) ∧ isBlank (Char.ofNat (lowerNat n)) = false := by
  obtain ⟨small, char, apart⟩ := runs_sound run mem
  have last : lowerNat n ≤ lastLower run := by
    have := inRun.2.1
    simp only [lastLower]
    omega
  have first : run.2.2.2 ≤ lowerNat n := by omega
  have code : (Char.ofNat (lowerNat n)).toNat = lowerNat n := toNat_ofNat (by omega)
  have ne : ∀ m ∈ 0x130 :: 0x3A3 :: blankCodes, lowerNat n ≠ m := by
    intro m mem same
    have := apart m mem
    omega
  refine ⟨?_, ?_⟩
  · by_cases ascii : lowerNat n < 0x80
    · exact isLower_of_ascii (by omega) (asciiLower_eq_self (by omega))
    · refine ⟨?_, ?_⟩
      · rw [lowerChar, code, if_neg ascii, if_neg (ne _ (by simp)), lowerNat_lowerNat]
      · intro sigma
        rw [sigma] at code
        exact ne 0x3A3 (by simp) code.symm
  · refine Bool.eq_false_iff.2 fun blank => ?_
    exact ne _ (by simp [toNat_mem_blankCodes blank]) code.symm

theorem isLower_asciiLower {c : Char} (ascii : c.toNat < 0x80) : IsLower (asciiLower c) := by
  have all : ∀ n < 0x80, (asciiLower (Char.ofNat n)).toNat < 0x80 ∧
      asciiLower (asciiLower (Char.ofNat n)) = asciiLower (Char.ofNat n) := by decide
  have here := all c.toNat ascii
  rw [Char.ofNat_toNat] at here
  exact isLower_of_ascii here.1 here.2

/-- Lower-casing a character gives lower-case characters, which are blank only if it was. -/
theorem isLower_of_mem_lowerChar {c d : Char} (other : c ≠ 'Σ') (mem : d ∈ lowerChar c) :
    IsLower d ∧ (isBlank c = false → isBlank d = false) := by
  by_cases ascii : c.toNat < 0x80
  · rw [lowerChar, if_pos ascii, List.mem_singleton] at mem
    rw [mem, isBlank_asciiLower]
    exact ⟨isLower_asciiLower ascii, id⟩
  by_cases dotted : c.toNat = 0x130
  · rw [lowerChar, if_neg ascii, if_pos dotted, List.mem_pair] at mem
    rcases mem with rfl | rfl
    · exact ⟨isLower_of_ascii (by decide) (by decide), fun _ => by decide⟩
    · exact ⟨⟨by decide +kernel, by decide⟩, fun _ => by decide⟩
  · have form : lowerChar c = [Char.ofNat (lowerNat c.toNat)] := by
      rw [lowerChar, if_neg ascii, if_neg dotted]
    rw [form, List.mem_singleton] at mem
    rcases lowerNat_cases c.toNat with same | ⟨run, among, inRun, lower⟩
    · rw [same, Char.ofNat_toNat] at form mem
      rw [mem]
      exact ⟨⟨form, other⟩, id⟩
    · rw [mem]
      obtain ⟨isLower, solid⟩ := isLower_of_inRun among inRun lower
      exact ⟨isLower, fun _ => solid⟩

/-- What stands in a lower-cased text for a character of it. -/
def lowerForms (c : Char) : List Char :=
  if c = 'Σ' then ['ς', 'σ'] else lowerChar c

theorem isLower_of_mem_lowerForms {c d : Char} (mem : d ∈ lowerForms c) :
    IsLower d ∧ (isBlank c = false → isBlank d = false) := by
  unfold lowerForms at mem
  split at mem
  · rw [List.mem_pair] at mem
    rcases mem with rfl | rfl
    · exact ⟨⟨by decide +kernel, by decide⟩, fun _ => by decide⟩
    · exact ⟨⟨by decide +kernel, by decide⟩, fun _ => by decide⟩
  · next other => exact isLower_of_mem_lowerChar other mem

/-! ## Lower-cased texts -/

/-- A text is lower-cased character by character, though a sigma goes by its neighbours. -/
theorem lowercaseAfter_cons (cased : Bool) (c : Char) (cs : List Char) :
    ∃ lower cased', lower ≠ [] ∧ (∀ d ∈ lower, d ∈ lowerForms c) ∧
      lowercaseAfter cased (c :: cs) = lower ++ lowercaseAfter cased' cs := by
  refine ⟨_, _, ?_, ?_, rfl⟩
  · split
    · exact List.cons_ne_nil _ _
    · unfold lowerChar
      split_ifs <;> exact List.cons_ne_nil _ _
  · intro d mem
    unfold lowerForms
    split at mem
    · next sigma =>
      rw [if_pos sigma]
      split at mem <;> simp_all
    · next other => rwa [if_neg other]

theorem mem_lowercaseAfter {d : Char} :
    ∀ {cs : List Char} {cased : Bool}, d ∈ lowercaseAfter cased cs → ∃ c ∈ cs, d ∈ lowerForms c
  | c :: cs, cased, mem => by
    obtain ⟨lower, cased', -, forms, split⟩ := lowercaseAfter_cons cased c cs
    rw [split, List.mem_append] at mem
    rcases mem with mem | mem
    · exact ⟨c, List.mem_cons_self, forms d mem⟩
    · obtain ⟨c', among, form⟩ := mem_lowercaseAfter mem
      exact ⟨c', List.mem_cons_of_mem _ among, form⟩

theorem getLast?_lowercaseAfter {d : Char} :
    ∀ {cs : List Char} {cased : Bool}, d ∈ (lowercaseAfter cased cs).getLast? →
      ∃ c ∈ cs.getLast?, d ∈ lowerForms c
  | [c], cased, last => by
    obtain ⟨lower, cased', -, forms, split⟩ := lowercaseAfter_cons cased c []
    rw [split, lowercaseAfter, List.append_nil] at last
    exact ⟨c, rfl, forms d (List.mem_of_getLast? last)⟩
  | c :: c' :: cs, cased, last => by
    obtain ⟨lower, cased', -, -, split⟩ := lowercaseAfter_cons cased c (c' :: cs)
    obtain ⟨lower', cased'', present, -, split'⟩ := lowercaseAfter_cons cased' c' cs
    have rest : lowercaseAfter cased' (c' :: cs) ≠ [] := by simp [split', present]
    rw [split, List.getLast?_append_of_ne_nil _ rest] at last
    obtain ⟨c'', among, form⟩ := getLast?_lowercaseAfter last
    exact ⟨c'', by rwa [List.getLast?_cons_cons], form⟩

theorem lowercaseAfter_ne_nil {cs : List Char} (present : cs ≠ []) (cased : Bool) :
    lowercaseAfter cased cs ≠ [] := by
  obtain ⟨c, cs, rfl⟩ := List.exists_cons_of_ne_nil present
  obtain ⟨lower, cased', some_lower, -, split⟩ := lowercaseAfter_cons cased c cs
  rw [split]
  exact List.append_ne_nil_of_left_ne_nil some_lower _

/-- What stands between blanks still does in lower case. -/
theorem isSolid_lowercase {w : List Char} (solid : IsSolid w) : IsSolid (lowercase w) := by
  refine ⟨lowercaseAfter_ne_nil solid.present false, fun d mem => ?_⟩
  obtain ⟨c, among, form⟩ := mem_lowercaseAfter mem
  exact (isLower_of_mem_lowerForms form).2 (solid.solid c among)

/-- The words of a lower-cased text are its words, each lower-cased by itself. -/
theorem words_lowercase (cs : List Char) : words (lowercase cs) = (words cs).map lowercase := by
  have parts : cs.takeWhile (!isBlank ·) ++ cs.dropWhile (!isBlank ·) = cs :=
    List.takeWhile_append_dropWhile
  have solid : ∀ c ∈ cs.takeWhile (!isBlank ·), isBlank c = false := fun c mem => by
    simpa using List.mem_takeWhile_imp mem
  have first : words (lowercase (cs.takeWhile (!isBlank ·)))
      = (words (cs.takeWhile (!isBlank ·))).map lowercase := by
    by_cases present : cs.takeWhile (!isBlank ·) = []
    · rw [present]
      rfl
    · have lower := isSolid_lowercase ⟨present, solid⟩
      rw [words_eq_singleton present solid, words_eq_singleton lower.present lower.solid]
      rfl
  rcases left : cs.dropWhile (!isBlank ·) with _ | ⟨c, after⟩
  · rw [left, List.append_nil] at parts
    rwa [parts] at first
  · have blank : isBlank c = true := by
      have stopped := stops_dropWhile (!isBlank ·) cs c (by rw [left]; rfl)
      simpa using stopped
    rw [left] at parts
    have shorter : after.length < cs.length := by
      have := congrArg List.length parts
      simp only [List.length_append, List.length_cons] at this
      omega
    -- the first word and the text after the blank do not see each other
    rw [← parts, lowercase, lowercaseAfter_append_blank blank, words_append_blank blank,
      words_append_blank blank, List.map_append, ← words_lowercase after, ← first]
    rfl
termination_by cs.length

/-! ## Normal forms -/

theorem head_dropArticles (cs : List Char) :
    ∀ c ∈ (dropArticles cs).head?, isBlank c = false := by
  fun_induction dropArticles cs with
  | case1 _ ih => exact ih
  | case2 _ ih => exact ih
  | case3 _ ih => exact ih
  | case4 _ ih => exact ih
  | case5 c rest _ _ _ _ _ ih => exact ih
  | case6 => simp_all
  | case7 => simp

theorem dropArticles_dropArticles (cs : List Char) :
    dropArticles (dropArticles cs) = dropArticles cs := by
  fun_induction dropArticles cs with
  | case1 _ ih => exact ih
  | case2 _ ih => exact ih
  | case3 _ ih => exact ih
  | case4 _ ih => exact ih
  | case5 c rest _ _ _ _ _ ih => exact ih
  | case6 c rest a an the my solid =>
    rw [dropArticles.eq_def]
    split <;> simp_all
  | case7 => rfl

theorem trim_eq_self_of_ends {cs : List Char} (starts : ∀ c ∈ cs.head?, isBlank c = false)
    (ends : ∀ c ∈ cs.getLast?, isBlank c = false) : trim cs = cs := by
  have start : trimStart cs = cs := by
    cases cs with
    | nil => rfl
    | cons c cs => exact List.dropWhile_cons_of_neg (by simp [starts c rfl])
  rw [trim, start, trimEnd_eq_rdropWhile, List.rdropWhile_eq_self_iff]
  intro present
  simp [ends _ (List.getLast?_eq_some_getLast present)]

/-- A word in normal form is its own normal form. -/
theorem normal_normal (word : String) : normal (normal word) = normal word := by
  have suffix := dropArticles_suffix (lowercase (trim word.toList))
  have lower : lowercase (normal word).toList = (normal word).toList := by
    refine lowercaseAfter_eq_self (fun c mem => ?_) false
    rw [normal, String.toList_ofList] at mem
    obtain ⟨_, -, form⟩ := mem_lowercaseAfter (suffix.mem mem)
    exact (isLower_of_mem_lowerForms form).1
  have ends : ∀ c ∈ (normal word).toList.getLast?, isBlank c = false := by
    intro c last
    rw [normal, String.toList_ofList] at last
    have whole : c ∈ (lowercase (trim word.toList)).getLast? := by
      obtain ⟨articles, same⟩ := suffix
      rw [← same, List.getLast?_append, last, Option.some_or]
      rfl
    obtain ⟨c', last', form⟩ := getLast?_lowercaseAfter whole
    exact (isLower_of_mem_lowerForms form).2 (getLast?_trim _ c' last')
  have trimmed : trim (normal word).toList = (normal word).toList := by
    refine trim_eq_self_of_ends ?_ ends
    rw [normal, String.toList_ofList]
    exact head_dropArticles _
  rw [normal, trimmed, lower, normal, String.toList_ofList, dropArticles_dropArticles]

end TextAdventure.Text
