import Mathlib.Data.List.Chain
import Mathlib.Data.List.DropRight
import TextAdventure.Text.Blank

/-!
# Blanks

Trimming a text twice is trimming it once (`trim_trim`), and a text without blank characters is
left as it is (`trim_eq_self`) and a word by itself (`words_eq_singleton`). A blank parts the words
before it from those after it (`words_append_blank`), so a line that is put together of words comes
apart into the same ones (`words_line`), and its blanks are single and stand between others
(`isTidy_line`). The words of a text are all that is not blank in it (`flatten_words`), whatever is
trimmed off before (`words_trim`).
-/

namespace TextAdventure.Text

/-- What is passed over ends before the first that is not. -/
theorem stops_dropWhile {α : Type} (passed : α → Bool) (l : List α) :
    ∀ a ∈ (l.dropWhile passed).head?, passed a = false := by
  intro a first
  have stopped := List.head?_dropWhile_not passed l
  rwa [Option.mem_def.1 first] at stopped

theorem trimEnd_eq_rdropWhile (cs : List Char) : trimEnd cs = cs.rdropWhile isBlank := rfl

theorem length_trim_le (cs : List Char) : (trim cs).length ≤ cs.length :=
  (List.rdropWhile_prefix isBlank _).length_le.trans (List.dropWhile_suffix isBlank).length_le

theorem trim_eq_self {cs : List Char} (h : ∀ c ∈ cs, isBlank c = false) : trim cs = cs := by
  have start : trimStart cs = cs :=
    List.dropWhile_eq_self_iff.2 fun _ => by simp [h _ (List.getElem_mem _)]
  rw [trim, start, trimEnd_eq_rdropWhile]
  exact List.rdropWhile_eq_self_iff.2 fun _ => by simp [h _ (List.getLast_mem _)]

/-- Trimming the end leaves nothing blank at the start where there was nothing. -/
theorem trimStart_trimEnd (cs : List Char) :
    trimStart (trimEnd (trimStart cs)) = trimEnd (trimStart cs) := by
  refine List.dropWhile_eq_self_iff.2 fun pos => ?_
  have initial : trimEnd (trimStart cs) <+: trimStart cs := List.rdropWhile_prefix isBlank _
  rw [initial.getElem pos]
  exact List.dropWhile_get_zero_not isBlank cs _

theorem trim_trim (cs : List Char) : trim (trim cs) = trim cs := by
  rw [trim, trim, trimStart_trimEnd]
  exact List.rdropWhile_idempotent isBlank (trimStart cs)

/-- Trimming takes nothing but blank characters off. -/
theorem eq_append_trim (cs : List Char) :
    ∃ before after, cs = before ++ trim cs ++ after ∧ ∀ c ∈ after, isBlank c := by
  refine ⟨cs.takeWhile isBlank, (trimStart cs).rtakeWhile isBlank, ?_, fun c mem =>
    List.mem_rtakeWhile_imp mem⟩
  have finish : trim cs ++ (trimStart cs).rtakeWhile isBlank = trimStart cs :=
    List.rdropWhile_append_rtakeWhile
  rw [List.append_assoc, finish]
  exact List.takeWhile_append_dropWhile.symm

theorem getLast?_trim (cs : List Char) : ∀ c ∈ (trim cs).getLast?, isBlank c = false := by
  intro c last
  obtain ⟨present, rfl⟩ := List.mem_getLast?_eq_getLast last
  exact Bool.eq_false_iff.2 (List.rdropWhile_last_not isBlank (trimStart cs) present)

theorem trimEnd_append {cs : List Char} (present : trimEnd cs ≠ []) (before : List Char) :
    trimEnd (before ++ cs) = before ++ trimEnd cs := by
  unfold trimEnd at present ⊢
  rw [List.reverse_append, List.dropWhile_append, if_neg, List.reverse_append,
    List.reverse_reverse]
  rwa [List.isEmpty_iff, ← List.reverse_eq_nil_iff]

/-! ## Words -/

theorem words_eq_singleton :
    ∀ {cs : List Char}, cs ≠ [] → (∀ c ∈ cs, isBlank c = false) → words cs = [cs]
  | [c], _, h => by
    rw [words, if_neg (by simp [h c List.mem_cons_self])]
    rfl
  | c :: d :: cs, _, h => by
    have rest := words_eq_singleton (List.cons_ne_nil d cs)
      fun e mem => h e (List.mem_cons_of_mem _ mem)
    have hd : isBlank d = false := h d (List.mem_cons_of_mem _ List.mem_cons_self)
    rw [words, if_neg (by simp [h c List.mem_cons_self]), rest, putBefore,
      if_neg (by simp [hd])]

theorem length_words_cons (c : Char) (cs : List Char) :
    (words cs).length ≤ (words (c :: cs)).length := by
  rw [words]
  split
  · exact Nat.le_refl _
  · unfold putBefore
    split
    · next same => split <;> simp [same]
    · simp

/-- There are no more words in the end of a text than in the whole. -/
theorem length_words_of_suffix {cs ds : List Char} (suffix : cs <:+ ds) :
    (words cs).length ≤ (words ds).length := by
  induction ds with
  | nil => rw [List.suffix_nil.1 suffix]
  | cons d ds ih =>
    rcases List.suffix_cons_iff.1 suffix with rfl | suffix
    · exact Nat.le_refl _
    · exact (ih suffix).trans (length_words_cons d ds)

theorem isBlank_of_words_eq_nil {c : Char} {cs : List Char} (none : words (c :: cs) = []) :
    isBlank c = true := by
  by_contra solid
  rw [words, if_neg solid] at none
  unfold putBefore at none
  split at none
  · split at none <;> cases none
  · cases none

/-- A blank parts the words. -/
theorem words_append_blank {c : Char} (blank : isBlank c = true) (after : List Char) :
    ∀ before : List Char, words (before ++ c :: after) = words before ++ words after
  | [] => by simp [words, blank]
  | d :: before => by
    rw [List.cons_append, words, words, words_append_blank blank after before]
    split
    · rfl
    · match before with
      | [] => cases words after <;> simp [putBefore, blank, words]
      | e :: before =>
        rw [List.cons_append]
        rcases none : words (e :: before) with _ | ⟨w, ws⟩
        · have blank' := isBlank_of_words_eq_nil none
          cases words after <;> simp [putBefore, blank']
        · simp only [putBefore, List.cons_append]
          split <;> rfl

theorem flatten_putBefore (c : Char) (cs : List Char) (ws : List (List Char)) :
    (putBefore c cs ws).flatten = c :: ws.flatten := by
  unfold putBefore
  split
  · split <;> rfl
  · rfl

/-- The words are made of all that is not blank. -/
theorem flatten_words : ∀ cs : List Char, (words cs).flatten = cs.filter (!isBlank ·)
  | [] => rfl
  | c :: cs => by
    rw [words, List.filter_cons]
    split
    · next blank => rw [flatten_words cs, if_neg (by simp [blank])]
    · next solid => rw [flatten_putBefore, flatten_words cs, if_pos (by simp [solid])]

theorem mem_putBefore {c : Char} {cs w : List Char} {ws : List (List Char)}
    (mem : w ∈ putBefore c cs ws) : w ∈ ws ∨ ∃ v, w = c :: v := by
  unfold putBefore at mem
  split at mem
  · split at mem
    · exact (List.mem_cons.1 mem).symm.imp_right fun eq => ⟨[], eq⟩
    · rcases List.mem_cons.1 mem with rfl | mem
      · exact .inr ⟨_, rfl⟩
      · exact .inl (List.mem_cons_of_mem _ mem)
  · exact (List.mem_cons.1 mem).symm.imp_right fun eq => ⟨[], eq⟩

theorem ne_nil_of_mem_words : ∀ {cs w : List Char}, w ∈ words cs → w ≠ []
  | c :: cs, w, mem => by
    rw [words] at mem
    split at mem
    · exact ne_nil_of_mem_words mem
    · rcases mem_putBefore mem with mem | ⟨v, rfl⟩
      · exact ne_nil_of_mem_words mem
      · exact List.cons_ne_nil c v

theorem words_eq_nil : ∀ {cs : List Char}, (∀ c ∈ cs, isBlank c) → words cs = []
  | [], _ => rfl
  | c :: cs, blank => by
    rw [words, if_pos (blank c List.mem_cons_self),
      words_eq_nil fun d mem => blank d (List.mem_cons_of_mem _ mem)]

theorem words_append_blanks (cs : List Char) {after : List Char} (blank : ∀ c ∈ after, isBlank c) :
    words (cs ++ after) = words cs := by
  cases after with
  | nil => rw [List.append_nil]
  | cons c after =>
    rw [words_append_blank (blank c List.mem_cons_self),
      words_eq_nil fun d mem => blank d (List.mem_cons_of_mem _ mem), List.append_nil]

theorem words_trimStart : ∀ cs : List Char, words (trimStart cs) = words cs
  | [] => rfl
  | c :: cs => by
    rw [trimStart, List.dropWhile_cons, words]
    split
    · exact words_trimStart cs
    · next solid => rw [words, if_neg solid]

/-- The blanks at the ends of a text belong to no word. -/
theorem words_trim (cs : List Char) : words (trim cs) = words cs := by
  have ends : trim cs ++ (trimStart cs).rtakeWhile isBlank = trimStart cs :=
    List.rdropWhile_append_rtakeWhile
  rw [← words_trimStart cs, ← ends, words_append_blanks _ fun c mem => List.mem_rtakeWhile_imp mem]

/-- Words with a space between any two. -/
def line (ws : List (List Char)) : List Char :=
  [' '].intercalate ws

/-- What stands between blanks. -/
structure IsSolid (w : List Char) : Prop where
  present : w ≠ []
  solid : ∀ c ∈ w, isBlank c = false

theorem mem_of_mem_words {c : Char} {cs w : List Char} (mem : w ∈ words cs) (among : c ∈ w) :
    c ∈ cs ∧ isBlank c = false := by
  have kept : c ∈ (words cs).flatten := List.mem_flatten_of_mem mem among
  rw [flatten_words, List.mem_filter] at kept
  exact kept.imp_right (by simp)

theorem isSolid_of_mem_words {cs w : List Char} (mem : w ∈ words cs) : IsSolid w :=
  ⟨ne_nil_of_mem_words mem, fun _ among => (mem_of_mem_words mem among).2⟩

theorem line_cons_cons (w v : List Char) (ws : List (List Char)) :
    line (w :: v :: ws) = w ++ ' ' :: line (v :: ws) := by
  rw [line, List.intercalate_cons_cons, List.append_assoc]
  rfl

theorem line_singleton (w : List Char) : line [w] = w := by
  simp [line]

/-- A line is taken apart into the words that it was put together of. -/
theorem words_line : ∀ {ws : List (List Char)}, (∀ w ∈ ws, IsSolid w) → words (line ws) = ws
  | [], _ => rfl
  | [w], solid => by
    obtain ⟨present, solid⟩ := solid w List.mem_cons_self
    rw [line_singleton, words_eq_singleton present solid]
  | w :: v :: ws, solid => by
    obtain ⟨present, own⟩ := solid w List.mem_cons_self
    rw [line_cons_cons, words_append_blank rfl, words_eq_singleton present own,
      words_line fun u mem => solid u (List.mem_cons_of_mem _ mem)]
    rfl

theorem trimEnd_line : ∀ {ws : List (List Char)}, (∀ w ∈ ws, IsSolid w) →
    trimEnd (line ws) = line ws
  | [], _ => rfl
  | [w], solid => by
    rw [line_singleton, trimEnd_eq_rdropWhile]
    exact List.rdropWhile_eq_self_iff.2 fun _ => by
      simp [(solid w List.mem_cons_self).solid _ (List.getLast_mem _)]
  | w :: v :: ws, solid => by
    have rest := trimEnd_line fun u mem => solid u (List.mem_cons_of_mem w mem)
    have present : line (v :: ws) ≠ [] := by
      intro none
      have apart := words_line fun u mem => solid u (List.mem_cons_of_mem w mem)
      rw [none] at apart
      cases apart
    rw [line_cons_cons, List.append_cons, trimEnd_append (by rwa [rest]), rest]

theorem line_cons (w : List Char) : ∀ ws : List (List Char), ∃ rest, line (w :: ws) = w ++ rest
  | [] => ⟨[], by rw [line_singleton, List.append_nil]⟩
  | v :: ws => ⟨' ' :: line (v :: ws), line_cons_cons w v ws⟩

theorem head_line {ws : List (List Char)} (solid : ∀ w ∈ ws, IsSolid w) :
    ∀ c ∈ (line ws).head?, isBlank c = false := by
  match ws, solid with
  | [], _ => nofun
  | w :: ws, solid =>
    obtain ⟨present, own⟩ := solid w List.mem_cons_self
    obtain ⟨rest, eq⟩ := line_cons w ws
    obtain ⟨d, ds, rfl⟩ := List.exists_cons_of_ne_nil present
    rw [eq]
    rintro c ⟨⟩
    exact own d List.mem_cons_self

theorem trim_line {ws : List (List Char)} (solid : ∀ w ∈ ws, IsSolid w) :
    trim (line ws) = line ws := by
  have start : trimStart (line ws) = line ws := by
    have head := head_line solid
    generalize line ws = cs at head ⊢
    cases cs with
    | nil => rfl
    | cons c cs => rw [trimStart, List.dropWhile_cons_of_neg (by simp [head c rfl])]
  rw [trim, start, trimEnd_line solid]

theorem join_eq_line : ∀ ws : List (List Char), join [' '] ws = line ws
  | [] => rfl
  | [w] => (line_singleton w).symm
  | w :: v :: ws => by
    rw [join, join_eq_line (v :: ws), line_cons_cons, List.append_assoc]
    · rfl
    · exact nofun

theorem mem_line {c : Char} :
    ∀ {ws : List (List Char)}, c ∈ line ws → c = ' ' ∨ ∃ w ∈ ws, c ∈ w
  | [], mem => by cases mem
  | [w], mem => .inr ⟨w, List.mem_cons_self, by rwa [line_singleton] at mem⟩
  | w :: v :: ws, mem => by
    rw [line_cons_cons, List.mem_append, List.mem_cons] at mem
    rcases mem with mem | rfl | mem
    · exact .inr ⟨w, List.mem_cons_self, mem⟩
    · exact .inl rfl
    · exact (mem_line mem).imp_right fun ⟨u, among, mem⟩ => ⟨u, List.mem_cons_of_mem _ among, mem⟩

/-- There is no blank at either end of a text, and none next to another. -/
structure IsTidy (cs : List Char) : Prop where
  starts : ∀ c ∈ cs.head?, isBlank c = false
  ends : ∀ c ∈ cs.getLast?, isBlank c = false
  apart : cs.IsChain fun c d => isBlank c → isBlank d = false

theorem isChain_of_solid {w : List Char} (solid : ∀ c ∈ w, isBlank c = false) :
    w.IsChain fun c d => isBlank c → isBlank d = false := by
  refine (List.pairwise_of_forall_mem_list fun c mem d _ blank => ?_).isChain
  rw [solid c mem] at blank
  cases blank

theorem isChain_line : ∀ {ws : List (List Char)}, (∀ w ∈ ws, IsSolid w) →
    (line ws).IsChain fun c d => isBlank c → isBlank d = false
  | [], _ => .nil
  | [w], solid => by
    rw [line_singleton]
    exact isChain_of_solid (solid w List.mem_cons_self).solid
  | w :: v :: ws, solid => by
    have own := (solid w List.mem_cons_self).solid
    have others : ∀ u ∈ v :: ws, IsSolid u := fun u mem => solid u (List.mem_cons_of_mem w mem)
    rw [line_cons_cons, List.isChain_append, List.isChain_cons]
    refine ⟨isChain_of_solid own, ⟨fun d first _ => head_line others d first,
      isChain_line others⟩, fun c last d _ blank => ?_⟩
    rw [own c (List.mem_of_getLast? last)] at blank
    cases blank

theorem isTidy_line {ws : List (List Char)} (solid : ∀ w ∈ ws, IsSolid w) : IsTidy (line ws) where
  starts := head_line solid
  ends := by
    rw [← trim_line solid]
    exact getLast?_trim _
  apart := isChain_line solid

end TextAdventure.Text
