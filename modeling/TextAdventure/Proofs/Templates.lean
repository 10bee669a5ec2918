import Mathlib.Logic.Function.Basic
import TextAdventure.Interaction
import TextAdventure.Proofs.Replacing

/-!
# Messages made of templates

A template is made of letters and of slots, which are written as placeholders in it
(`Template.pieces`). The text for a slot may hold placeholders too, but they are none of the
template: filled all at once, every slot has its text and nothing else is changed
(`Template.filled`).

Interactions fill one kind of slots after another, and search what was put in before for the
placeholders of the next kind. The names of verbs can be no part of a placeholder
(`Template.apart_name`), but words for the subject can. So the words of a sentence are in the
message as they were said just if putting in the subject brings no placeholder for the object about
(`Interaction.fill_verbatim_iff`).
-/

namespace TextAdventure

open Text

namespace Template

/-- What a placeholder stands for. -/
inductive Slot where
  | verb | subject | object
deriving DecidableEq

namespace Slot

/-- A placeholder, without the brace that it begins with. -/
def label : Slot → List Char
  | verb => ['v', 'e', 'r', 'b', '\x7d']
  | subject => ['s', 'u', 'b', 'j', 'e', 'c', 't', '\x7d']
  | object => ['o', 'b', 'j', 'e', 'c', 't', '\x7d']

/-- The placeholder of a slot. -/
def mark (s : Slot) : List Char :=
  '\x7b' :: s.label

theorem notMem_label (s : Slot) : '\x7b' ∉ s.label := by
  cases s <;> decide

/-- A label ends with its closing brace. -/
theorem mem_of_suffix_label {s : Slot} {cs : List Char} (present : cs ≠ [])
    (suffix : cs <:+ s.label) : '\x7d' ∈ cs := by
  have last : cs.getLast present = '\x7d' := by
    rw [suffix.getLast present]
    cases s <;> rfl
  exact last ▸ List.getLast_mem present

theorem eq_of_label_prefix {s t : Slot} {cs : List Char} (start : s.label <+: t.label ++ cs) :
    s = t := by
  cases s <;> cases t <;> simp [label] at start ⊢

end Slot

/-- A piece of a template. -/
inductive Piece where
  | letter (c : Char)
  | slot (s : Slot)
deriving DecidableEq

/-- The slot that a template begins with, and what follows it. -/
def slot? (template : List Char) : Option (Slot × List Char) :=
  [Slot.verb, .subject, .object].findSome? fun s => (stripStart? s.mark template).map (s, ·)

theorem eq_append_of_slot? {template rest : List Char} {s : Slot}
    (found : slot? template = some (s, rest)) : template = s.mark ++ rest := by
  obtain ⟨t, -, there⟩ := List.exists_of_findSome?_eq_some found
  obtain ⟨_, strip, ⟨⟩⟩ := Option.map_eq_some_iff.1 there
  exact eq_append_of_stripStart? strip

theorem not_prefix_of_slot? {template : List Char} (none : slot? template = none) (s : Slot) :
    ¬ s.mark <+: template := by
  have among : s ∈ [Slot.verb, .subject, .object] := by cases s <;> decide
  have strip := Option.map_eq_none_iff.1 (List.findSome?_eq_none_iff.1 none s among)
  exact stripStart?_eq_none_iff.1 strip

/-- The piece that a template begins with, and what follows it: a slot if there is one. -/
def piece? (template : List Char) : Option (Piece × List Char) :=
  match slot? template, template with
  | some (s, rest), _ => some (.slot s, rest)
  | none, c :: cs => some (.letter c, cs)
  | none, [] => none

theorem eq_nil_of_piece? {template : List Char} (none : piece? template = none) :
    template = [] := by
  unfold piece? at none
  split at none
  · cases none
  · cases none
  · rfl

theorem piece?_cases {template rest : List Char} {p : Piece}
    (found : piece? template = some (p, rest)) :
    (∃ s, p = .slot s ∧ template = s.mark ++ rest) ∨
      ∃ c, p = .letter c ∧ template = c :: rest ∧ ∀ s : Slot, ¬ s.mark <+: template := by
  unfold piece? at found
  split at found
  · next s _ slot =>
    cases found
    exact .inl ⟨s, rfl, eq_append_of_slot? slot⟩
  · next c cs none =>
    cases found
    exact .inr ⟨c, rfl, rfl, not_prefix_of_slot? none⟩
  · cases found

theorem length_lt_of_piece? {template rest : List Char} {p : Piece}
    (found : piece? template = some (p, rest)) : rest.length < template.length := by
  rcases piece?_cases found with ⟨s, -, rfl⟩ | ⟨c, -, rfl, -⟩
  · rw [List.length_append, Slot.mark, List.length_cons]
    omega
  · exact Nat.lt_succ_self _

/-- The letters and slots of a template, from left to right. -/
def pieces (template : List Char) : List Piece :=
  match _ : piece? template with
  | some (p, rest) => p :: pieces rest
  | none => []
termination_by template.length
decreasing_by exact length_lt_of_piece? ‹_›

/-- The text of pieces, with a text in each slot. -/
def filled (texts : Slot → List Char) (ps : List Piece) : List Char :=
  ps.flatMap fun
    | .letter c => [c]
    | .slot s => texts s

/-- The texts for the slots of a message. -/
def texts (verb : Verb) (subject object : String) : Slot → List Char
  | .verb => verb.name.toList
  | .subject => subject.toList
  | .object => object.toList

/-- Every placeholder in the text is that of a slot: no letter begins one. -/
def Complete : List Piece → Prop
  | [] => True
  | .letter c :: ps => (∀ s : Slot, ¬ s.mark <+: c :: filled Slot.mark ps) ∧ Complete ps
  | .slot _ :: ps => Complete ps

theorem filled_letter (texts : Slot → List Char) (c : Char) (ps : List Piece) :
    filled texts (.letter c :: ps) = c :: filled texts ps := rfl

theorem filled_slot (texts : Slot → List Char) (s : Slot) (ps : List Piece) :
    filled texts (.slot s :: ps) = texts s ++ filled texts ps := rfl

theorem filled_pieces (template : List Char) :
    filled Slot.mark (pieces template) = template := by
  fun_induction pieces template with
  | case1 template p rest found ih =>
    rcases piece?_cases found with ⟨s, rfl, rfl⟩ | ⟨c, rfl, rfl, -⟩
    · rw [filled_slot, ih]
    · rw [filled_letter, ih]
  | case2 template none => exact (eq_nil_of_piece? none).symm

theorem complete_pieces (template : List Char) : Complete (pieces template) := by
  fun_induction pieces template with
  | case1 template p rest found ih =>
    rcases piece?_cases found with ⟨s, rfl, -⟩ | ⟨c, rfl, rfl, letter⟩
    · exact ih
    · refine ⟨fun s => ?_, ih⟩
      rw [filled_pieces]
      exact letter s
  | case2 template none => trivial

/-! ## Filling one kind of slots -/

/-- The text of pieces with gaps for the slots of one kind, and a text in each other slot. -/
def gapped (s : Slot) (texts : Slot → List Char) (ps : List Piece) : List (Option Char) :=
  ps.flatMap fun
    | .letter c => [some c]
    | .slot t => if t = s then [none] else (texts t).map some

theorem close_map_some (filling cs : List Char) (g : List (Option Char)) :
    close filling (cs.map some ++ g) = cs ++ close filling g := by
  simp [close, List.flatMap_append, List.flatMap_map]

theorem gapped_letter (s : Slot) (texts : Slot → List Char) (c : Char) (ps : List Piece) :
    gapped s texts (.letter c :: ps) = some c :: gapped s texts ps := rfl

theorem gapped_slot (s : Slot) (texts : Slot → List Char) (ps : List Piece) :
    gapped s texts (.slot s :: ps) = none :: gapped s texts ps := by
  simp [gapped]

theorem gapped_other {s t : Slot} (other : t ≠ s) (texts : Slot → List Char) (ps : List Piece) :
    gapped s texts (.slot t :: ps) = (texts t).map some ++ gapped s texts ps := by
  simp [gapped, other]

theorem close_gapped (filling : List Char) (s : Slot) (texts : Slot → List Char) :
    ∀ ps, close filling (gapped s texts ps) = filled (Function.update texts s filling) ps
  | [] => rfl
  | .letter c :: ps => by
    rw [gapped_letter, close_char, close_gapped filling s texts ps, filled_letter]
  | .slot t :: ps => by
    rw [filled_slot]
    by_cases same : t = s
    · subst same
      rw [gapped_slot, close_gap, close_gapped filling t texts ps, Function.update_self]
    · rw [gapped_other same, close_map_some, close_gapped filling s texts ps,
        Function.update_of_ne same]

theorem count_gapped (s : Slot) (texts : Slot → List Char) :
    ∀ ps, (gapped s texts ps).count none = ps.count (.slot s)
  | [] => rfl
  | .letter c :: ps => by
    rw [gapped_letter, List.count_cons_of_ne (by simp), List.count_cons_of_ne (by simp),
      count_gapped s texts ps]
  | .slot t :: ps => by
    by_cases same : t = s
    · subst same
      rw [gapped_slot, List.count_cons_self, List.count_cons_self, count_gapped t texts ps]
    · have none : ((texts t).map some).count none = 0 := List.count_eq_zero.2 (by simp)
      rw [gapped_other same, List.count_append, none, Nat.zero_add, count_gapped s texts ps,
        List.count_cons_of_ne (by simpa using same)]

/-- A text that can be no part of a placeholder. -/
structure Apart (text : List Char) : Prop where
  noStart : '\x7b' ∉ text
  noEnd : '\x7d' ∉ text
  within : ∀ s : Slot, ¬ text <:+: s.label

theorem apart_name (verb : Verb) : Apart verb.name.toList where
  noStart := by cases verb <;> decide
  noEnd := by cases verb <;> decide
  within s := by cases verb <;> cases s <;> decide

section

variable {texts : Slot → List Char} (plain : ∀ t, texts t = t.mark ∨ Apart (texts t))
include plain

/-- What a placeholder goes on with is no text but in the template itself. -/
theorem prefix_filled {s : Slot} :
    ∀ {cs : List Char} {ps : List Piece}, cs <:+ s.label → cs <+: filled texts ps →
      cs <+: filled Slot.mark ps
  | [], _, _, _ => List.nil_prefix
  | c :: cs, [], _, start => absurd (List.prefix_nil.1 start) (by simp)
  | c :: cs, .letter d :: ps, suffix, start => by
    rw [filled_letter, List.cons_prefix_cons] at start ⊢
    exact ⟨start.1, prefix_filled ((List.suffix_cons c cs).trans suffix) start.2⟩
  | c :: cs, .slot t :: ps, suffix, start => by
    rw [filled_slot] at start
    rcases plain t with mark | apart
    · rw [mark, Slot.mark, List.cons_append, List.cons_prefix_cons] at start
      exact absurd (suffix.subset (start.1 ▸ List.mem_cons_self)) s.notMem_label
    · have own : texts t <+: texts t ++ filled texts ps := List.prefix_append _ _
      rcases List.prefix_or_prefix_of_prefix start own with inside | around
      · have ends := Slot.mem_of_suffix_label (List.cons_ne_nil c cs) suffix
        exact absurd (inside.subset ends) apart.noEnd
      · exact absurd (around.isInfix.trans suffix.isInfix) (apart.within s)

theorem clear_gapped {s : Slot} (own : texts s = s.mark) :
    ∀ {ps : List Piece}, Complete ps → Clear s.mark (gapped s texts ps)
  | [], _ => trivial
  | .letter c :: ps, ⟨first, complete⟩ => by
    rw [gapped_letter]
    refine ⟨fun start => ?_, clear_gapped own complete⟩
    have same : close s.mark (gapped s texts ps) = filled texts ps := by
      rw [close_gapped, ← own, Function.update_eq_self]
    rw [same, Slot.mark, List.cons_prefix_cons] at start
    refine first s (List.cons_prefix_cons.2 ⟨start.1, ?_⟩)
    exact prefix_filled plain List.suffix_rfl start.2
  | .slot t :: ps, complete => by
    have rest : Clear s.mark (gapped s texts ps) := clear_gapped own complete
    by_cases same : t = s
    · subst same
      rw [gapped_slot]
      exact rest
    rw [gapped_other same]
    rcases plain t with mark | apart
    · rw [mark]
      show Clear s.mark (some '\x7b' :: (t.label.map some ++ gapped s texts ps))
      refine ⟨fun start => ?_, (clear_append_of_notMem t.notMem_label).2 rest⟩
      rw [close_map_some, Slot.mark, List.cons_prefix_cons] at start
      exact same (Slot.eq_of_label_prefix start.2).symm
    · exact (clear_append_of_notMem apart.noStart).2 rest

/-- Replacing a placeholder fills the slots of its kind, where only names of verbs were put in
before. -/
theorem replaceAll_filled (s : Slot) (own : texts s = s.mark) {ps : List Piece}
    (complete : Complete ps) (filling : List Char) :
    replaceAll s.mark filling (filled texts ps) = filled (Function.update texts s filling) ps := by
  have closed := replaceAll_close filling (clear_gapped plain own complete)
  rwa [close_gapped, close_gapped, ← Slot.mark, ← own, Function.update_eq_self, own] at closed

end

/-- A template has as many slots of a kind as placeholders for it. -/
theorem count_pieces (template : List Char) (s : Slot) :
    (pieces template).count (.slot s) = occurrences s.mark template := by
  have plain : ∀ t : Slot, t.mark = t.mark ∨ Apart t.mark := fun _ => .inl rfl
  have clear : Clear s.mark (gapped s Slot.mark (pieces template)) :=
    clear_gapped plain rfl (complete_pieces template)
  have count := (count_none_le s.notMem_label _).2.2 clear
  rw [close_gapped, ← Slot.mark, Function.update_eq_self, filled_pieces, count_gapped] at count
  exact count.symm

end Template

namespace Interaction

open Template

/-- The verb and the subject are filled in as they should be, and the object after that. -/
theorem fill_eq (i : Interaction) (template subject object : String) :
    (i.fill template subject object).toList
      = replaceAll Slot.object.mark object.toList
          (filled (texts i.verb subject "\x7bobject\x7d") (pieces template.toList)) := by
  let named := Function.update Slot.mark .verb i.verb.name.toList
  have plain (t : Slot) : named t = t.mark ∨ Apart (named t) := by
    cases t
    · exact .inr (apart_name i.verb)
    · exact .inl rfl
    · exact .inl rfl
  have complete := complete_pieces template.toList
  have verbs := replaceAll_filled (fun _ => .inl rfl) .verb rfl complete i.verb.name.toList
  have subjects := replaceAll_filled plain .subject rfl complete subject.toList
  have same : Function.update named .subject subject.toList
      = texts i.verb subject "\x7bobject\x7d" := by
    funext t
    cases t <;> rfl
  rw [filled_pieces] at verbs
  rw [same, ← verbs] at subjects
  rw [← subjects]
  exact String.toList_ofList

theorem update_texts (verb : Verb) (subject object : String) :
    Function.update (texts verb subject "\x7bobject\x7d") .object object.toList
      = texts verb subject object := by
  funext t
  cases t <;> rfl

/-- A template is made of its pieces, and their slots are all its placeholders. Its message has the
words for all of them at once, and is not changed where these words look like placeholders, just if
the object is its own placeholder or the verb and the subject bring no other one about. -/
theorem fill_verbatim_iff (i : Interaction) (template subject object : String) :
    filled Slot.mark (pieces template.toList) = template.toList
    ∧ (∀ s : Slot, (pieces template.toList).count (.slot s) = occurrences s.mark template.toList)
    ∧ ((i.fill template subject object).toList
          = filled (texts i.verb subject object) (pieces template.toList)
        ↔ object = "\x7bobject\x7d"
          ∨ occurrences Slot.object.mark
              (filled (texts i.verb subject "\x7bobject\x7d") (pieces template.toList))
            = occurrences Slot.object.mark template.toList) := by
  refine ⟨filled_pieces _, count_pieces _, ?_⟩
  have own : texts i.verb subject "\x7bobject\x7d" .object = Slot.object.mark := rfl
  have gaps (filling : List Char) := close_gapped filling .object
    (texts i.verb subject "\x7bobject\x7d") (pieces template.toList)
  have filled_iff := replaceAll_close_iff Slot.object.notMem_label object.toList
    (gapped .object (texts i.verb subject "\x7bobject\x7d") (pieces template.toList))
  rw [gaps, gaps, ← Slot.mark, ← own, Function.update_eq_self, update_texts, own, count_gapped,
    count_pieces] at filled_iff
  rw [fill_eq, filled_iff, ← String.toList_inj]
  rfl

/-- A message has the words as they were said if its subject and the letters of its template have no
brace that opens. -/
theorem fill_verbatim (i : Interaction) {template subject : String} (object : String)
    (said : '\x7b' ∉ subject.toList)
    (plain : Piece.letter '\x7b' ∉ pieces template.toList) :
    (i.fill template subject object).toList
      = filled (texts i.verb subject object) (pieces template.toList) := by
  have clear : Clear Slot.object.mark
      (gapped .object (texts i.verb subject "\x7bobject\x7d") (pieces template.toList)) := by
    refine clear_of_notMem fun mem => ?_
    obtain ⟨piece, among, mem⟩ := List.mem_flatMap.1 mem
    match piece with
    | .letter c =>
      obtain rfl : '\x7b' = c := by simpa using mem
      exact plain among
    | .slot .verb => exact (apart_name i.verb).noStart (by simpa [texts] using mem)
    | .slot .subject => exact said (by simpa [texts] using mem)
    | .slot .object => simp at mem
  have own : texts i.verb subject "\x7bobject\x7d" .object = Slot.object.mark := rfl
  have closed := replaceAll_close object.toList clear
  rwa [close_gapped, close_gapped, ← Slot.mark, ← own, Function.update_eq_self, update_texts, own,
    ← fill_eq] at closed

/-- A player who asks for what is a placeholder is not told what was asked for. -/
theorem subject_searched :
    let i : Interaction := { verb := .take }
    let bare : World := { id := "cottage", start := "hall" }
    i.simple (.start "player" "cottage" "hall") bare "\x7bobject\x7d" = .say "There is no  here."
      ∧ i.fill i.missing "\x7bobject\x7d" "" = "There is no  here."
      ∧ String.ofList (filled (texts .take "\x7bobject\x7d" "") (pieces i.missing.toList))
          = "There is no \x7bobject\x7d here." := by
  intro i bare
  have heard : Text.normal "\x7bobject\x7d" = "\x7bobject\x7d" := by decide +kernel
  have nothing (word : String) :
      bare.candidates (.start "player" "cottage" "hall") word = [] := by
    unfold World.candidates
    dsimp only
    split <;> rfl
  have searched : i.fill i.missing "\x7bobject\x7d" "" = "There is no  here." := by
    decide +kernel
  refine ⟨?_, searched, by decide +kernel⟩
  rw [simple, applyWord, nothing, Word.said, heard, ← searched]
  rfl

end Interaction

end TextAdventure
