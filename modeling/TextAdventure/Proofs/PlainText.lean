import TextAdventure.Proofs.Layouts
import TextAdventure.Proofs.SpeechTags

/-!
# What plain text tells

A message as plain text has no markup, and single spaces between its words, so making it plain again
changes nothing. It tells what the message tells outside of its elements, up to the first `<` that
is never closed (`told_toPlain`): what follows that one is taken for an element without an end. So
all narration is kept just if nothing is told after such a bracket (`narration_kept_iff`,
`narration_lost`). A message that is finished has none, since its closing tag closes all that were
left (`narration_kept_finalize`).
-/

namespace TextAdventure.Markup

open Text

/-- The characters of a text that tell something. -/
def told (cs : List Char) : List Char :=
  cs.filter fun c => !isBlank c && c != '<'

theorem suffix_of_notMem {mark : Char} {ending before after : List Char}
    (suffix : ending <:+ before ++ mark :: after) (notMem : mark ∉ ending) : ending <:+ after := by
  have other : mark :: after <:+ before ++ mark :: after := List.suffix_append _ _
  rcases List.suffix_or_suffix_of_suffix suffix other with within | around
  · refine (List.suffix_cons_iff.1 within).resolve_left ?_
    rintro rfl
    exact notMem List.mem_cons_self
  · exact absurd (around.subset List.mem_cons_self) notMem

namespace Layout

/-- All elements of the whole text are in the layout, whatever their names: each `<` outside of them
is never closed. -/
def Complete : Layout → Prop
  | last text => ∀ after, '<' :: after <:+ text → '>' ∉ after
  | element text inside rest => '<' ∉ text ∧ '>' ∉ inside ∧ rest.Complete

/-- What stands outside of the elements before the first `<` that is never closed. -/
def shown : Layout → List Char
  | last text => text.takeWhile (· ≠ '<')
  | element text _ rest => text ++ rest.shown

/-- What stands outside of the elements from the first `<` on that is never closed. -/
def hidden : Layout → List Char
  | last text => text.dropWhile (· ≠ '<')
  | element _ _ rest => rest.hidden

theorem shown_append_hidden : ∀ layout : Layout, layout.shown ++ layout.hidden = layout.kept
  | last _ => List.takeWhile_append_dropWhile
  | element text _ rest => by
    rw [shown, hidden, kept, List.append_assoc, shown_append_hidden rest]

theorem complete_push {c : Char} (other : c ≠ '<') {layout : Layout} (complete : layout.Complete) :
    (layout.push c).Complete := by
  cases layout with
  | last text =>
    intro after suffix
    refine complete after ((List.suffix_cons_iff.1 suffix).resolve_left ?_)
    rintro ⟨⟩
    exact other rfl
  | element text inside rest =>
    obtain ⟨plain, others⟩ := complete
    exact ⟨by simpa [Ne.symm other] using plain, others⟩

theorem exists_complete (text : List Char) :
    ∃ layout : Layout, layout.whole = text ∧ layout.Complete := by
  match text with
  | [] => exact ⟨last [], rfl, by simp [Complete]⟩
  | c :: cs =>
    by_cases opens : c = '<' ∧ '>' ∈ cs
    · obtain ⟨rfl, closed⟩ := opens
      obtain ⟨p, hcut⟩ := Option.ne_none_iff_exists'.1 fun none => cut?_eq_none_iff.1 none closed
      have split := eq_append_of_cut? hcut
      have shorter : cs.length = p.1.length + (p.2.length + 1) := by
        simpa using congrArg List.length split
      obtain ⟨rest, whole, complete⟩ := exists_complete p.2
      refine ⟨element [] p.1 rest, ?_, List.not_mem_nil, notMem_of_cut? hcut, complete⟩
      rw [Layout.whole, whole, ← split, List.nil_append]
    by_cases bracket : c = '<'
    · -- nothing closes it, nor any that follows
      subst bracket
      refine ⟨last ('<' :: cs), rfl, fun after suffix closed => opens ⟨rfl, ?_⟩⟩
      simpa using suffix.subset (List.mem_cons_of_mem _ closed)
    · obtain ⟨layout, rfl, complete⟩ := exists_complete cs
      exact ⟨layout.push c, whole_push c layout, complete_push bracket complete⟩
termination_by text.length

theorem eq_of_complete : ∀ {layout other : Layout}, layout.Complete → other.Complete →
    layout.whole = other.whole → layout = other
  | last text, last text', _, _, same => congrArg last same
  | last text, element text' inside' rest', unclosed, _, same => by
    have text_eq : text = text' ++ '<' :: (inside' ++ '>' :: rest'.whole) := same
    exact absurd (unclosed _ (text_eq ▸ List.suffix_append _ _)) (by simp)
  | element text inside rest, last text', _, unclosed, same => by
    have text_eq : text' = text ++ '<' :: (inside ++ '>' :: rest.whole) := same.symm
    exact absurd (unclosed _ (text_eq ▸ List.suffix_append _ _)) (by simp)
  | element text inside rest, element text' inside' rest', ⟨plain, within, complete⟩,
      ⟨plain', within', complete'⟩, same => by
    have opened := congrArg (cut? '<') same
    rw [whole, whole, cut?_append_of_notMem plain, cut?_append_of_notMem plain'] at opened
    obtain ⟨rfl, same_inside⟩ := Prod.mk.inj (Option.some.inj opened)
    have closed := congrArg (cut? '>') same_inside
    rw [cut?_append_of_notMem within, cut?_append_of_notMem within'] at closed
    obtain ⟨rfl, same_rest⟩ := Prod.mk.inj (Option.some.inj closed)
    rw [eq_of_complete complete complete' same_rest]

/-! ## Brackets that are never closed -/

theorem suffix_dropWhile {after : List Char} :
    ∀ {text : List Char}, '<' :: after <:+ text → '<' :: after <:+ text.dropWhile (· ≠ '<')
  | [], suffix => suffix
  | c :: cs, suffix => by
    by_cases bracket : c = '<'
    · rwa [List.dropWhile_cons_of_neg (by simpa using bracket)]
    · rw [List.dropWhile_cons_of_pos (by simpa using bracket)]
      refine suffix_dropWhile ((List.suffix_cons_iff.1 suffix).resolve_left ?_)
      rintro ⟨⟩
      exact bracket rfl

theorem suffix_hidden {after : List Char} (unclosed : '>' ∉ after) :
    ∀ {layout : Layout}, '<' :: after <:+ layout.whole → '<' :: after <:+ layout.hidden
  | last _, suffix => suffix_dropWhile suffix
  | element text inside rest, suffix => by
    have whole_eq : (element text inside rest).whole
        = (text ++ '<' :: inside) ++ '>' :: rest.whole := by
      rw [whole, List.append_assoc, List.cons_append]
    have unclosed' : '>' ∉ '<' :: after := by simpa using unclosed
    rw [whole_eq] at suffix
    rw [hidden]
    exact suffix_hidden unclosed (suffix_of_notMem suffix unclosed')

theorem hidden_suffix : ∀ layout : Layout, layout.hidden <:+ layout.whole
  | last _ => List.dropWhile_suffix _
  | element text inside rest => by
    refine (hidden_suffix rest).trans ⟨text ++ '<' :: (inside ++ ['>']), ?_⟩
    simp [whole]

theorem hidden_cases {layout : Layout} (complete : layout.Complete) :
    layout.hidden = [] ∨ ∃ after, layout.hidden = '<' :: after ∧ '>' ∉ after := by
  induction layout with
  | last text =>
    rw [hidden]
    rcases left : text.dropWhile (· ≠ '<') with _ | ⟨c, after⟩
    · exact .inl rfl
    · have bracket : c = '<' := by
        have stopped := stops_dropWhile (· ≠ '<') text c (by rw [left]; rfl)
        simpa using stopped
      subst bracket
      exact .inr ⟨after, rfl, complete after (left ▸ List.dropWhile_suffix _)⟩
  | element text inside rest ih => exact ih complete.2.2

/-- Nothing that is told is hidden just if nothing is told after a bracket that is never closed. -/
theorem told_hidden_eq_nil_iff {layout : Layout} (complete : layout.Complete) :
    told layout.hidden = [] ↔
      ∀ after, '<' :: after <:+ layout.whole → '>' ∉ after → told after = [] := by
  constructor
  · intro none after suffix unclosed
    have within : after <:+ layout.hidden :=
      (List.suffix_cons '<' after).trans (suffix_hidden unclosed suffix)
    have fewer : (told after).Sublist (told layout.hidden) := within.sublist.filter _
    rw [none] at fewer
    exact List.sublist_nil.1 fewer
  · intro silent
    rcases hidden_cases complete with none | ⟨after, eq, unclosed⟩
    · rw [none]
      rfl
    · have suffix := layout.hidden_suffix
      rw [eq] at suffix ⊢
      exact silent after suffix unclosed

end Layout

/-! ## Plain text -/

theorem outside_append {text : List Char} (plain : '<' ∉ text) (cs : List Char) :
    outside false (text ++ cs) = text ++ outside false cs := by
  induction text with
  | nil => rfl
  | cons c text ih =>
    rw [List.mem_cons, not_or] at plain
    rw [List.cons_append, outside, if_neg (Ne.symm plain.1), if_neg (by simp), ih plain.2]
    rfl

theorem outside_within {inside : List Char} (within : '>' ∉ inside) (cs : List Char) :
    outside true (inside ++ '>' :: cs) = ' ' :: outside false cs := by
  induction inside with
  | nil => rfl
  | cons c inside ih =>
    rw [List.mem_cons, not_or] at within
    rw [List.cons_append, outside, if_pos rfl, if_neg (Ne.symm within.1), ih within.2, ite_self]

theorem outside_unclosed {cs : List Char} (unclosed : '>' ∉ cs) : outside true cs = [] := by
  induction cs with
  | nil => rfl
  | cons c cs ih =>
    rw [List.mem_cons, not_or] at unclosed
    rw [outside, if_pos rfl, if_neg (Ne.symm unclosed.1), ih unclosed.2, ite_self]

theorem notMem_outside : ∀ (within : Bool) (cs : List Char), '<' ∉ outside within cs
  | _, [] => List.not_mem_nil
  | within, c :: cs => by
    have rest := fun within => notMem_outside within cs
    rw [outside]
    split_ifs with bracket
    · exact rest true
    · simpa using rest false
    · exact rest true
    · simpa [Ne.symm bracket] using rest false

theorem told_outside : ∀ {layout : Layout}, layout.Complete →
    told (outside false layout.whole) = told layout.shown
  | .last text, complete => by
    have before : '<' ∉ text.takeWhile (· ≠ '<') := fun mem => by
      simpa using List.mem_takeWhile_imp mem
    have after : outside false (text.dropWhile (· ≠ '<')) = [] := by
      rcases Layout.hidden_cases complete with none | ⟨after, eq, unclosed⟩
      · rw [Layout.hidden] at none
        rw [none]
        rfl
      · rw [Layout.hidden] at eq
        rw [eq, outside, if_pos rfl, outside_unclosed unclosed]
    have parts := outside_append before (text.dropWhile (· ≠ '<'))
    rw [List.takeWhile_append_dropWhile, after, List.append_nil] at parts
    rw [Layout.whole, Layout.shown, parts]
  | .element text inside rest, ⟨plain, within, complete⟩ => by
    have others := told_outside complete
    unfold told at others ⊢
    rw [Layout.whole, Layout.shown, outside_append plain, outside, if_pos rfl,
      outside_within within, List.filter_append, List.filter_append, ← others,
      List.filter_cons_of_neg (by decide)]

theorem toList_toPlain (message : String) :
    (toPlain message).toList = line (words (outside false message.toList)) := by
  rw [toPlain, String.toList_ofList, join_eq_line]

theorem notMem_toPlain (message : String) : '<' ∉ (toPlain message).toList := by
  rw [toList_toPlain]
  intro mem
  rcases mem_line mem with space | ⟨w, among, mem⟩
  · exact absurd space (by decide)
  · exact notMem_outside false _ (mem_of_mem_words among mem).1

theorem isTidy_toPlain (message : String) : IsTidy (toPlain message).toList := by
  rw [toList_toPlain]
  exact isTidy_line fun _ mem => isSolid_of_mem_words mem

theorem toPlain_toPlain (message : String) : toPlain (toPlain message) = toPlain message := by
  have unmarked := outside_append (notMem_toPlain message) []
  rw [List.append_nil, outside, List.append_nil] at unmarked
  rw [← String.toList_inj, toList_toPlain, unmarked, toList_toPlain,
    words_line fun _ mem => isSolid_of_mem_words mem]

theorem told_line_words (cs : List Char) : told (line (words cs)) = told cs := by
  have solid : ∀ w ∈ words cs, IsSolid w := fun _ mem => isSolid_of_mem_words mem
  have parts : ∀ ds : List Char, told ds = (words ds).flatten.filter (· != '<') := fun ds => by
    rw [flatten_words, List.filter_filter, told]
    simp only [Bool.and_comm]
  rw [parts, words_line solid, parts]

/-- Plain text tells what is outside of all elements, up to a bracket that is never closed. -/
theorem told_toPlain {message : String} {layout : Layout} (whole : layout.whole = message.toList)
    (complete : layout.Complete) : told (toPlain message).toList = told layout.shown := by
  rw [toList_toPlain, told_line_words, ← whole, told_outside complete]

theorem told_kept (layout : Layout) :
    told layout.kept = told layout.shown ++ told layout.hidden := by
  rw [← layout.shown_append_hidden]
  exact List.filter_append _ _

theorem told_kept_sublist_iff {message : String} {layout : Layout}
    (whole : layout.whole = message.toList) (complete : layout.Complete) :
    (told layout.kept).Sublist (toPlain message).toList ↔ told layout.hidden = [] := by
  constructor
  · intro kept
    have again : told (told layout.kept) = told layout.kept := by simp [told]
    have fewer : (told (told layout.kept)).Sublist (told (toPlain message).toList) := kept.filter _
    have length := fewer.length_le
    rw [again, told_toPlain whole complete, told_kept, List.length_append] at length
    exact List.length_eq_zero_iff.1 (by omega)
  · intro none
    rw [told_kept, none, List.append_nil, ← told_toPlain whole complete]
    exact List.filter_sublist

/-- Plain text has no `<`, no blanks at its ends and no two in a row, and stays as it is when it is
made plain again. A message has one layout in all its elements, and plain text tells the beginning
of what is told outside of them. It tells all of it just if nothing is told after a `<` that is
never closed. -/
theorem narration_kept_iff (message : String) :
    '<' ∉ (toPlain message).toList ∧ IsTidy (toPlain message).toList
      ∧ toPlain (toPlain message) = toPlain message
      ∧ ∃ layout : Layout, layout.whole = message.toList ∧ layout.Complete
        ∧ (∀ other : Layout, other.whole = message.toList → other.Complete → other = layout)
        ∧ told (toPlain message).toList <+: told layout.kept
        ∧ ((told layout.kept).Sublist (toPlain message).toList ↔
            ∀ after, '<' :: after <:+ message.toList → '>' ∉ after → told after = []) := by
  obtain ⟨layout, whole, complete⟩ := Layout.exists_complete message.toList
  refine ⟨notMem_toPlain message, isTidy_toPlain message, toPlain_toPlain message, layout, whole,
    complete, fun other whole' complete' =>
      Layout.eq_of_complete complete' complete (whole'.trans whole.symm), ?_, ?_⟩
  · rw [told_toPlain whole complete, told_kept]
    exact List.prefix_append _ _
  · rw [told_kept_sublist_iff whole complete, ← whole]
    exact Layout.told_hidden_eq_nil_iff complete

/-- A bracket that is no markup takes the rest of the narration with it. -/
theorem narration_lost :
    (Layout.last "1 < 2".toList).Complete ∧ toPlain "1 < 2" = "1"
      ∧ told (Layout.last "1 < 2".toList).kept = ['1', '2']
      ∧ ¬ (told (Layout.last "1 < 2".toList).kept).Sublist (toPlain "1 < 2").toList := by
  refine ⟨fun after suffix closed => ?_, by decide +kernel, by decide +kernel, by decide +kernel⟩
  exact absurd (suffix.subset (List.mem_cons_of_mem _ closed)) (by decide)

/-- All that is told outside of the elements of a finished message is kept. -/
theorem narration_kept_finalize (tag message : String) {layout : Layout}
    (whole : layout.whole = (finalize tag message).toList) (complete : layout.Complete) :
    told (toPlain (finalize tag message)).toList = told layout.kept := by
  have none : told layout.hidden = [] := by
    rw [Layout.told_hidden_eq_nil_iff complete, whole]
    intro after suffix unclosed
    have ends : (finalize tag message).toList
        = ('<' :: tag.toList ++ '>' :: inner tag.toList message.toList ++ '<' :: '/' :: tag.toList)
          ++ ['>'] := by
      simp [toList_finalize, closing]
    rw [ends] at suffix
    exact absurd (suffix_of_notMem suffix (by simpa using unclosed)) (by simp)
  rw [told_toPlain whole complete, told_kept, none, List.append_nil]

end TextAdventure.Markup
