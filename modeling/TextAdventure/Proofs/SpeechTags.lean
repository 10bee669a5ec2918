import TextAdventure.Proofs.Blanks
import TextAdventure.Proofs.Elements

/-!
# When a message is finished

A message is finalized so that it can be finalized again without a change. That comes about if
what one pass keeps of it is finished (`finalize_settles_iff`): no `<` of it opens an element of the
tag, and none is left open for the closing tag to close. It does come about if the brackets of the
message pair up (`finalize_again_of_paired`), but not always (`finalize_unsettled`): the pass does
not go back to where an element was taken out of the middle of another, and it does not look at
brackets that are never closed.
-/

namespace TextAdventure.Markup

open Text

/-- The name of a tag: not empty, and without characters that end it or have a meaning of their
own. -/
structure IsName (tag : List Char) : Prop where
  nonempty : tag ≠ []
  blank : ∀ c ∈ tag, isBlank c = false
  opening : '<' ∉ tag
  closing : '>' ∉ tag
  slash : '/' ∉ tag

/-- The closing tag. -/
def closing (tag : List Char) : List Char :=
  '<' :: '/' :: tag ++ ['>']

/-- A `<` of a text is not closed in it, and the closing tag would close it as an element of the
tag. -/
def LeavesOpen (tag text : List Char) : Prop :=
  ∃ before after, text = before ++ '<' :: after ∧ '>' ∉ after ∧
    isTag tag (after ++ '<' :: '/' :: tag)

/-- Nothing is left to be removed of a text, also once the closing tag follows it. -/
def Finished (tag text : List Char) : Prop :=
  FreeOf tag text ∧ ¬ LeavesOpen tag text

variable {tag : List Char}

theorem leavesOpen_cons {c : Char} {cs : List Char} :
    LeavesOpen tag (c :: cs) ↔
      (c = '<' ∧ '>' ∉ cs ∧ isTag tag (cs ++ '<' :: '/' :: tag)) ∨ LeavesOpen tag cs := by
  constructor
  · rintro ⟨before, after, h, notMem, htag⟩
    cases before with
    | nil =>
      cases h
      exact .inl ⟨rfl, notMem, htag⟩
    | cons b before =>
      cases h
      exact .inr ⟨before, after, rfl, notMem, htag⟩
  · rintro (⟨rfl, notMem, htag⟩ | ⟨before, after, rfl, notMem, htag⟩)
    · exact ⟨[], cs, rfl, notMem, htag⟩
    · exact ⟨c :: before, after, rfl, notMem, htag⟩

theorem finished_nil : Finished tag [] := by
  refine ⟨freeOf_nil tag, ?_⟩
  rintro ⟨before, after, h, -⟩
  simp at h

/-! ## Before the closing tag -/

section Closing

variable (name : IsName tag)

include name

theorem isTag_slashes (slashes : List Char) (h : ∀ c ∈ slashes, c = '/') :
    isTag tag (slashes ++ tag) := by
  have plain : ∀ c ∈ slashes ++ tag, isBlank c = false := by
    intro c mem
    rcases List.mem_append.1 mem with mem | mem
    · rw [h c mem]
      rfl
    · exact name.blank c mem
  have start : (slashes ++ tag).dropWhile (· == '/') = tag := by
    rw [List.dropWhile_append_of_pos (by simpa using h)]
    exact List.dropWhile_eq_self_iff.2 fun pos => by
      simpa using fun eq : tag[0] = '/' => name.slash (eq ▸ List.getElem_mem pos)
  have finish : (tag.reverse.dropWhile (· == '/')).reverse = tag :=
    List.rdropWhile_eq_self_iff.2 fun ne => by
      simpa using fun eq : tag.getLast ne = '/' => name.slash (eq ▸ List.getLast_mem ne)
  unfold isTag elementName
  rw [trim_eq_self plain]
  dsimp only
  rw [start, finish, words_eq_singleton name.nonempty name.blank]
  exact beq_self_eq_true _

theorem stripTag_opening (cs : List Char) :
    stripTag tag ('<' :: tag ++ '>' :: cs) = stripTag tag cs :=
  stripTag_of_opens (cut?_append_of_notMem name.closing cs) (isTag_slashes name [] (by simp))

theorem stripTag_closing : stripTag tag (closing tag) = [] := by
  have notMem : '>' ∉ '/' :: tag := by simpa using name.closing
  have removed : stripTag tag (closing tag) = stripTag tag [] :=
    stripTag_of_opens (cut?_append_of_notMem notMem []) (isTag_slashes name ['/'] (by simp))
  rw [removed, stripTag]

theorem cut?_append_closing {after : List Char} (notMem : '>' ∉ after) :
    cut? '>' (after ++ closing tag) = some (after ++ '<' :: '/' :: tag, []) := by
  have notMem' : '>' ∉ after ++ '<' :: '/' :: tag := by simp [notMem, name.closing]
  rw [← cut?_append_of_notMem notMem' [], closing, List.append_assoc]

/-- A bracket before the closing tag opens an element that ends in the text, or one that ends with
the closing tag. -/
theorem opensTag_append_closing {after : List Char} :
    OpensTag tag (after ++ closing tag) ↔
      OpensTag tag after ∨ ('>' ∉ after ∧ isTag tag (after ++ '<' :: '/' :: tag)) := by
  by_cases mem : '>' ∈ after
  · obtain ⟨p, hcut⟩ := Option.ne_none_iff_exists'.1 fun none => cut?_eq_none_iff.1 none mem
    rw [opensTag_iff (cut?_append_of_some hcut _), opensTag_iff hcut]
    simp [mem]
  · have hcut := cut?_append_closing name mem
    rw [opensTag_iff hcut]
    simp [mem, not_opensTag mem]

theorem finished_cons {c : Char} {cs : List Char} :
    Finished tag (c :: cs) ↔
      ¬ (c = '<' ∧ OpensTag tag (cs ++ closing tag)) ∧ Finished tag cs := by
  rw [Finished, Finished, freeOf_cons, leavesOpen_cons, opensTag_append_closing name]
  tauto

theorem stripTag_append_closing :
    ∀ {text : List Char}, Finished tag text → stripTag tag (text ++ closing tag) = text
  | [], _ => stripTag_closing name
  | c :: cs, h => by
    rw [finished_cons name] at h
    rw [List.cons_append, stripTag_cons h.1, stripTag_append_closing h.2]

/-- An element that is opened before the closing tag ends with it or before it. -/
theorem stripTag_opened {cs : List Char} (opens : OpensTag tag (cs ++ closing tag)) :
    stripTag tag ('<' :: cs ++ closing tag) = [] ∨
      ∃ rest, rest.length < cs.length ∧
        stripTag tag ('<' :: cs ++ closing tag) = stripTag tag (rest ++ closing tag) := by
  obtain ⟨element, rest, hcut, htag⟩ := opens
  rw [List.cons_append, stripTag_of_opens hcut htag]
  by_cases mem : '>' ∈ cs
  · obtain ⟨p, hp⟩ := Option.ne_none_iff_exists'.1 fun none => cut?_eq_none_iff.1 none mem
    rw [cut?_append_of_some hp] at hcut
    cases hcut
    have shorter : cs.length = p.1.length + (p.2.length + 1) := by
      simpa using congrArg List.length (eq_append_of_cut? hp)
    exact .inr ⟨p.2, by omega, rfl⟩
  · rw [cut?_append_closing name mem] at hcut
    cases hcut
    exact .inl (by rw [stripTag])

/-- The closing tag is removed, whatever comes before it. -/
theorem length_stripTag_append_closing_le (text : List Char) :
    (stripTag tag (text ++ closing tag)).length ≤ text.length := by
  match text with
  | [] => rw [List.nil_append, stripTag_closing name]
  | c :: cs =>
    by_cases opens : c = '<' ∧ OpensTag tag (cs ++ closing tag)
    · obtain ⟨rfl, opens⟩ := opens
      rcases stripTag_opened name opens with eq | ⟨rest, shorter, eq⟩
      · rw [eq]
        exact Nat.zero_le _
      · have ih := length_stripTag_append_closing_le rest
        rw [eq, List.length_cons]
        omega
    · have ih := length_stripTag_append_closing_le cs
      rw [List.cons_append, stripTag_cons opens, List.length_cons, List.length_cons]
      omega
termination_by text.length

/-- More than the closing tag is removed of what is not finished. -/
theorem length_stripTag_append_closing_lt :
    ∀ {text : List Char}, ¬ Finished tag text →
      (stripTag tag (text ++ closing tag)).length < text.length
  | [], h => absurd finished_nil h
  | c :: cs, h => by
    by_cases opens : c = '<' ∧ OpensTag tag (cs ++ closing tag)
    · obtain ⟨rfl, opens⟩ := opens
      rcases stripTag_opened name opens with eq | ⟨rest, shorter, eq⟩
      · rw [eq]
        exact Nat.zero_lt_succ _
      · have le := length_stripTag_append_closing_le name rest
        rw [eq, List.length_cons]
        omega
    · have unfinished : ¬ Finished tag cs := fun finished =>
        h ((finished_cons name).2 ⟨opens, finished⟩)
      have ih := length_stripTag_append_closing_lt unfinished
      rw [List.cons_append, stripTag_cons opens, List.length_cons, List.length_cons]
      omega

/-- What is kept of a message that was finished before is the same again if there was nothing left
to be removed, and less otherwise. -/
theorem inner_again_iff {text : List Char} (trimmed : trim text = text) :
    inner tag ('<' :: tag ++ '>' :: (text ++ closing tag)) = text ↔ Finished tag text := by
  rw [inner, stripTag_opening name]
  constructor
  · intro same
    by_contra unfinished
    have lt := length_stripTag_append_closing_lt name unfinished
    have le := length_trim_le (stripTag tag (text ++ closing tag))
    rw [same] at le
    omega
  · intro finished
    rw [stripTag_append_closing name finished, trimmed]

end Closing

theorem toList_finalize (tag message : String) :
    (finalize tag message).toList =
      '<' :: tag.toList ++ '>' :: (inner tag.toList message.toList ++ closing tag.toList) := by
  simp [finalize, closing]

theorem finalize_eq_iff {tag first second : String} :
    finalize tag first = finalize tag second ↔
      inner tag.toList first.toList = inner tag.toList second.toList := by
  constructor
  · intro same
    have lists := congrArg String.toList same
    rw [toList_finalize, toList_finalize] at lists
    simpa using lists
  · intro same
    rw [finalize, finalize, same]

theorem finalize_again_iff {tag : String} (name : IsName tag.toList) (message : String) :
    finalize tag (finalize tag message) = finalize tag message ↔
      Finished tag.toList (inner tag.toList message.toList) := by
  have trimmed : trim (inner tag.toList message.toList) = inner tag.toList message.toList :=
    trim_trim _
  rw [← inner_again_iff name trimmed, ← toList_finalize]
  exact finalize_eq_iff

/-- Finalizing a message again changes nothing, and nothing that is left in it is a tag, exactly
if what one pass keeps of it is finished: it has no new elements of the tag, where an element was
taken out of the middle of another, and no bracket that only the closing tag closes. -/
theorem finalize_settles_iff {tag : String} (name : IsName tag.toList) (message : String) :
    (finalize tag (finalize tag message) = finalize tag message ∧
        ∃ inside, finalize tag message = "<" ++ tag ++ ">" ++ inside ++ "</" ++ tag ++ ">" ∧
          FreeOf tag.toList inside.toList) ↔
      Finished tag.toList (inner tag.toList message.toList) := by
  rw [finalize_again_iff name]
  refine ⟨And.left, fun finished => ⟨finished, String.ofList (inner _ message.toList), rfl, ?_⟩⟩
  rw [String.toList_ofList]
  exact finished.1

theorem isName_speak : IsName "speak".toList where
  nonempty := by decide
  blank := by simp [isBlank]
  opening := by decide
  closing := by decide
  slash := by decide

theorem finalize_settles_iff_glued :
    (finalize "speak" (finalize "speak" "<spe<speak>ak>") = finalize "speak" "<spe<speak>ak>" ∧
        ∃ inside, finalize "speak" "<spe<speak>ak>"
            = "<" ++ "speak" ++ ">" ++ inside ++ "</" ++ "speak" ++ ">" ∧
          FreeOf "speak".toList inside.toList) ↔
      Finished "speak".toList (inner "speak".toList "<spe<speak>ak>".toList) :=
  finalize_settles_iff isName_speak "<spe<speak>ak>"

/-- One pass leaves a tag where it takes another out of its middle, and a bracket that is not
closed takes the closing tag with it in the next pass. -/
theorem finalize_unsettled :
    IsName "speak".toList ∧
      finalize "speak" (finalize "speak" "<spe<speak>ak>") ≠ finalize "speak" "<spe<speak>ak>" ∧
      finalize "speak" (finalize "speak" "<speak x") ≠ finalize "speak" "<speak x" :=
  ⟨isName_speak, by decide +kernel, by decide +kernel⟩

/-! ## Messages whose brackets pair up -/

/-- Every `<` of a text is closed before the next one. -/
inductive Paired : List Char → Prop where
  | nil : Paired []
  | text {c : Char} {cs : List Char} (h : c ≠ '<') (rest : Paired cs) : Paired (c :: cs)
  | element {element cs : List Char} (opening : '<' ∉ element) (closing : '>' ∉ element)
      (rest : Paired cs) : Paired ('<' :: (element ++ '>' :: cs))

/-- A `<` is closed in what follows it. -/
theorem Paired.closed {text : List Char} (h : Paired text) :
    ∀ {before after : List Char}, text = before ++ '<' :: after → '>' ∈ after := by
  induction h with
  | nil =>
    intro before after eq
    simp at eq
  | text ne _ ih =>
    intro before after eq
    cases before with
    | nil =>
      cases eq
      exact absurd rfl ne
    | cons b before =>
      cases eq
      exact ih rfl
  | @element element cs opening _ rest ih =>
    intro before after eq
    cases before with
    | nil =>
      cases eq
      simp
    | cons b before =>
      rw [List.cons_append] at eq
      have tail : element ++ '>' :: cs = before ++ '<' :: after := (List.cons.inj eq).2
      rcases List.append_eq_append_iff.1 tail with ⟨a, rfl, eq'⟩ | ⟨a, rfl, eq'⟩
      · cases a with
        | nil => simp at eq'
        | cons d a =>
          rw [List.cons_append] at eq'
          exact ih (List.cons.inj eq').2
      · cases a with
        | nil => simp at eq'
        | cons d a =>
          cases (List.cons.inj eq').1
          simp at opening

theorem Paired.stripTag {text : List Char} (h : Paired text) :
    Paired (stripTag tag text) ∧ FreeOf tag (Markup.stripTag tag text) := by
  induction h with
  | nil =>
    rw [Markup.stripTag]
    exact ⟨.nil, freeOf_nil tag⟩
  | text ne _ ih =>
    rw [stripTag_cons fun opens => ne opens.1]
    exact ⟨.text ne ih.1, freeOf_cons.2 ⟨fun opens => ne opens.1, ih.2⟩⟩
  | @element element cs opening closing rest ih =>
    have hcut := cut?_append_of_notMem closing cs
    by_cases htag : isTag tag element
    · rw [stripTag_of_opens hcut htag]
      exact ih
    · have other : ¬ OpensTag tag (element ++ '>' :: cs) := fun opens =>
        htag ((opensTag_iff hcut).1 opens)
      have other' : ¬ OpensTag tag (element ++ '>' :: Markup.stripTag tag cs) := fun opens =>
        htag ((opensTag_iff (cut?_append_of_notMem closing _)).1 opens)
      rw [stripTag_cons fun opens => other opens.2, stripTag_append_of_notMem opening,
        stripTag_cons (by simp)]
      exact ⟨.element opening closing ih.1, freeOf_cons.2 ⟨fun opens => other' opens.2,
        freeOf_append_of_notMem (freeOf_cons.2 ⟨by simp, ih.2⟩) opening⟩⟩

theorem finished_of_paired {message : List Char} (h : Paired message) :
    Finished tag (inner tag message) := by
  obtain ⟨paired, free⟩ : Paired (stripTag tag message) ∧ FreeOf tag (stripTag tag message) :=
    h.stripTag
  obtain ⟨before, after, eq, blank⟩ := eq_append_trim (stripTag tag message)
  refine ⟨.of_append (eq ▸ free), ?_⟩
  rintro ⟨b, a, kept, notMem, -⟩
  have kept' : trim (stripTag tag message) = b ++ '<' :: a := kept
  have eq' : stripTag tag message = (before ++ b) ++ '<' :: (a ++ after) := by
    rw [eq, kept']
    simp
  -- Only blank characters were trimmed off, so the `>` that closes the bracket is still there.
  rcases List.mem_append.1 (paired.closed eq') with mem | mem
  · exact notMem mem
  · exact absurd (blank '>' mem) (by decide)

/-- A message whose brackets pair up is finalized once and for all. -/
theorem finalize_again_of_paired {tag message : String} (name : IsName tag.toList)
    (h : Paired message.toList) : finalize tag (finalize tag message) = finalize tag message :=
  (finalize_again_iff name message).2 (finished_of_paired h)

end TextAdventure.Markup
