import TextAdventure.Proofs.Elements

/-!
# What taking elements out leaves

A text with elements in it can be laid out in them and the texts between which they stand
(`Layout`). Taking the elements of a tag out leaves these texts, if all the elements are of the tag
and no `<` in the texts opens one. Every text has such a layout, so nothing else is ever left
(`stripTag_eq_iff`).
-/

namespace TextAdventure.Markup

/-- A text in which elements stand: each of them after a text, and a text after them all. -/
inductive Layout where
  | last (text : List Char)
  | element (text inside : List Char) (rest : Layout)

namespace Layout

/-- The whole text, with the elements between their angle brackets. -/
def whole : Layout → List Char
  | last text => text
  | element text inside rest => text ++ '<' :: (inside ++ '>' :: rest.whole)

/-- The text without the elements. -/
def kept : Layout → List Char
  | last text => text
  | element text _ rest => text ++ rest.kept

/-- The elements are elements of the tag, and there are no others: no `<` outside of them opens one
in the whole text. -/
def Removes (tag : List Char) : Layout → Prop
  | last text => FreeOf tag text
  | element text inside rest =>
    FreeBefore tag ('<' :: (inside ++ '>' :: rest.whole)) text ∧ '>' ∉ inside ∧ isTag tag inside
      ∧ rest.Removes tag

/-- The layout with one character more in front. -/
def push (c : Char) : Layout → Layout
  | last text => last (c :: text)
  | element text inside rest => element (c :: text) inside rest

theorem whole_push (c : Char) (layout : Layout) : (layout.push c).whole = c :: layout.whole := by
  cases layout <;> rfl

variable {tag : List Char}

theorem removes_push {c : Char} {layout : Layout} :
    (layout.push c).Removes tag ↔ ¬ (c = '<' ∧ OpensTag tag layout.whole) ∧ layout.Removes tag := by
  cases layout with
  | last text => exact freeOf_cons
  | element text inside rest =>
    rw [push, Removes, Removes, freeBefore_cons, whole, and_assoc]

theorem stripTag_whole : ∀ {layout : Layout}, layout.Removes tag →
    stripTag tag layout.whole = layout.kept
  | last text, free => by
    have left := stripTag_append_of_freeBefore (freeBefore_empty.2 free)
    rw [List.append_nil] at left
    rw [whole, kept, left, stripTag, List.append_nil]
  | element text inside rest, ⟨free, closed, htag, others⟩ => by
    have cut := cut?_append_of_notMem closed rest.whole
    rw [whole, kept, stripTag_append_of_freeBefore free, stripTag_of_opens cut htag,
      stripTag_whole others]

theorem exists_removes (tag text : List Char) :
    ∃ layout : Layout, layout.whole = text ∧ layout.Removes tag := by
  match text with
  | [] => exact ⟨last [], rfl, freeOf_nil tag⟩
  | c :: cs =>
    by_cases opens : c = '<' ∧ OpensTag tag cs
    · obtain ⟨rfl, inside, after, hcut, htag⟩ := opens
      have split := eq_append_of_cut? hcut
      have shorter : cs.length = inside.length + (after.length + 1) := by
        simpa using congrArg List.length split
      obtain ⟨rest, rfl, others⟩ := exists_removes tag after
      exact ⟨element [] inside rest, congrArg ('<' :: ·) split.symm, freeBefore_nil tag _,
        notMem_of_cut? hcut, htag, others⟩
    · -- the character is kept, in front of the first text of the layout of the others
      obtain ⟨layout, rfl, others⟩ := exists_removes tag cs
      exact ⟨layout.push c, whole_push c layout, removes_push.2 ⟨opens, others⟩⟩
termination_by text.length

theorem length_kept_le : ∀ layout : Layout, layout.kept.length ≤ layout.whole.length
  | last _ => Nat.le_refl _
  | element text inside rest => by
    have le := length_kept_le rest
    simp only [kept, whole, List.length_append, List.length_cons]
    omega

end Layout

variable {tag text : List Char}

/-- Every element that is taken out makes the text shorter. -/
theorem stripTag_eq_self_iff : stripTag tag text = text ↔ FreeOf tag text := by
  obtain ⟨layout, rfl, removes⟩ := Layout.exists_removes tag text
  cases layout with
  | last text => exact iff_of_true (Layout.stripTag_whole removes) removes
  | element text inside rest =>
    refine iff_of_false ?_ ?_
    · intro same
      have le := rest.length_kept_le
      have lengths := congrArg List.length ((Layout.stripTag_whole removes).symm.trans same)
      simp only [Layout.kept, Layout.whole, List.length_append, List.length_cons] at lengths
      omega
    · intro free
      exact free text _ rfl ⟨inside, rest.whole, cut?_append_of_notMem removes.2.1 _, removes.2.2.1⟩

/-- Taking the elements of a tag out of a text leaves it without those of a layout of it, and any
such layout gives the same. The text stays as it is just if no element of the tag is opened in it. -/
theorem stripTag_eq_iff (tag text left : List Char) :
    (stripTag tag text = left ↔
        ∃ layout : Layout, layout.whole = text ∧ layout.Removes tag ∧ layout.kept = left) ∧
      (stripTag tag text = text ↔ FreeOf tag text) := by
  refine ⟨⟨?_, ?_⟩, stripTag_eq_self_iff⟩
  · rintro rfl
    obtain ⟨layout, rfl, removes⟩ := Layout.exists_removes tag text
    exact ⟨layout, rfl, removes, (Layout.stripTag_whole removes).symm⟩
  · rintro ⟨layout, rfl, removes, rfl⟩
    exact Layout.stripTag_whole removes

example : stripTag "speak".toList "1 < 2 <Speak x='1'/>and <speaker>3</ speak >".toList
    = "1 < 2 and <speaker>3".toList := by
  decide +kernel

end TextAdventure.Markup
