import TextAdventure.Markup

/-!
# Elements of a tag

A `<` of a text opens an element of a tag if the text up to the next `>` is a tag of this name
(`OpensTag`). Taking the elements of a tag out of a text goes by this: what is opened is left out
up to its end (`stripTag_of_opens`), and every other character stays (`stripTag_cons`).
-/

namespace TextAdventure.Markup

section Cut

variable {mark : Char}

theorem cut?_eq_none_iff : ∀ {cs : List Char}, cut? mark cs = none ↔ mark ∉ cs
  | [] => by simp [cut?]
  | c :: cs => by
    rw [cut?, List.mem_cons, not_or, ← cut?_eq_none_iff]
    split
    · next eq => simp [eq]
    · next ne => simp [Ne.symm ne]

theorem notMem_of_cut? : ∀ {cs : List Char} {p : List Char × List Char},
    cut? mark cs = some p → mark ∉ p.1
  | [], _, h => by simp [cut?] at h
  | c :: cs, p, h => by
    rw [cut?] at h
    split at h
    · cases h
      exact List.not_mem_nil
    · next ne =>
      obtain ⟨q, hq, rfl⟩ := Option.map_eq_some_iff.1 h
      rw [List.mem_cons, not_or]
      exact ⟨Ne.symm ne, notMem_of_cut? hq⟩

theorem cut?_append_of_some : ∀ {cs : List Char} {p : List Char × List Char},
    cut? mark cs = some p → ∀ ds, cut? mark (cs ++ ds) = some (p.1, p.2 ++ ds)
  | [], _, h, _ => by simp [cut?] at h
  | c :: cs, p, h, ds => by
    rw [cut?] at h
    rw [List.cons_append, cut?]
    split at h
    · next eq =>
      cases h
      rw [if_pos eq]
    · next ne =>
      obtain ⟨q, hq, rfl⟩ := Option.map_eq_some_iff.1 h
      rw [if_neg ne, cut?_append_of_some hq]
      rfl

theorem cut?_append_of_notMem :
    ∀ {cs : List Char}, mark ∉ cs → ∀ ds, cut? mark (cs ++ mark :: ds) = some (cs, ds)
  | [], _, _ => by simp [cut?]
  | c :: cs, h, ds => by
    rw [List.mem_cons, not_or] at h
    rw [List.cons_append, cut?, if_neg (Ne.symm h.1), cut?_append_of_notMem h.2]
    rfl

end Cut

/-- What stands after a `<` begins with an element of the tag that the `<` opens: the text up to
the next `>` is a tag of this name. -/
def OpensTag (tag after : List Char) : Prop :=
  ∃ element rest, cut? '>' after = some (element, rest) ∧ isTag tag element

/-- No `<` of a text opens an element of the tag. -/
def FreeOf (tag text : List Char) : Prop :=
  ∀ before after, text = before ++ '<' :: after → ¬ OpensTag tag after

/-- No `<` of a text opens an element of the tag, where something follows the text. -/
def FreeBefore (tag following text : List Char) : Prop :=
  ∀ before after, text = before ++ '<' :: after → ¬ OpensTag tag (after ++ following)

variable {tag : List Char}

theorem opensTag_iff {after : List Char} {p : List Char × List Char}
    (hcut : cut? '>' after = some p) : OpensTag tag after ↔ isTag tag p.1 := by
  constructor
  · rintro ⟨element, rest, hcut', htag⟩
    rw [hcut] at hcut'
    cases hcut'
    exact htag
  · exact fun htag => ⟨p.1, p.2, hcut, htag⟩

theorem not_opensTag {after : List Char} (notMem : '>' ∉ after) : ¬ OpensTag tag after := by
  rintro ⟨element, rest, hcut, -⟩
  rw [cut?_eq_none_iff.2 notMem] at hcut
  cases hcut

theorem freeBefore_nil (tag following : List Char) : FreeBefore tag following [] := by
  intro before after h
  simp at h

theorem freeBefore_cons {following : List Char} {c : Char} {cs : List Char} :
    FreeBefore tag following (c :: cs) ↔
      ¬ (c = '<' ∧ OpensTag tag (cs ++ following)) ∧ FreeBefore tag following cs := by
  constructor
  · intro free
    refine ⟨fun opens => free [] cs (by rw [opens.1]; rfl) opens.2, fun before after h => ?_⟩
    exact free (c :: before) after (by rw [h]; rfl)
  · rintro ⟨first, rest⟩ before after h
    cases before with
    | nil =>
      cases h
      exact fun opens => first ⟨rfl, opens⟩
    | cons b before =>
      cases h
      exact rest before after rfl

theorem freeBefore_of_notMem {plain : List Char} (notMem : '<' ∉ plain) (following : List Char) :
    FreeBefore tag following plain := by
  rintro before after rfl
  simp at notMem

theorem freeBefore_empty {text : List Char} : FreeBefore tag [] text ↔ FreeOf tag text := by
  unfold FreeBefore FreeOf
  simp only [List.append_nil]

theorem freeOf_nil (tag : List Char) : FreeOf tag [] :=
  freeBefore_empty.1 (freeBefore_nil tag [])

theorem freeOf_cons {c : Char} {cs : List Char} :
    FreeOf tag (c :: cs) ↔ ¬ (c = '<' ∧ OpensTag tag cs) ∧ FreeOf tag cs := by
  rw [← freeBefore_empty, freeBefore_cons, freeBefore_empty, List.append_nil]

theorem freeOf_append_of_notMem {cs : List Char} (free : FreeOf tag cs) :
    ∀ {plain : List Char}, '<' ∉ plain → FreeOf tag (plain ++ cs)
  | [], _ => free
  | c :: plain, notMem => by
    rw [List.mem_cons, not_or] at notMem
    exact freeOf_cons.2 ⟨fun opens => notMem.1 opens.1.symm,
      freeOf_append_of_notMem free notMem.2⟩

theorem FreeOf.of_append {before text after : List Char}
    (free : FreeOf tag (before ++ text ++ after)) : FreeOf tag text := by
  rintro b a rfl ⟨element, rest, hcut, htag⟩
  exact free (before ++ b) (a ++ after) (by simp) ⟨element, _, cut?_append_of_some hcut _, htag⟩

theorem stripTag_of_opens {cs element rest : List Char} (hcut : cut? '>' cs = some (element, rest))
    (htag : isTag tag element) : stripTag tag ('<' :: cs) = stripTag tag rest := by
  rw [stripTag, if_pos rfl]
  split
  · next e r h =>
    rw [hcut] at h
    cases h
    rw [if_pos htag]
  · next h =>
    rw [hcut] at h
    cases h

theorem stripTag_cons {c : Char} {cs : List Char} (h : ¬ (c = '<' ∧ OpensTag tag cs)) :
    stripTag tag (c :: cs) = c :: stripTag tag cs := by
  rw [stripTag]
  split
  · next eq =>
    split
    · next element rest hcut =>
      rw [if_neg fun htag => h ⟨eq, element, rest, hcut, htag⟩]
    · rfl
  · rfl

theorem stripTag_append_of_freeBefore {following : List Char} :
    ∀ {text : List Char}, FreeBefore tag following text →
      stripTag tag (text ++ following) = text ++ stripTag tag following
  | [], _ => rfl
  | c :: cs, free => by
    rw [freeBefore_cons] at free
    rw [List.cons_append, stripTag_cons free.1, stripTag_append_of_freeBefore free.2]
    rfl

theorem stripTag_append_of_notMem {cs plain : List Char} (notMem : '<' ∉ plain) :
    stripTag tag (plain ++ cs) = plain ++ stripTag tag cs :=
  stripTag_append_of_freeBefore (freeBefore_of_notMem notMem cs)

end TextAdventure.Markup
