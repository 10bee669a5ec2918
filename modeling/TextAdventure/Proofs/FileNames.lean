import TextAdventure.Proofs.Blanks
import TextAdventure.Proofs.FileSessions
import TextAdventure.Store.Tree

/-!
# Names of session files

Ids may hold anything, but the slug of an id is a plain name: ASCII letters, digits, hyphens and
underscores, and at least one of them (`isPlainName_slug`). Plain names, and no others, are their
own slugs (`slug_eq_self_iff`), so plain ids have files of their own.

A plain name with an ending is neither empty nor a name for a directory on the way, and has no
separator in it. The path to such a file therefore leads where the path of the directory leads, and
from there one name further (`Files.through_pathOf`): no id has its session saved elsewhere.
-/

namespace TextAdventure

/-- ASCII letters and digits, hyphens and underscores. -/
def IsPlainChar (c : Char) : Prop :=
  ('a' ≤ c ∧ c ≤ 'z') ∨ ('A' ≤ c ∧ c ≤ 'Z') ∨ ('0' ≤ c ∧ c ≤ '9') ∨ c = '-' ∨ c = '_'

/-- There is something to the name, and all of it is plain. -/
structure IsPlainName (name : String) : Prop where
  present : name ≠ ""
  plain : ∀ c ∈ name.toList, IsPlainChar c

theorem isPlain_iff {c : Char} : isPlain c ↔ IsPlainChar c := by
  have upper : c.isUpper ↔ 'A' ≤ c ∧ c ≤ 'Z' := decide_eq_true_iff
  have lower : c.isLower ↔ 'a' ≤ c ∧ c ≤ 'z' :=
    (Bool.and_eq_true_iff ..).trans (and_congr decide_eq_true_iff decide_eq_true_iff)
  have digit : c.isDigit ↔ '0' ≤ c ∧ c ≤ '9' :=
    (Bool.and_eq_true_iff ..).trans (and_congr decide_eq_true_iff decide_eq_true_iff)
  have letter : c.isAlpha ↔ ('a' ≤ c ∧ c ≤ 'z') ∨ ('A' ≤ c ∧ c ≤ 'Z') :=
    (Bool.or_eq_true_iff ..).trans ((or_congr upper lower).trans or_comm)
  simp only [isPlain, IsPlainChar, Char.isAlphanum, Bool.or_eq_true, decide_eq_true_eq, letter,
    digit, or_assoc]

theorem IsPlainChar.toNat_cases {c : Char} (plain : IsPlainChar c) :
    (97 ≤ c.toNat ∧ c.toNat ≤ 122) ∨ (65 ≤ c.toNat ∧ c.toNat ≤ 90) ∨
      (48 ≤ c.toNat ∧ c.toNat ≤ 57) ∨ c.toNat = 45 ∨ c.toNat = 95 := by
  rcases plain with h | h | h | rfl | rfl
  · exact .inl h
  · exact .inr (.inl h)
  · exact .inr (.inr (.inl h))
  · decide
  · decide

theorem IsPlainChar.not_blank {c : Char} (plain : IsPlainChar c) : Text.isBlank c = false := by
  have range := plain.toNat_cases
  simp only [Text.isBlank, Bool.or_eq_false_iff, Bool.and_eq_false_iff, decide_eq_false_iff_not]
  omega

/-! ## Slugs -/

theorem isPlainName_slug (id : String) : IsPlainName (slug id) := by
  unfold slug
  dsimp only
  split
  · have plain : "session".toList.all isPlain = true := by decide
    exact ⟨by decide, fun c mem => isPlain_iff.1 (List.all_eq_true.1 plain c mem)⟩
  · next present =>
    refine ⟨fun none => present ?_, fun c mem => ?_⟩
    · rw [List.isEmpty_iff]
      exact String.ofList_eq_empty_iff.1 none
    · rw [String.toList_ofList] at mem
      obtain ⟨d, -, rfl⟩ := List.mem_map.1 mem
      split
      · next plain => exact isPlain_iff.1 plain
      · exact isPlain_iff.1 rfl

theorem slug_eq_self {id : String} (plain : IsPlainName id) : slug id = id := by
  have trimmed : Text.trim id.toList = id.toList :=
    Text.trim_eq_self fun c mem => (plain.plain c mem).not_blank
  have kept : id.toList.map (fun c => if isPlain c then c else '_') = id.toList :=
    (List.map_congr_left fun c mem => if_pos (isPlain_iff.2 (plain.plain c mem))).trans
      (List.map_id _)
  have present : id.toList.isEmpty = false := by
    simpa using plain.present
  rw [slug, trimmed, kept, present]
  exact String.ofList_toList

/-- Plain names, and no others, are their own slugs. -/
theorem slug_eq_self_iff {id : String} : slug id = id ↔ IsPlainName id :=
  ⟨fun same => same ▸ isPlainName_slug id, slug_eq_self⟩

/-- The name of a file has its ending and something before it. -/
theorem fileName_ne {id short : String} (few : short.length ≤ 4) : fileName id ≠ short := by
  rintro rfl
  have some : (slug id).length ≠ 0 := fun none =>
    (isPlainName_slug id).present (String.length_eq_zero_iff.1 none)
  have ending : (".ron" : String).length = 4 := rfl
  rw [fileName, String.length_append, ending] at few
  omega

theorem separator_notMem_fileName (id : String) : '/' ∉ (fileName id).toList := by
  intro mem
  rw [fileName, String.toList_append, List.mem_append] at mem
  rcases mem with mem | mem
  · have range := ((isPlainName_slug id).plain _ mem).toNat_cases
    revert range
    decide
  · revert mem
    decide

/-! ## Names of a path -/

namespace Text

variable {separator : Char}

theorem splitOn_ne_nil : ∀ cs : List Char, splitOn separator cs ≠ []
  | [] => List.cons_ne_nil _ _
  | c :: cs => by
    rw [splitOn]
    split
    · exact List.cons_ne_nil _ _
    · split <;> exact List.cons_ne_nil _ _

theorem splitOn_cons_of_ne {c : Char} (other : c ≠ separator) {cs part : List Char}
    {parts : List (List Char)} (split : splitOn separator cs = part :: parts) :
    splitOn separator (c :: cs) = (c :: part) :: parts := by
  rw [splitOn, if_neg other, split]

theorem splitOn_of_notMem : ∀ {cs : List Char}, separator ∉ cs → splitOn separator cs = [cs]
  | [], _ => rfl
  | c :: cs, notMem => by
    rw [List.mem_cons, not_or] at notMem
    exact splitOn_cons_of_ne (Ne.symm notMem.1) (splitOn_of_notMem notMem.2)

/-- A separator parts what is before it from what is after it. -/
theorem splitOn_append_separator (after : List Char) :
    ∀ before, splitOn separator (before ++ separator :: after)
      = splitOn separator before ++ splitOn separator after
  | [] => by simp [splitOn]
  | c :: before => by
    have rest := splitOn_append_separator after before
    have some : splitOn separator before ≠ [] := splitOn_ne_nil before
    obtain ⟨part, parts, split⟩ := List.exists_cons_of_ne_nil some
    rw [split] at rest
    by_cases same : c = separator
    · simp [splitOn, same, rest, split]
    · rw [List.cons_append, splitOn_cons_of_ne same rest, splitOn_cons_of_ne same split]
      rfl

/-- Behind the last separator there is something if the text does not end with it. -/
theorem splitOn_concat {c : Char} (other : c ≠ separator) :
    ∀ cs, ∃ parts last, splitOn separator (cs ++ [c]) = parts ++ [last ++ [c]]
  | [] => ⟨[], [], by simp [splitOn, other]⟩
  | d :: cs => by
    obtain ⟨parts, last, split⟩ := splitOn_concat other cs
    by_cases same : d = separator
    · exact ⟨[] :: parts, last, by simp [splitOn, same, split]⟩
    · cases parts with
      | nil => exact ⟨[], d :: last, splitOn_cons_of_ne same split⟩
      | cons part parts => exact ⟨(d :: part) :: parts, last, splitOn_cons_of_ne same split⟩

end Text

theorem pathNamesOf_concat (last : List Char) : ∀ parts : List (List Char),
    pathNamesOf (parts ++ [last])
      = (parts.filter (!·.isEmpty)).map String.ofList
        ++ [if last.isEmpty then "." else String.ofList last]
  | [] => rfl
  | part :: parts => by
    have rest := pathNamesOf_concat last parts
    obtain ⟨next, others, split⟩ := List.exists_cons_of_ne_nil
      (List.append_ne_nil_of_right_ne_nil parts (List.cons_ne_nil last []))
    rw [List.cons_append, split, pathNamesOf, ← split, rest, List.filter_cons]
    · cases part <;> rfl
    · simp

namespace Tree

/-- A dot leads nowhere else. -/
theorem through_dot (names : List String) (place : Place) :
    through place (names ++ ["."]) = through place names := by
  fun_induction through place names with
  | case1 place => rfl
  | case2 place names ih => exact ih
  | case3 place names ih => exact ih
  | case4 place name names noDot noDots ih =>
    rw [List.cons_append, through, ih]
    · exact noDot
    · exact noDots

/-- A proper name at the end of a path leads one directory further. -/
theorem through_concat {name : String} (noDot : name ≠ ".") (noDots : name ≠ "..")
    (names : List String) (place : Place) :
    ∃ folder before, through place names = folder :: before ∧
      through place (names ++ [name]) = (folder ++ [name]) :: folder :: before := by
  fun_induction through place names with
  | case1 place =>
    refine ⟨place, [], rfl, ?_⟩
    rw [List.nil_append, through, through]
    · rfl
    · exact noDot
    · exact noDots
  | case2 place names ih => exact ih
  | case3 place names ih => exact ih
  | case4 place other names otherNoDot otherNoDots ih =>
    obtain ⟨folder, before, leads, further⟩ := ih
    refine ⟨folder, before ++ [place], by rw [leads]; rfl, ?_⟩
    rw [List.cons_append, through, further]
    · rfl
    · exact otherNoDot
    · exact otherNoDots

end Tree

/-- Behind a separator stands the last name of a path, or nothing for the directory itself. -/
theorem pathNames_append_separator {path : String} {before last : List Char}
    (eq : path.toList = before ++ '/' :: last) (plain : '/' ∉ last) :
    pathNames path
      = ((Text.splitOn '/' before).filter (!·.isEmpty)).map String.ofList
        ++ [if last.isEmpty then "." else String.ofList last] := by
  rw [pathNames, eq, Text.splitOn_append_separator, Text.splitOn_of_notMem plain,
    pathNamesOf_concat]

namespace Files

theorem toList_pathOf (f : Files) (name : String) :
    (f.pathOf name).toList = f.path.toList ++
      if f.path.toList = [] ∨ ['/'] <:+ f.path.toList then name.toList else '/' :: name.toList := by
  have ends : f.path.endsWith "/" ↔ ['/'] <:+ f.path.toList := by
    rw [String.endsWith_eq_endsWith_toSlice, String.Slice.endsWith_string_iff, String.copy_toSlice]
    rfl
  have empty : f.path = "" ↔ f.path.toList = [] := String.toList_eq_nil_iff.symm
  rw [pathOf]
  simp only [Bool.or_eq_true, decide_eq_true_eq, ends, empty]
  split
  · rw [String.toList_append]
  · rw [String.toList_append, String.toList_append, List.append_assoc]
    rfl

/-- The path to a file starts where the path of the directory does. -/
theorem pathStart_pathOf (f : Files) {name : String} (plain : '/' ∉ name.toList) :
    pathStart (f.pathOf name) = pathStart f.path := by
  have starts (path : String) : path.startsWith "/" ↔ ['/'] <+: path.toList :=
    String.startsWith_string_iff
  have same : ['/'] <+: (f.pathOf name).toList ↔ ['/'] <+: f.path.toList := by
    rw [toList_pathOf]
    match f.path.toList with
    | [] =>
      rw [if_pos (.inl rfl), List.nil_append]
      refine iff_of_false (fun start => plain ?_) (by simp)
      exact start.subset List.mem_cons_self
    | c :: cs => simp [List.cons_prefix_cons]
  unfold pathStart
  simp only [starts, same]

/-- The names of the path to a file are those of the path of the directory, less a dot for the
directory itself, and the name of the file. -/
theorem pathNames_pathOf (f : Files) {name : String} (present : name ≠ "")
    (plain : '/' ∉ name.toList) :
    pathNames (f.pathOf name) = pathNames f.path ++ [name]
      ∨ ∃ names, pathNames f.path = names ++ ["."]
        ∧ pathNames (f.pathOf name) = names ++ [name] := by
  have text := f.toList_pathOf name
  have shown : (if name.toList.isEmpty then "." else String.ofList name.toList) = name := by
    simp [present]
  rcases List.eq_nil_or_concat' f.path.toList with none | ⟨before, c, path⟩
  · -- the empty path is a dot alone, as one that ends with a separator has a dot behind it
    rw [none, if_pos (.inl rfl), List.nil_append] at text
    refine .inr ⟨[], by rw [pathNames, none]; rfl, ?_⟩
    have single := pathNamesOf_concat name.toList []
    rw [shown] at single
    rw [pathNames, text, Text.splitOn_of_notMem plain]
    exact single
  by_cases slash : c = '/'
  · subst slash
    rw [path, if_pos (.inr (List.suffix_append _ _)), List.append_assoc, List.singleton_append]
      at text
    refine .inr ⟨_, pathNames_append_separator path List.not_mem_nil, ?_⟩
    rw [pathNames_append_separator text plain, shown]
  · -- the directory is named last, and the file after another separator
    have other : ¬ (before ++ [c] = [] ∨ ['/'] <:+ before ++ [c]) := by
      rintro (none | ⟨start, same⟩)
      · simp at none
      · exact slash (List.singleton_inj.1 (List.append_inj_right' same rfl)).symm
    rw [path, if_neg other] at text
    obtain ⟨parts, last, split⟩ := Text.splitOn_concat slash before
    have some : (last ++ [c]).isEmpty = false := by simp
    left
    rw [pathNames_append_separator text plain, shown, pathNames, path, split, pathNamesOf_concat,
      List.filter_append, List.map_append, some]
    simp

/-- The path to a file leads through the directories on the way to that of the store, and then to a
file right in it. -/
theorem through_pathOf (f : Files) (id : String) :
    ∃ folder before,
      Tree.through (pathStart f.path) (pathNames f.path) = folder :: before
        ∧ Tree.through (pathStart (f.pathOf (fileName id))) (pathNames (f.pathOf (fileName id)))
          = (folder ++ [fileName id]) :: folder :: before := by
  have plain := separator_notMem_fileName id
  have noDot : fileName id ≠ "." := fileName_ne (by decide)
  have noDots : fileName id ≠ ".." := fileName_ne (by decide)
  rw [f.pathStart_pathOf plain]
  rcases f.pathNames_pathOf (fileName_ne (by decide)) plain with further | ⟨names, own, further⟩
  · rw [further]
    exact Tree.through_concat noDot noDots _ _
  · rw [further, own, Tree.through_dot]
    exact Tree.through_concat noDot noDots _ _

theorem pathOf_inj {f : Files} {name other : String} :
    f.pathOf name = f.pathOf other ↔ name = other := by
  refine ⟨fun same => ?_, congrArg f.pathOf⟩
  have texts := congrArg String.toList same
  rw [toList_pathOf, toList_pathOf, List.append_cancel_left_eq] at texts
  split at texts
  · exact String.toList_inj.1 texts
  · exact String.toList_inj.1 (List.cons.inj texts).2

/-- Whatever an id is, its slug is a plain name that is its own slug, and the path to its file leads
to a file of that name right in the directory of the store. An id is its own slug just if it is
plain, so plain ids have files of their own. -/
theorem session_files_stay (f : Files) :
    (∀ id, IsPlainName (slug id) ∧ slug (slug id) = slug id ∧ (slug id = id ↔ IsPlainName id)
      ∧ ∃ folder before,
        Tree.through (pathStart f.path) (pathNames f.path) = folder :: before
          ∧ Tree.through (pathStart (f.pathOf (fileName id))) (pathNames (f.pathOf (fileName id)))
            = (folder ++ [slug id ++ ".ron"]) :: folder :: before)
    ∧ ∀ a b, IsPlainName a → IsPlainName b →
        (f.pathOf (fileName a) = f.pathOf (fileName b) ↔ a = b) := by
  refine ⟨fun id => ⟨isPlainName_slug id, slug_eq_self (isPlainName_slug id), slug_eq_self_iff,
    f.through_pathOf id⟩, fun a b plain plain' => ?_⟩
  rw [pathOf_inj, fileName_inj, slug_eq_self plain, slug_eq_self plain']

/-- An id that looks like a way out of the directory, and two plain ids. -/
theorem session_files_stay_hostile :
    let f : Files := { worlds := ∅, path := "sessions/" }
    let path := f.pathOf (fileName "../../etc")
    Tree.through (pathStart path) (pathNames path)
        = [["sessions", "______etc.ron"], ["sessions"], []]
      ∧ IsPlainName "guest-1" ∧ IsPlainName "guest_1"
      ∧ f.pathOf (fileName "guest-1") ≠ f.pathOf (fileName "guest_1") := by
  intro f path
  obtain ⟨hostile, plain⟩ := session_files_stay f
  have hyphen : IsPlainName "guest-1" := slug_eq_self_iff.1 (by decide)
  have underscore : IsPlainName "guest_1" := slug_eq_self_iff.1 (by decide)
  obtain ⟨-, -, -, folder, before, leads, further⟩ := hostile "../../etc"
  have sessions : Tree.through (pathStart f.path) (pathNames f.path) = [["sessions"], []] := by
    decide +kernel
  have named : slug "../../etc" = "______etc" := by decide
  obtain ⟨rfl, rfl⟩ := List.cons.inj (leads.symm.trans sessions)
  rw [named] at further
  exact ⟨further, hyphen, underscore, fun same => absurd ((plain _ _ hyphen underscore).1 same)
    (by decide)⟩

end Files

end TextAdventure
