import Mathlib.Data.List.Induction
import Mathlib.Data.List.Sort
import TextAdventure.Proofs.SessionFiles
import TextAdventure.Proofs.WireForms

/-!
# Sets and dictionaries after any changes

A change to a set puts ids in and then takes ids out, so an id that is in both lists is gone
(`IdSet.mem_change`). Settings of a dictionary count one after another: under each key there is what
the last setting of this key says (`Dictionary.get?_setAll`), so settings of different keys may come
in any order (`Dictionary.setAll_reorder`).

What is read out is the one ascending list of the contents (`IdSet.eq_toList_iff`,
`Dictionary.eq_toList_iff`). So sets and dictionaries are written alike if they have the same
contents, however they came about, and only then.
-/

namespace TextAdventure

universe u

namespace Dictionary

variable {α : Type u}

/-- What the last setting of a key says. -/
def lastOf (key : String) (settings : List (String × Option α)) : Option (Option α) :=
  (settings.filter (·.1 = key)).getLast?.map (·.2)

theorem lastOf_concat (key : String) (settings : List (String × Option α))
    (s : String × Option α) :
    lastOf key (settings ++ [s]) = if key = s.1 then some s.2 else lastOf key settings := by
  unfold lastOf
  by_cases same : s.1 = key
  · simp [List.filter_append, same]
  · simp [List.filter_append, same, Ne.symm same]

/-- Under a key there is what the last setting of it says, or what was there before. -/
theorem get?_setAll (d : Dictionary α) (settings : List (String × Option α)) (key : String) :
    (d.setAll settings).get? key = (lastOf key settings).getD (d.get? key) := by
  induction settings using List.reverseRecOn with
  | nil => rfl
  | append_singleton settings s ih =>
    unfold setAll at ih ⊢
    rw [List.foldl_append, List.foldl_cons, List.foldl_nil, get?_set, ih, lastOf_concat]
    split <;> rfl

theorem setAll_setAll (d : Dictionary α) (settings later : List (String × Option α)) :
    (d.setAll settings).setAll later = d.setAll (settings ++ later) :=
  List.foldl_append.symm

/-- Settings of different keys may come in any order, as long as those of one key keep theirs. -/
theorem setAll_reorder (d : Dictionary α) {settings other : List (String × Option α)}
    (same : ∀ key, other.filter (·.1 = key) = settings.filter (·.1 = key)) :
    d.setAll other = d.setAll settings :=
  ext_get? fun key => by rw [get?_setAll, get?_setAll, lastOf, lastOf, same key]

theorem seek_eq_some_iff {key : String} {value : α} {l : List (String × α)}
    (ascending : l.Pairwise fun a b => a.1 < b.1) :
    seek key l = some value ↔ (key, value) ∈ l :=
  ⟨mem_of_seek, seek_of_mem ascending⟩

/-- What is read out is the one ascending list of the entries. -/
theorem eq_toList_iff {d : Dictionary α} {l : List (String × α)} :
    l = d.toList ↔ l.Pairwise (fun a b => a.1 < b.1)
      ∧ ∀ key value, (key, value) ∈ l ↔ d.get? key = some value := by
  constructor
  · rintro rfl
    exact ⟨d.ascending, fun _ _ => mem_toList⟩
  · rintro ⟨ascending, same⟩
    refine eq_of_seek ascending d.ascending fun key => Option.ext fun value => ?_
    exact (seek_eq_some_iff ascending).trans (same key value)

theorem ext_get?_iff {d e : Dictionary α} : d = e ↔ ∀ key, d.get? key = e.get? key :=
  ⟨fun same _ => by rw [same], ext_get?⟩

end Dictionary

namespace IdSet

theorem mem_eraseAll {id : String} :
    ∀ {ids : List String} {s : IdSet}, id ∈ s.eraseAll ids ↔ id ∈ s ∧ id ∉ ids
  | [], s => by simp [eraseAll]
  | other :: ids, s => by
    have rest : id ∈ (s.erase other).eraseAll ids ↔ id ∈ s.erase other ∧ id ∉ ids := mem_eraseAll
    rw [eraseAll] at rest ⊢
    rw [List.foldl_cons, rest, mem_erase, List.mem_cons, not_or, and_assoc, and_left_comm]

/-- Ids are put in first and taken out then. -/
theorem mem_change {s : IdSet} {added removed : List String} {id : String} :
    id ∈ s.change added removed ↔ (id ∈ s ∨ id ∈ added) ∧ id ∉ removed := by
  rw [change, mem_eraseAll, mem_insertAll, or_comm]

/-- What is read out is the one ascending list of the members. -/
theorem eq_toList_iff {s : IdSet} {l : List String} :
    l = s.toList ↔ l.Pairwise (· < ·) ∧ ∀ id, id ∈ l ↔ id ∈ s := by
  constructor
  · rintro rfl
    exact ⟨s.toList_ascending, fun _ => mem_toList⟩
  · rintro ⟨ascending, same⟩
    exact ascending.eq_of_mem_iff s.toList_ascending fun id => (same id).trans mem_toList.symm

theorem ext_mem_iff {s t : IdSet} : s = t ↔ ∀ id, id ∈ s ↔ id ∈ t :=
  ⟨fun same _ => by rw [same], ext_mem⟩

end IdSet

/-! ## What is written -/

theorem Wire.write_inj {α : Type} [Json.Coded α] [Json.LawfulCoded α] {a b : α} :
    Wire.write a = Wire.write b ↔ a = b := by
  refine ⟨fun same => ?_, congrArg Wire.write⟩
  have reads := Wire.read_write_of_lawful a
  rw [same, Wire.read_write_of_lawful] at reads
  exact (Except.ok.inj reads).symm

namespace SessionFile

theorem write_inj {s t : Session} : write s = write t ↔ s = t := by
  refine ⟨fun same => ?_, congrArg write⟩
  have reads := read?_write s
  rw [same, read?_write] at reads
  exact (Option.some.inj reads).symm

/-- The flags of a session can be told from its file, and are all that differs in two files of
sessions that differ in nothing else. -/
theorem Writer.map_inj {d e : Flags} : Writer.map d = Writer.map e ↔ d = e := by
  refine ⟨fun same => ?_, congrArg Writer.map⟩
  have files : write { (default : Session) with flags := d }
      = write { (default : Session) with flags := e } := by
    simp only [write, Writer.fields, same]
  exact congrArg Session.flags (write_inj.1 files)

theorem Writer.set_inj {s t : IdSet} : Writer.set s = Writer.set t ↔ s = t := by
  refine ⟨fun same => ?_, congrArg Writer.set⟩
  have files : write { (default : Session) with inventory := s }
      = write { (default : Session) with inventory := t } := by
    simp only [write, Writer.fields, same]
  exact congrArg Session.inventory (write_inj.1 files)

end SessionFile

/-- After a change a set has the ids that it had or that were put in, less those taken out. After
settings a dictionary has under each key what the last one of it says. Putting in, taking out and
setting one by one are changes and settings too, settings may be made in parts, and those of
different keys in any order. What is read out is the ascending list of the contents, and in JSON and
in session files equal contents, and only these, are written alike. -/
theorem contents_by_last_word {α : Type u} :
    (∀ (s : IdSet) (added removed : List String),
      (∀ id, id ∈ s.change added removed ↔ (id ∈ s ∨ id ∈ added) ∧ id ∉ removed)
      ∧ (∀ l, l = (s.change added removed).toList ↔
          l.Pairwise (· < ·) ∧ ∀ id, id ∈ l ↔ (id ∈ s ∨ id ∈ added) ∧ id ∉ removed)
      ∧ s.insertAll added = s.change added [] ∧ ∀ id, s.erase id = s.change [] [id])
    ∧ (∀ (d : Dictionary α) (settings : List (String × Option α)),
      (∀ key, (d.setAll settings).get? key = (Dictionary.lastOf key settings).getD (d.get? key))
      ∧ (∀ l, l = (d.setAll settings).toList ↔
          l.Pairwise (fun a b => a.1 < b.1) ∧ ∀ key value,
            (key, value) ∈ l ↔ (Dictionary.lastOf key settings).getD (d.get? key) = some value)
      ∧ (∀ later, (d.setAll settings).setAll later = d.setAll (settings ++ later))
      ∧ (∀ other : List (String × Option α),
          (∀ key, other.filter (·.1 = key) = settings.filter (·.1 = key)) →
            d.setAll other = d.setAll settings)
      ∧ (∀ key value, d.set key value = d.setAll [(key, value)])
      ∧ ∀ key, d.erase key = d.setAll [(key, none)])
    ∧ (∀ s t : IdSet,
      (Wire.write s = Wire.write t ↔ ∀ id, id ∈ s ↔ id ∈ t)
      ∧ (SessionFile.Writer.set s = SessionFile.Writer.set t ↔ ∀ id, id ∈ s ↔ id ∈ t))
    ∧ ∀ d e : Flags,
      (Wire.write d = Wire.write e ↔ ∀ key, d.get? key = e.get? key)
      ∧ (SessionFile.Writer.map d = SessionFile.Writer.map e ↔
          ∀ key, d.get? key = e.get? key) := by
  refine ⟨fun s added removed => ⟨fun _ => IdSet.mem_change, fun l => ?_, rfl, fun _ => rfl⟩,
    fun d settings => ⟨d.get?_setAll settings, fun l => ?_, d.setAll_setAll settings,
      fun _ => d.setAll_reorder, fun _ _ => rfl, fun _ => rfl⟩,
    fun s t => ⟨Wire.write_inj.trans IdSet.ext_mem_iff,
      SessionFile.Writer.set_inj.trans IdSet.ext_mem_iff⟩,
    fun d e => ⟨Wire.write_inj.trans Dictionary.ext_get?_iff,
      SessionFile.Writer.map_inj.trans Dictionary.ext_get?_iff⟩⟩
  · simp only [IdSet.eq_toList_iff, IdSet.mem_change]
  · simp only [Dictionary.eq_toList_iff, Dictionary.get?_setAll]

/-- The door is taken out and set again, and the tries are set before or between. -/
theorem contents_by_last_word_door :
    let flags : Flags := (∅ : Flags).insert "door" "open"
    let settings := [("door", none), ("tries", some "2"), ("door", some "shut")]
    let other := [("tries", some "2"), ("door", none), ("door", some "shut")]
    (∀ key, other.filter (·.1 = key) = settings.filter (·.1 = key))
      ∧ flags.setAll other = flags.setAll settings
      ∧ [("door", "shut"), ("tries", "2")] = (flags.setAll settings).toList
      ∧ (flags.setAll settings).get? "door" = some "shut" := by
  intro flags settings other
  obtain ⟨holds, -, -, reorder, -⟩ := (@contents_by_last_word String).2.1 flags settings
  have same : ∀ key, other.filter (·.1 = key) = settings.filter (·.1 = key) := by
    intro key
    by_cases tries : "tries" = key
    · subst tries
      decide
    · simp [other, settings, List.filter_cons, tries]
  refine ⟨same, reorder other same, by decide, ?_⟩
  rw [holds]
  decide

end TextAdventure
