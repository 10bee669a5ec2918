import TextAdventure.Proofs.JsonValues

/-!
# Reading written records

A record is read by its fields. What one field writes of a record puts the field's value into
another record, or the field is left out and the other record has the value already
(`Json.Field.Restores`). Through all fields in their order this makes the record again of one that
has none (`Json.Restored`), and since the reader finds each written field by its name, this is
what it reads (`Json.Shape.Faithful.takes`).
-/

namespace TextAdventure.Json

open Reader (Takes ReadsMembers Ended)

/-- What is written for a value reads back as the value. -/
class LawfulCoded (α : Type) [Coded α] : Prop where
  takes : ∀ a : α, Takes Coded.read (Coded.write a) a

variable {ρ α : Type}

namespace Field

/-- What a field writes of a record `r` makes `t` of `s`; if it writes nothing, nothing is to be
made. -/
structure Restores (field : Field ρ) (r s t : ρ) : Prop where
  taken : ∀ {written}, field.write r = some written → Takes (field.read s) written t
  leftOut : field.write r = none → field.required = false ∧ s = t

section

variable [Coded α] [LawfulCoded α] {name : String} {r s : ρ}

theorem Restores.needed (get : ρ → α) (set : ρ → α → ρ) :
    (Field.needed name get set).Restores r s (set s (get r)) where
  taken := by
    rintro _ ⟨⟩
    exact (LawfulCoded.takes (get r)).map (set s)
  leftOut none := nomatch none

theorem Restores.defaulted (get : ρ → α) (set : ρ → α → ρ) :
    (Field.defaulted name get set).Restores r s (set s (get r)) where
  taken := by
    rintro _ ⟨⟩
    exact (LawfulCoded.takes (get r)).map (set s)
  leftOut none := nomatch none

theorem Restores.optional (get : ρ → Option α) (set : ρ → Option α → ρ) (start : set s none = s) :
    (Field.optional name get set).Restores r s (set s (get r)) where
  taken {written} there := by
    obtain ⟨a, present, rfl⟩ := Option.map_eq_some_iff.1 there
    rw [present]
    exact (LawfulCoded.takes a).optional.map (set s)
  leftOut none := by
    rw [Option.map_eq_none_iff.1 none]
    exact ⟨rfl, start.symm⟩

end

end Field

/-- What fields write of a record `r`, one after another, makes `t` of `s`. -/
inductive Restored (r : ρ) : List (Field ρ) → ρ → ρ → Prop where
  | nil (s : ρ) : Restored r [] s s
  | cons {field : Field ρ} {fields : List (Field ρ)} {s t u : ρ}
      (restores : field.Restores r s t) (more : Restored r fields t u) :
      Restored r (field :: fields) s u

/-- No two fields share a name, and the fields of each record make it again. -/
structure Shape.Faithful (shape : Shape ρ) : Prop where
  distinct : (shape.fields.map Field.name).Nodup
  restored : ∀ r, Restored r shape.fields shape.start r

theorem find?_name {field : Field ρ} :
    ∀ {fields : List (Field ρ)}, (fields.map Field.name).Nodup → field ∈ fields →
      fields.find? (·.name == field.name) = some field
  | other :: fields, distinct, mem => by
    obtain ⟨new, distinct⟩ := List.nodup_cons.1 distinct
    rcases List.mem_cons.1 mem with rfl | mem
    · simp
    · have differs : (other.name == field.name) = false := by
        rw [beq_eq_false_iff_ne]
        intro same
        exact new (same ▸ List.mem_map_of_mem mem)
      rw [List.find?_cons, differs]
      exact find?_name distinct mem

namespace Shape

variable {shape : Shape ρ} {r : ρ}

theorem run_readMember {field : Field ρ}
    (known : shape.fields.find? (·.name == field.name) = some field) {given : List String}
    (new : field.name ∉ given) {s t : ρ} {written : List Char}
    (takes : Takes (field.read s) written t) {rest : List Char} (ended : Ended rest) :
    (shape.readMember field.name (given, s)).run (':' :: (written ++ rest))
      = pure ((field.name :: given, t), rest) := by
  simp [readMember, known, new, Reader.run_colon, takes.run_eq ended]

/-- The members that are written for fields are read one after another. -/
theorem readsMembers {fields : List (Field ρ)} {s t : ρ} (restored : Restored r fields s t)
    (known : ∀ field ∈ fields, shape.fields.find? (·.name == field.name) = some field)
    (distinct : (fields.map Field.name).Nodup) {given : List String}
    (new : ∀ field ∈ fields, field.name ∉ given) :
    ∃ all, ReadsMembers shape.readMember
        (fields.filterMap fun field => (field.write r).map (field.name, ·)) (given, s) (all, t) ∧
      given ⊆ all ∧ ∀ field ∈ fields, field.required → field.name ∈ all := by
  induction restored generalizing given with
  | nil s => exact ⟨given, .nil _, fun _ mem => mem, fun _ mem => nomatch mem⟩
  | @cons field fields s t u restores more ih =>
    obtain ⟨differs, distinct⟩ := List.nodup_cons.1 distinct
    obtain ⟨known, knownMore⟩ := List.forall_mem_cons.1 known
    obtain ⟨new, newMore⟩ := List.forall_mem_cons.1 new
    cases written : field.write r with
    | none =>
      obtain ⟨spare, rfl⟩ := restores.leftOut written
      obtain ⟨all, reads, kept, required⟩ := ih knownMore distinct newMore
      refine ⟨all, ?_, kept, List.forall_mem_cons.2 ⟨?_, required⟩⟩
      · simpa only [List.filterMap_cons, written, Option.map_none] using reads
      · simp [spare]
    | some text =>
      have takes := restores.taken written
      -- A name that is given from now on is none of those to come.
      have newMore : ∀ other ∈ fields, other.name ∉ field.name :: given := by
        intro other mem same
        rcases List.mem_cons.1 same with same | old
        · exact differs (same ▸ List.mem_map_of_mem mem)
        · exact newMore other mem old
      obtain ⟨all, reads, kept, required⟩ := ih knownMore distinct newMore
      refine ⟨all, ?_, List.Subset.trans (List.subset_cons_self _ _) kept,
        List.forall_mem_cons.2 ⟨fun _ => kept List.mem_cons_self, required⟩⟩
      simp only [List.filterMap_cons, written, Option.map_some]
      exact .cons takes.oneLine (run_readMember known new takes) reads

/-- A record is read from what is written for it. -/
theorem Faithful.takes (faithful : shape.Faithful) (r : ρ) :
    Takes shape.read (shape.write r) r := by
  have start : ∀ field ∈ shape.fields, field.name ∉ ([] : List String) :=
    fun _ _ => List.not_mem_nil
  obtain ⟨given, reads, -, required⟩ := readsMembers (faithful.restored r)
    (fun _ mem => find?_name faithful.distinct mem) faithful.distinct start
  have complete : shape.fields.find? (fun field => field.required && !given.contains field.name)
      = none := by
    rw [List.find?_eq_none]
    intro field mem
    simpa using required field mem
  refine ⟨⟨_, _, rfl, rfl⟩, reads.oneLine, fun {rest} _ => ?_⟩
  have plain : Reader.isBlank '\x7b' = false := rfl
  have members := reads.run_object rest
  simp only [StateT.run_bind, StateT.run_get, pure_bind] at members
  rw [write, Writer.object, List.cons_append, List.append_assoc, List.singleton_append]
  simp only [read, StateT.run_bind, Reader.run_token plain, pure_bind, Reader.run_drop,
    List.drop_one, List.tail_cons, StateT.run_get, members, complete, StateT.run_pure]

end Shape

end TextAdventure.Json
