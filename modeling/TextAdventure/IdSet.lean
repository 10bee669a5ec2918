import TextAdventure.Dictionary

/-!
# Sets of ids

Things, rooms and effects are remembered by their ids. A set of ids is the domain of a
dictionary, so it lists its members in code point order and equal contents are equal sets
(`ext_mem`).
-/

namespace TextAdventure

/-- A finite set of ids, with one representation for each content. -/
structure IdSet where
  members : Dictionary Unit
deriving DecidableEq

namespace IdSet

def empty : IdSet := ⟨∅⟩

instance : EmptyCollection IdSet := ⟨empty⟩

instance : Inhabited IdSet := ⟨empty⟩

def contains (s : IdSet) (id : String) : Bool :=
  s.members.contains id

instance : Membership String IdSet := ⟨fun s id => s.contains id = true⟩

instance (id : String) (s : IdSet) : Decidable (id ∈ s) :=
  inferInstanceAs (Decidable (s.contains id = true))

def insert (s : IdSet) (id : String) : IdSet :=
  ⟨s.members.insert id ()⟩

def erase (s : IdSet) (id : String) : IdSet :=
  ⟨s.members.erase id⟩

def insertAll (s : IdSet) (ids : List String) : IdSet :=
  ids.foldl insert s

def eraseAll (s : IdSet) (ids : List String) : IdSet :=
  ids.foldl erase s

/-- Puts in the ids of one list, then takes out those of another. -/
def change (s : IdSet) (added removed : List String) : IdSet :=
  (s.insertAll added).eraseAll removed

def singleton (id : String) : IdSet :=
  empty.insert id

def ofList (ids : List String) : IdSet :=
  empty.insertAll ids

def toList (s : IdSet) : List String :=
  s.members.keys

theorem toList_ascending (s : IdSet) : s.toList.Pairwise (· < ·) :=
  s.members.keys_ascending

theorem mem_def {id : String} {s : IdSet} : id ∈ s ↔ s.contains id = true := Iff.rfl

@[simp] theorem not_mem_empty (id : String) : id ∉ (∅ : IdSet) := fun h => nomatch h

@[simp] theorem mem_insert {s : IdSet} {id x : String} : x ∈ s.insert id ↔ x = id ∨ x ∈ s := by
  simp only [mem_def, contains, Dictionary.contains, insert, Dictionary.get?_insert]
  split <;> simp_all

@[simp] theorem mem_erase {s : IdSet} {id x : String} : x ∈ s.erase id ↔ x ≠ id ∧ x ∈ s := by
  simp only [mem_def, contains, Dictionary.contains, erase, Dictionary.get?_erase]
  split <;> simp_all

@[simp] theorem mem_singleton {id x : String} : x ∈ singleton id ↔ x = id := by
  rw [singleton, mem_insert]
  exact or_iff_left (not_mem_empty x)

@[simp] theorem mem_insertAll {x : String} :
    ∀ {ids : List String} {s : IdSet}, x ∈ s.insertAll ids ↔ x ∈ ids ∨ x ∈ s
  | [], s => by simp [insertAll]
  | id :: ids, s => by
    have rest : x ∈ (s.insert id).insertAll ids ↔ x ∈ ids ∨ x ∈ s.insert id := mem_insertAll
    rw [insertAll] at rest ⊢
    rw [List.foldl_cons, rest, mem_insert, List.mem_cons, or_left_comm, ← or_assoc]

/-- Sets with the same members are equal. -/
theorem ext_mem {s t : IdSet} (h : ∀ id, id ∈ s ↔ id ∈ t) : s = t := by
  have members : s.members = t.members := by
    refine Dictionary.ext_get? fun id => ?_
    have := h id
    simp only [mem_def, contains, Dictionary.contains] at this
    cases hs : s.members.get? id <;> cases ht : t.members.get? id <;> simp_all
  cases s
  cases t
  cases members
  rfl

theorem mem_toList {s : IdSet} {id : String} : id ∈ s.toList ↔ id ∈ s :=
  Dictionary.mem_keys

/-- A set is that of its members. -/
theorem ofList_toList (s : IdSet) : ofList s.toList = s :=
  ext_mem fun id => by
    rw [ofList, mem_insertAll, mem_toList]
    exact or_iff_left (not_mem_empty id)

end IdSet

end TextAdventure
