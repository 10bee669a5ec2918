import TextAdventure.Dictionary

/-!
# Catalogs

What has a name of its own (a room, a session, a world) is kept under that name. A catalog is a
dictionary that does so for each of its values: what is found under a key is named by the key
(`Catalog.named`).
-/

namespace TextAdventure

universe u

/-- A dictionary in which every value is found under its own name. -/
structure Catalog {α : Type u} (name : α → String) extends Dictionary α where
  named : ∀ {key value}, toDictionary.get? key = some value → name value = key

namespace Catalog

variable {α : Type u} {name : α → String}

def empty : Catalog name where
  toDictionary := ∅
  named h := by simp at h

instance : EmptyCollection (Catalog name) := ⟨empty⟩

instance : Inhabited (Catalog name) := ⟨empty⟩

/-- Puts a value under its name, over the one that is there. -/
def file (c : Catalog name) (value : α) : Catalog name where
  toDictionary := c.insert (name value) value
  named {key value'} h := by
    rw [Dictionary.get?_insert] at h
    split at h
    · next eq =>
      cases h
      exact eq.symm
    · exact c.named h

/-- Takes out the value of a name. -/
def remove (c : Catalog name) (key : String) : Catalog name where
  toDictionary := c.erase key
  named {key' value} h := by
    rw [Dictionary.get?_erase] at h
    split at h
    · cases h
    · exact c.named h

@[simp] theorem get?_empty (key : String) :
    (∅ : Catalog name).toDictionary.get? key = none := rfl

theorem get?_file (c : Catalog name) (value : α) (key : String) :
    (c.file value).toDictionary.get? key =
      if key = name value then some value else c.toDictionary.get? key :=
  c.toDictionary.get?_insert (name value) value key

theorem get?_remove (c : Catalog name) (key k : String) :
    (c.remove key).toDictionary.get? k = if k = key then none else c.toDictionary.get? k :=
  c.toDictionary.get?_erase key k

/-- Catalogs that answer every lookup alike are equal. -/
theorem ext_get? {c d : Catalog name}
    (h : ∀ key, c.toDictionary.get? key = d.toDictionary.get? key) : c = d := by
  have := Dictionary.ext_get? h
  cases c
  cases d
  cases this
  rfl

end Catalog

end TextAdventure
