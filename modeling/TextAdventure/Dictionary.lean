/-!
# Dictionaries with text keys

A dictionary keeps its entries in ascending order of their keys, each key once. What is read
out is therefore in code point order, and two dictionaries that answer every lookup alike are
equal (`ext_get?`), whatever was put in and taken out on the way.
-/

namespace TextAdventure

universe u

/-- A finite map from texts, with one representation for each content. -/
structure Dictionary (α : Type u) where
  entries : List (String × α)
  ascending : entries.Pairwise fun a b => a.1 < b.1
deriving DecidableEq

namespace Dictionary

variable {α : Type u}

/-- The value of the first entry with a key. -/
def seek (key : String) : List (String × α) → Option α
  | [] => none
  | (k, v) :: rest => if k = key then some v else seek key rest

/-- Puts an entry in its place, over one with the same key. -/
def place (key : String) (value : α) : List (String × α) → List (String × α)
  | [] => [(key, value)]
  | (k, v) :: rest =>
    if key < k then (key, value) :: (k, v) :: rest
    else if key = k then (key, value) :: rest
    else (k, v) :: place key value rest

theorem mem_place {key : String} {value : α} {e : String × α} :
    ∀ {l : List (String × α)}, e ∈ place key value l → e = (key, value) ∨ e ∈ l
  | [], h => by simpa [place] using h
  | (k, v) :: rest, h => by
    rw [place] at h
    split at h
    · simpa using h
    · split at h
      · rcases List.mem_cons.1 h with h | h
        · exact .inl h
        · exact .inr (List.mem_cons_of_mem _ h)
      · rcases List.mem_cons.1 h with h | h
        · exact .inr (h ▸ List.mem_cons_self)
        · exact (mem_place h).imp id (List.mem_cons_of_mem _)

theorem place_ascending (key : String) (value : α) :
    ∀ {l : List (String × α)}, l.Pairwise (fun a b => a.1 < b.1) →
      (place key value l).Pairwise fun a b => a.1 < b.1
  | [], _ => List.pairwise_singleton ..
  | (k, v) :: rest, h => by
    rw [place]
    have h' := List.pairwise_cons.1 h
    split
    · next lt =>
      refine List.pairwise_cons.2 ⟨fun e he => ?_, h⟩
      rcases List.mem_cons.1 he with rfl | he
      · exact lt
      · exact String.lt_trans lt (h'.1 e he)
    · next nlt =>
      split
      · next eq => exact List.pairwise_cons.2 ⟨fun e he => eq ▸ h'.1 e he, h'.2⟩
      · next ne =>
        refine List.pairwise_cons.2 ⟨fun e he => ?_, place_ascending key value h'.2⟩
        rcases mem_place he with rfl | he
        · exact Std.lt_of_le_of_ne (String.not_lt.1 nlt) (Ne.symm ne)
        · exact h'.1 e he

def empty : Dictionary α := ⟨[], .nil⟩

instance : EmptyCollection (Dictionary α) := ⟨empty⟩

instance : Inhabited (Dictionary α) := ⟨empty⟩

/-- The value under a key. -/
def get? (d : Dictionary α) (key : String) : Option α :=
  seek key d.entries

def contains (d : Dictionary α) (key : String) : Bool :=
  (d.get? key).isSome

/-- Puts a value under a key, over the one that is there. -/
def insert (d : Dictionary α) (key : String) (value : α) : Dictionary α :=
  ⟨place key value d.entries, place_ascending key value d.ascending⟩

/-- Puts a value under a key that has none yet. -/
def insertNew (d : Dictionary α) (key : String) (value : α) : Dictionary α :=
  if d.contains key then d else d.insert key value

def erase (d : Dictionary α) (key : String) : Dictionary α :=
  ⟨d.entries.filter (·.1 ≠ key), d.ascending.filter _⟩

/-- Puts a value under a key, or takes the key out when there is none. -/
def set (d : Dictionary α) (key : String) : Option α → Dictionary α
  | some value => d.insert key value
  | none => d.erase key

/-- Applies a list of settings one after another. -/
def setAll (d : Dictionary α) (settings : List (String × Option α)) : Dictionary α :=
  settings.foldl (fun d s => d.set s.1 s.2) d

/-- The entries of a list; of two with one key the later wins. -/
def ofList (entries : List (String × α)) : Dictionary α :=
  entries.foldl (fun d e => d.insert e.1 e.2) ∅

def toList (d : Dictionary α) : List (String × α) :=
  d.entries

def keys (d : Dictionary α) : List String :=
  d.entries.map (·.1)

def values (d : Dictionary α) : List α :=
  d.entries.map (·.2)

def isEmpty (d : Dictionary α) : Bool :=
  d.entries.isEmpty

theorem keys_ascending (d : Dictionary α) : d.keys.Pairwise (· < ·) :=
  d.ascending.map _ fun _ _ h => h

@[simp] theorem get?_empty (key : String) : (∅ : Dictionary α).get? key = none := rfl

theorem seek_place (key : String) (value : α) (k : String) :
    ∀ l : List (String × α), seek k (place key value l) = if k = key then some value else seek k l
  | [] => by simp [place, seek, eq_comm]
  | (k', v) :: rest => by
    rw [place]
    split
    · by_cases h : k = key
      · simp [seek, h]
      · simp [seek, h, Ne.symm h]
    · split
      · next eq =>
        by_cases h : k = key
        · simp [seek, h]
        · simp [seek, ← eq, h, Ne.symm h]
      · next ne =>
        rw [seek, seek, seek_place key value k rest]
        by_cases h : k = key
        · simp [h, Ne.symm ne]
        · simp [h]

theorem seek_filter (key k : String) :
    ∀ l : List (String × α), seek k (l.filter (·.1 ≠ key)) = if k = key then none else seek k l
  | [] => by simp [seek]
  | (k', v) :: rest => by
    by_cases he : k' = key
    · rw [List.filter_cons_of_neg (by simpa using he), seek_filter key k rest, seek]
      by_cases h : k = key
      · simp [h]
      · simp [h, he, Ne.symm h]
    · rw [List.filter_cons_of_pos (by simpa using he), seek, seek_filter key k rest, seek]
      by_cases h : k = key
      · simp [h, he]
      · simp [h]

theorem get?_insert (d : Dictionary α) (key : String) (value : α) (k : String) :
    (d.insert key value).get? k = if k = key then some value else d.get? k :=
  seek_place key value k d.entries

theorem get?_erase (d : Dictionary α) (key k : String) :
    (d.erase key).get? k = if k = key then none else d.get? k :=
  seek_filter key k d.entries

theorem get?_set (d : Dictionary α) (key : String) (value : Option α) (k : String) :
    (d.set key value).get? k = if k = key then value else d.get? k := by
  cases value
  · exact get?_erase d key k
  · exact get?_insert d key _ k

theorem get?_insertNew (d : Dictionary α) (key : String) (value : α) (k : String) :
    (d.insertNew key value).get? k =
      if k = key ∧ d.get? key = none then some value else d.get? k := by
  rw [insertNew, contains]
  split
  · next h => simp [Option.isSome_iff_ne_none.1 h]
  · next h => simp [get?_insert, Option.not_isSome_iff_eq_none.1 h]

theorem seek_of_lt {key : String} :
    ∀ {l : List (String × α)}, (∀ e ∈ l, key < e.1) → seek key l = none
  | [], _ => rfl
  | e :: rest, h => by
    have ne : key ≠ e.1 := Std.ne_of_lt (h e List.mem_cons_self)
    rw [seek, seek_of_lt fun e' he' => h e' (List.mem_cons_of_mem _ he'), if_neg ne.symm]

theorem seek_of_mem {key : String} {value : α} :
    ∀ {l : List (String × α)}, l.Pairwise (fun a b => a.1 < b.1) → (key, value) ∈ l →
      seek key l = some value
  | (k, v) :: rest, h, mem => by
    have h' := List.pairwise_cons.1 h
    rw [seek]
    rcases List.mem_cons.1 mem with eq | mem
    · cases eq
      rw [if_pos rfl]
    · rw [if_neg (Std.ne_of_lt (h'.1 _ mem)), seek_of_mem h'.2 mem]

/-- Every entry is found under its key. -/
theorem get?_of_mem {d : Dictionary α} {key : String} {value : α}
    (mem : (key, value) ∈ d.toList) : d.get? key = some value :=
  seek_of_mem d.ascending mem

theorem mem_of_seek {key : String} {value : α} :
    ∀ {l : List (String × α)}, seek key l = some value → (key, value) ∈ l
  | (k, v) :: rest, found => by
    rw [seek] at found
    split at found
    · next eq =>
      cases found
      exact eq ▸ List.mem_cons_self
    · exact List.mem_cons_of_mem _ (mem_of_seek found)

theorem mem_toList {d : Dictionary α} {key : String} {value : α} :
    (key, value) ∈ d.toList ↔ d.get? key = some value :=
  ⟨get?_of_mem, mem_of_seek⟩

/-- A list that starts below another's first key holds a key that the other does not. -/
theorem not_lt_of_seek_eq {a b : String} {x y : α} {s t : List (String × α)}
    (ht : ∀ e ∈ t, b < e.1) (eq : seek a ((a, x) :: s) = seek a ((b, y) :: t)) : ¬ a < b := by
  intro lt
  have below : ∀ e ∈ (b, y) :: t, a < e.1 := by
    intro e he
    rcases List.mem_cons.1 he with rfl | he
    · exact lt
    · exact String.lt_trans lt (ht e he)
  rw [seek_of_lt below] at eq
  simp [seek] at eq

theorem eq_of_seek :
    ∀ {l m : List (String × α)}, l.Pairwise (fun a b => a.1 < b.1) →
      m.Pairwise (fun a b => a.1 < b.1) → (∀ k, seek k l = seek k m) → l = m
  | [], [], _, _, _ => rfl
  | [], e :: m, _, _, h => by simpa [seek] using h e.1
  | e :: l, [], _, _, h => by simpa [seek] using h e.1
  | (k, v) :: l, (k', v') :: m, hl, hm, h => by
    have hl' := List.pairwise_cons.1 hl
    have hm' := List.pairwise_cons.1 hm
    have key : k = k' :=
      String.le_antisymm (String.not_lt.1 (not_lt_of_seek_eq hl'.1 (h k').symm))
        (String.not_lt.1 (not_lt_of_seek_eq hm'.1 (h k)))
    subst key
    have value : v = v' := by simpa [seek] using h k
    subst value
    congr 1
    refine eq_of_seek hl'.2 hm'.2 fun k'' => ?_
    by_cases eq : k = k''
    · subst eq
      rw [seek_of_lt hl'.1, seek_of_lt hm'.1]
    · simpa [seek, eq] using h k''

/-- Dictionaries that answer every lookup alike are equal. -/
theorem ext_get? {d e : Dictionary α} (h : ∀ key, d.get? key = e.get? key) : d = e := by
  have := eq_of_seek d.ascending e.ascending h
  cases d
  cases e
  cases this
  rfl

theorem mem_keys_of_seek {key : String} :
    ∀ {l : List (String × α)}, key ∈ l.map (·.1) ↔ (seek key l).isSome
  | [] => by simp [seek]
  | (k, v) :: rest => by
    rw [List.map_cons, List.mem_cons, mem_keys_of_seek, seek]
    split
    · next eq => simp [eq]
    · next ne => simp [Ne.symm ne]

theorem mem_keys {d : Dictionary α} {key : String} : key ∈ d.keys ↔ d.contains key :=
  mem_keys_of_seek

theorem mem_values {d : Dictionary α} {value : α} :
    value ∈ d.values ↔ ∃ key, d.get? key = some value := by
  rw [values, List.mem_map]
  constructor
  · rintro ⟨⟨key, value⟩, mem, rfl⟩
    exact ⟨key, get?_of_mem mem⟩
  · rintro ⟨key, found⟩
    exact ⟨(key, value), mem_of_seek found, rfl⟩

/-- The first entry of a kind is the one with the least key. -/
theorem find?_toList_eq_some_iff {d : Dictionary α} {p : String × α → Bool} {key : String}
    {value : α} :
    d.toList.find? p = some (key, value) ↔
      d.get? key = some value ∧ p (key, value) ∧
        ∀ other value', d.get? other = some value' → p (other, value') → key ≤ other := by
  have least : ∀ {e : String × α}, d.toList.find? p = some e →
      ∀ e' ∈ d.toList, p e' → e.1 ≤ e'.1 := by
    intro e found e' mem kind
    obtain ⟨-, before, after, entries, others⟩ := List.find?_eq_some_iff_append.1 found
    have ascending : d.toList.Pairwise fun a b => a.1 < b.1 := d.ascending
    rw [entries] at ascending mem
    -- none of those passed over is of the kind, and the others are in order
    rcases List.mem_append.1 mem with earlier | mem
    · simpa [kind] using others _ earlier
    · rcases List.mem_cons.1 mem with rfl | later
      · exact String.le_refl _
      · have rest := (List.pairwise_append.1 ascending).2.1
        exact Std.le_of_lt ((List.pairwise_cons.1 rest).1 _ later)
  constructor
  · intro found
    exact ⟨get?_of_mem (List.mem_of_find?_eq_some found), List.find?_some found,
      fun other value' there kind => least found _ (mem_of_seek there) kind⟩
  · rintro ⟨there, kind, first⟩
    rcases found : d.toList.find? p with _ | ⟨key', value'⟩
    · exact absurd kind (List.find?_eq_none.1 found _ (mem_of_seek there))
    · have there' := get?_of_mem (List.mem_of_find?_eq_some found)
      have le := first key' value' there' (List.find?_some found)
      obtain rfl := String.le_antisymm le (least found _ (mem_of_seek there) kind)
      obtain rfl := Option.some.inj (there.symm.trans there')
      rfl

theorem get?_foldl_insert (key : String) :
    ∀ {l : List (String × α)} (d : Dictionary α), l.Pairwise (fun a b => a.1 < b.1) →
      (l.foldl (fun d e => d.insert e.1 e.2) d).get? key = (seek key l).or (d.get? key)
  | [], d, _ => rfl
  | (k, v) :: rest, d, h => by
    have h' := List.pairwise_cons.1 h
    rw [List.foldl_cons, get?_foldl_insert key _ h'.2, get?_insert, seek]
    by_cases eq : k = key
    · subst eq
      simp [seek_of_lt h'.1]
    · simp [eq, Ne.symm eq]

/-- A dictionary is that of its entries. -/
theorem ofList_toList (d : Dictionary α) : ofList d.toList = d :=
  ext_get? fun key => by
    rw [ofList, toList, get?_foldl_insert key _ d.ascending, get?_empty, Option.or_none]
    rfl

end Dictionary

end TextAdventure
