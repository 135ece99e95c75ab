/-! # Tables keyed by text

A table keeps its keys in the order in which they first came. Putting a value at a key
that is present leaves the key in its place.
-/
namespace Localization

abbrev Table (α : Type) := List (String × α)

namespace Table

variable {α : Type}

def get? (table : Table α) (key : String) : Option α := List.lookup key table

def put : Table α → String → α → Table α
  | [], key, value => [(key, value)]
  | (k, v) :: rest, key, value =>
    if k == key then (k, value) :: rest else (k, v) :: put rest key value

def has (table : Table α) (key : String) : Bool := (table.get? key).isSome

def keys (table : Table α) : List String := table.map Prod.fst

def erase (table : Table α) (key : String) : Table α := table.filter (·.1 != key)

def update (table other : Table α) : Table α :=
  other.foldl (fun t entry => put t entry.1 entry.2) table

def ofList (pairs : List (String × α)) : Table α := update [] pairs

theorem get?_put_self (table : Table α) (key : String) (value : α) :
    (table.put key value).get? key = some value := by
  induction table with
  | nil => simp [put, get?]
  | cons entry rest ih =>
    obtain ⟨k, v⟩ := entry
    by_cases h : k = key
    · subst h; simp [put, get?]
    · have hk : (k == key) = false := by simpa using h
      have hk' : (key == k) = false := by simpa using Ne.symm h
      simp only [put, hk, Bool.false_eq_true, ↓reduceIte, get?, List.lookup_cons, hk']
      exact ih

theorem get?_put_of_ne (table : Table α) {key other : String} (value : α) (h : other ≠ key) :
    (table.put key value).get? other = table.get? other := by
  induction table with
  | nil =>
    have : (other == key) = false := by simpa using h
    simp [put, get?, List.lookup_cons, this]
  | cons entry rest ih =>
    obtain ⟨k, v⟩ := entry
    by_cases hk : k = key
    · subst hk
      have : (other == k) = false := by simpa using h
      simp [put, get?, List.lookup_cons, this]
    · have hk' : (k == key) = false := by simpa using hk
      simp only [put, hk', Bool.false_eq_true, ↓reduceIte, get?, List.lookup_cons]
      split
      · rfl
      · exact ih

theorem get?_put (table : Table α) (key other : String) (value : α) :
    (table.put key value).get? other = if other = key then some value else table.get? other := by
  by_cases h : other = key
  · subst h; simp [get?_put_self]
  · simp [get?_put_of_ne table value h, h]

theorem get?_erase (table : Table α) (key other : String) :
    (table.erase key).get? other = if other = key then none else table.get? other := by
  induction table with
  | nil => simp [erase, get?]
  | cons entry rest ih =>
    obtain ⟨k, v⟩ := entry
    simp only [erase, get?] at ih ⊢
    by_cases hk : k = key
    · subst hk
      have hother : ∀ h : ¬ other = k, (other == k) = false := fun h => by simpa using h
      simp only [bne_self_eq_false, Bool.false_eq_true, not_false_eq_true, List.filter_cons_of_neg,
        ih, List.lookup_cons]
      split
      · rfl
      · next h => simp only [hother h]
    · have hk' : (k != key) = true := by simpa using hk
      simp only [hk', List.filter_cons_of_pos, List.lookup_cons, ih]
      by_cases ho : other = k
      · subst ho; simp [hk]
      · have ho' : (other == k) = false := by simpa using ho
        simp only [ho']

theorem get?_map {β : Type} (table : Table α) (f : α → β) (key : String) :
    get? (table.map fun entry => (entry.1, f entry.2)) key = (table.get? key).map f := by
  induction table with
  | nil => rfl
  | cons entry rest ih =>
    obtain ⟨k, v⟩ := entry
    simp only [get?, List.map_cons, List.lookup_cons] at ih ⊢
    split
    · rfl
    · exact ih

theorem mem_put {table : Table α} {key : String} {value : α} {entry : String × α}
    (h : entry ∈ table.put key value) : entry = (key, value) ∨ entry ∈ table := by
  induction table with
  | nil => exact .inl (List.mem_singleton.mp h)
  | cons first rest ih =>
    obtain ⟨k, v⟩ := first
    rw [put] at h
    split at h
    · next same =>
      rw [eq_of_beq same] at h
      exact (List.mem_cons.mp h).imp_right (List.mem_cons_of_mem _)
    · rcases List.mem_cons.mp h with rfl | later
      · exact .inr List.mem_cons_self
      · exact (ih later).imp_right (List.mem_cons_of_mem _)

theorem mem_of_get? {table : Table α} {key : String} {value : α}
    (h : table.get? key = some value) : (key, value) ∈ table := by
  obtain ⟨before, after, rfl, -⟩ := List.lookup_eq_some_iff.mp h
  exact List.mem_append_right _ List.mem_cons_self

@[simp] theorem has_put (table : Table α) (key other : String) (value : α) :
    (table.put key value).has other = (other == key || table.has other) := by
  simp only [has, get?_put]
  by_cases h : other = key <;> simp [h]

theorem mem_keys_iff {table : Table α} {key : String} :
    key ∈ table.keys ↔ table.has key = true := by
  induction table with
  | nil => simp [keys, has, get?]
  | cons entry rest ih =>
    obtain ⟨k, v⟩ := entry
    simp only [keys, has, get?] at ih
    simp only [keys, has, get?, List.map_cons, List.mem_cons, List.lookup_cons, ih]
    by_cases same : key = k
    · simp [same]
    · have other : (key == k) = false := by simpa using same
      simp [same, other]

theorem keys_put_of_mem {table : Table α} {key : String} (h : key ∈ table.keys) (value : α) :
    (table.put key value).keys = table.keys := by
  induction table with
  | nil => cases h
  | cons entry rest ih =>
    obtain ⟨k, v⟩ := entry
    by_cases same : k = key
    · simp [put, keys, same]
    · have other : (k == key) = false := by simpa using same
      have later : key ∈ keys rest := (List.mem_cons.mp h).resolve_left (Ne.symm same)
      have tail : List.map Prod.fst (put rest key value) = List.map Prod.fst rest := ih later
      simp [put, keys, other, tail]

theorem keys_put_of_not_mem {table : Table α} {key : String} (h : key ∉ table.keys) (value : α) :
    (table.put key value).keys = table.keys ++ [key] := by
  induction table with
  | nil => rfl
  | cons entry rest ih =>
    obtain ⟨k, v⟩ := entry
    have apart := List.ne_and_not_mem_of_not_mem_cons h
    have other : (k == key) = false := by simpa using Ne.symm apart.1
    have tail : List.map Prod.fst (put rest key value) = List.map Prod.fst rest ++ [key] :=
      ih apart.2
    simp [put, keys, other, tail]

/-- New keys that are put one after the other come in their order. -/
theorem keys_update {table other : Table α} (once : (table.keys ++ other.keys).Nodup) :
    (table.update other).keys = table.keys ++ other.keys := by
  induction other generalizing table with
  | nil => exact (List.append_nil _).symm
  | cons entry rest ih =>
    obtain ⟨key, value⟩ := entry
    have apart : key ∉ table.keys := fun inside =>
      (List.nodup_append.mp once).2.2 key inside key List.mem_cons_self rfl
    have split : table.keys ++ keys ((key, value) :: rest) =
        (table.put key value).keys ++ keys rest := by
      rw [keys_put_of_not_mem apart, List.append_assoc]
      rfl
    rw [split] at once ⊢
    exact ih once

end Table

end Localization
