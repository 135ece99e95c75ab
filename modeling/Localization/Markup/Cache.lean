/-! # Caches of recent entries

A cache holds at most a given number of entries, from the least to the most recently used.
Reading an entry that is present and putting an entry are uses; the least recently used
entry gives way when there are too many.
-/
namespace Localization

structure Cache (κ α : Type) where
  capacity : Nat
  entries : List (κ × α)
  deriving Repr

namespace Cache

variable {κ α : Type} [BEq κ]

def empty (capacity : Nat) : Cache κ α := ⟨capacity, []⟩

def size (cache : Cache κ α) : Nat := cache.entries.length

def peek? (cache : Cache κ α) (key : κ) : Option α := cache.entries.lookup key

def contains (cache : Cache κ α) (key : κ) : Bool := (cache.peek? key).isSome

/-- Makes an entry the most recently used one. -/
def renew (cache : Cache κ α) (key : κ) (value : α) : Cache κ α :=
  { cache with entries := cache.entries.filter (fun entry => !(entry.1 == key)) ++ [(key, value)] }

/-- Drops the least recently used entries beyond the capacity. -/
def trim (cache : Cache κ α) : Cache κ α :=
  { cache with entries := cache.entries.drop (cache.entries.length - cache.capacity) }

def get (cache : Cache κ α) (key : κ) : Option α × Cache κ α :=
  match cache.peek? key with
  | some value => (some value, cache.renew key value)
  | none => (none, cache)

def put (cache : Cache κ α) (key : κ) (value : α) : Cache κ α := (cache.renew key value).trim

def clear (cache : Cache κ α) : Cache κ α := { cache with entries := [] }

end Cache

end Localization
