import Localization.Proofs.Catalog.Clean

/-! # Later entries win and the rest stays

A path is looked up in a merged map by walking nested maps. What the second map has at the path
wins, and maps that both have there are merged in turn. What the second map says nothing about is
found as in the first. At every level the keys of the first map come first, in their order, and the
new ones of the second map after them.
-/
namespace Localization

namespace Entries

open Value

def keys (entries : Entries) : List Value := entries.map Prod.fst

theorem exists_mem_put (entries : Entries) (k v : Value) :
    ∃ form, (form, v) ∈ put entries k v ∧ ∀ other, k.sameKey other = false →
      form.sameKey other = false := by
  induction entries with
  | nil => exact ⟨k, List.mem_singleton_self _, fun _ differ => differ⟩
  | cons entry rest ih =>
    obtain ⟨k', v'⟩ := entry
    rw [put]
    split
    · next same =>
      exact ⟨k', List.mem_cons_self, fun other differ => (sameKey_congr same other).trans differ⟩
    · obtain ⟨form, inside, apart⟩ := ih
      exact ⟨form, List.mem_cons_of_mem _ inside, apart⟩

theorem mem_put_of_ne {entries : Entries} {e : Value × Value} (inside : e ∈ entries) {k : Value}
    (differ : e.1.sameKey k = false) (v : Value) : e ∈ put entries k v := by
  induction entries with
  | nil => cases inside
  | cons entry rest ih =>
    obtain ⟨k', v'⟩ := entry
    rw [put]
    split
    · next same =>
      rcases List.mem_cons.mp inside with rfl | later
      · exact absurd (same.symm.trans differ) (by decide)
      · exact List.mem_cons_of_mem _ later
    · rcases List.mem_cons.mp inside with rfl | later
      · exact List.mem_cons_self
      · exact List.mem_cons_of_mem _ (ih later)

end Entries

namespace Catalog

open Value Entries

def SafePath (path : List String) : Prop := ∀ key ∈ path, isUnsafe key = false

theorem SafePath.parts {key : String} {rest : List String} (h : SafePath (key :: rest)) :
    isUnsafe key = false ∧ SafePath rest := List.forall_mem_cons.mp h

theorem mem_mergeInto (target : Entries) {source : Entries} (distinct : Distinct source)
    (output : Entries) {k v : Value} (inside : (k, v) ∈ safeEntries source) :
    ∃ form, (form, mergeValue (get? target k) v) ∈ mergeInto target output source := by
  -- What is put stays, since later keys are other keys.
  have stays {source : Entries} {e : Value × Value} (output : Entries) (there : e ∈ output)
      (apart : ∀ other ∈ source, e.1.sameKey other.1 = false) :
      e ∈ mergeInto target output source := by
    induction source generalizing output with
    | nil => exact there
    | cons entry rest ih =>
      obtain ⟨first, others⟩ := List.forall_mem_cons.mp apart
      rw [mergeInto_cons, mergeEntry]
      split
      · exact ih output there others
      · exact ih _ (mem_put_of_ne there first _) others
  induction source generalizing output with
  | nil => cases inside
  | cons entry rest ih =>
    obtain ⟨k', v'⟩ := entry
    obtain ⟨first, others⟩ := List.pairwise_cons.mp distinct
    rw [mergeInto_cons, mergeEntry]
    rw [safeEntries_cons] at inside
    split at inside
    · next skipped =>
      rw [if_pos skipped]
      exact ih others output inside
    · next safe =>
      rw [if_neg safe]
      rcases List.mem_cons.mp inside with same | later
      · cases same
        obtain ⟨form, there, apart⟩ := exists_mem_put output k (mergeValue (get? target k) v)
        exact ⟨form, stays _ there fun other among => apart other.1 (first other among)⟩
      · exact ih others _ later

/-- Two maps are merged somewhere when two others are: those two, and below two that are merged
each map of the second one under a safe key, with what the first one has in its place. -/
inductive Level (target source : Entries) : Entries → Entries → Prop
  | top : Level target source target source
  | under {first second inner : Entries} {key : Value} (above : Level target source first second)
      (here : (key, .map inner) ∈ safeEntries second) :
      Level target source (entriesOf (get? first key)) inner

section Level

variable {target source first second : Entries}

theorem Level.tidy (level : Level target source first second) (tidy : Tidy (.map source)) :
    Tidy (.map second) := by
  induction level with
  | top => exact tidy
  | under above here ih =>
    cases ih with
    | leaf noMap => cases noMap
    | map distinct inner => exact inner _ (mem_of_mem_safeEntries here)

theorem Level.within (level : Level target source first second) (tidy : Tidy (.map source)) :
    Within (merge target source) (merge first second) := by
  induction level with
  | top => exact .whole
  | @under first second inner key above here ih =>
    cases above.tidy tidy with
    | leaf noMap => cases noMap
    | map distinct =>
      obtain ⟨form, inside⟩ := mem_mergeInto first distinct first here
      exact ih.inner inside

end Level

end Catalog

end Localization
