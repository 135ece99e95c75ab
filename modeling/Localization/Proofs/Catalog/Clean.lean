import Localization.Proofs.Catalog.Merge
import Localization.Proofs.Catalog.Site

/-! # Catalogs without unsafe keys

Merging puts entries only under safe keys and merges the maps below them in turn, so a map into
which others are merged stays clean at every depth. Catalogs begin as the empty map.
-/
namespace Localization.Catalog

open Text

/-- A map is reached from a catalog through maps that are values of entries. -/
inductive Within (catalog : Entries) : Entries → Prop
  | whole : Within catalog catalog
  | inner {entries inside : Entries} {key : Value} (outer : Within catalog entries)
      (here : (key, .map inside) ∈ entries) : Within catalog inside

/-- No map within a catalog has an unsafe key, blanks around it and case aside. -/
def SafeThroughout (catalog : Entries) : Prop :=
  ∀ entries, Within catalog entries → ∀ entry ∈ entries,
    lowerString (trimString entry.1.display) ∉ unsafeKeys

def HasSafeKeys (entries : Entries) : Prop := ∀ entry ∈ entries, isUnsafeKey entry.1 = false

def Clean (v : Value) : Prop := Throughout HasSafeKeys v

theorem lasting_hasSafeKeys : Lasting HasSafeKeys where
  nil := fun _ inside => by cases inside
  put v h safe := by
    intro entry inside
    rcases (Entries.mem_put inside).1 with new | ⟨old, there, same⟩
    · rw [new]
      exact safe
    · rw [← same]
      exact h old there

theorem Clean.within {catalog entries : Entries} (h : Clean (.map catalog))
    (reached : Within catalog entries) : Clean (.map entries) := by
  induction reached with
  | whole => exact h
  | inner outer here ih => exact ih.parts.2 _ here

theorem Clean.safeThroughout {catalog : Entries} (h : Clean (.map catalog)) :
    SafeThroughout catalog := by
  intro entries reached entry inside listed
  have safe := (h.within reached).parts.1 entry inside
  exact Bool.false_ne_true (safe.symm.trans (List.contains_iff_mem.mpr listed))

theorem clean_nil : Clean (.map []) := lasting_hasSafeKeys.throughout_nil

theorem clean_merge {target : Entries} (h : Clean (.map target)) (source : Entries) :
    Clean (.map (merge target source)) := throughout_merge lasting_hasSafeKeys h source

theorem clean_foldl_merge (sources : List Entries) {target : Entries} (h : Clean (.map target)) :
    Clean (.map (sources.foldl merge target)) := by
  induction sources generalizing target with
  | nil => exact h
  | cons source rest ih => exact ih (clean_merge h source)

theorem clean_normalize {fragment : Value} {messages : Entries}
    (h : normalize fragment = .ok messages) : Clean (.map messages) :=
  throughout_normalize lasting_hasSafeKeys h

theorem clean_readLocale [Stack] {folder : String} {files : Files} {locale : String}
    {catalog : Entries} (h : (readLocale folder files locale).outcome = .ok catalog) : Clean (.map catalog) := by
  rw [outcome_readLocale] at h
  split at h
  · cases h
  · obtain ⟨values, -, rfl⟩ := ok_of_map h
    exact clean_foldl_merge _ clean_nil

namespace Site

def Clean (site : Site) : Prop :=
  ∀ locale catalog, site.loader.cached? locale = some catalog → Catalog.Clean (.map catalog)

variable [Stack] {site : Site} {useCache : Bool}

theorem Clean.given (h : site.Clean) {locale : String} {catalog : Entries}
    (gives : site.given locale = .ok catalog) : Catalog.Clean (.map catalog) := by
  cases entry : site.loader.cached? locale with
  | some kept =>
    have same := (Loader.given_of_cached entry).symm.trans gives
    cases same
    exact h locale catalog entry
  | none => exact clean_readLocale ((Loader.given_of_absent entry).symm.trans gives)

omit [Stack] in
theorem clean_of_not_caching (caching : site.loader.useCache = false) : site.Clean := by
  intro locale catalog entry
  rw [Loader.cached?, caching] at entry
  cases entry

omit [Stack] in
theorem IsNew.clean (new : site.IsNew useCache) : site.Clean := by
  intro locale catalog entry
  obtain ⟨path, fresh⟩ := new.loader_eq
  rw [fresh] at entry
  cases useCache <;> cases entry

theorem Clean.act (h : site.Clean) (action : Action) : (site.act action).Clean := by
  cases caching : site.loader.useCache with
  | false => exact clean_of_not_caching ((act_kept site action).2.trans caching)
  | true =>
    intro locale catalog entry
    by_cases cleared : action = .clear
    · rw [cleared, cached?_clear] at entry
      cases entry
    · by_cases loads : site.Loads locale action
      · rw [cached?_of_loads caching loads] at entry
        exact h.given (ok_of_toOption entry)
      · rw [cached?_of_not_loads caching loads cleared] at entry
        exact h locale catalog entry

theorem Clean.after (h : site.Clean) (actions : List Action) : (site.after actions).Clean := by
  induction actions generalizing site with
  | nil => exact h
  | cons action rest ih => exact ih (h.act action)

end Site

end Localization.Catalog
