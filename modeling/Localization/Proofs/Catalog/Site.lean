import Localization.Proofs.Catalog.Loading

/-! # Histories of a loader and its folder

A loader stands beside the files of its folder. It is asked for a catalog or for all of them, it
is cleared, and meanwhile files are written and removed. What an action does to the entry of a
locale is said here once: clearing drops it, loading the locale makes it what is given then, and
nothing else touches it.
-/
namespace Localization.Catalog

inductive Action where
  | load (locale : String)
  | loadAll
  | clear
  | write (name : String) (octets : List UInt8)
  | remove (name : String)
  deriving DecidableEq, Repr

/-- A loader and the files of its folder as they are. -/
structure Site where
  loader : Loader
  files : Files

namespace Site

variable [Stack]

def act (site : Site) : Action → Site
  | .load locale => { site with loader := site.loader.loaded site.files locale }
  | .loadAll => { site with loader := (site.loader.loadAll site.files).value.2 }
  | .clear => { site with loader := site.loader.clear.value }
  | .write name octets => { site with files := site.files.put name octets }
  | .remove name => { site with files := site.files.erase name }

def after (site : Site) (actions : List Action) : Site := actions.foldl act site

/-- The loader was just made for the folder. -/
def IsNew (site : Site) (useCache : Bool) : Prop :=
  ∃ path, (Loader.ofFolder ⟨path, some site.files⟩ useCache).outcome = .ok site.loader

def octets (text : String) : List UInt8 := text.toList.map fun c => c.toNat.toUInt8

/-- What the loader gives for a locale. -/
def given (site : Site) (locale : String) : Except Failure Entries :=
  site.loader.given site.files locale

/-- What the loader gives when all locales are asked for. -/
def givenAll (site : Site) : Except Failure (Table Entries) :=
  (site.loader.loadAll site.files).value.1

/-- Whether an action loads a locale: the locale is asked for, or all of them are, and neither
it nor one before it fails. -/
def Loads (site : Site) (locale : String) : Action → Prop
  | .load asked => asked = locale ∧ (site.given locale).isOk = true
  | .loadAll => locale ∈ localesOf site.files ∧
      ∀ other ∈ localesOf site.files, other ≤ locale → (site.given other).isOk = true
  | .clear | .write .. | .remove _ => False

omit [Stack] in
theorem IsNew.loader_eq {site : Site} {useCache : Bool} (h : site.IsNew useCache) :
    ∃ path, site.loader = ⟨path, useCache, []⟩ := by
  obtain ⟨path, made⟩ := h
  exact ⟨path, (Except.ok.inj made).symm⟩

@[simp] theorem after_nil (site : Site) : site.after [] = site := rfl

theorem after_snoc (site : Site) (actions : List Action) (last : Action) :
    site.after (actions ++ [last]) = (site.after actions).act last := List.foldl_append

variable {site : Site} {locale : String}

theorem act_kept (site : Site) (action : Action) :
    (site.act action).loader.folder = site.loader.folder ∧
      (site.act action).loader.useCache = site.loader.useCache := by
  cases action with
  | load locale => exact site.loader.loaded_kept site.files locale
  | loadAll =>
    rw [act, Loader.loadAll_snd]
    exact site.loader.loadEach_kept site.files (localesOf site.files)
  | clear => exact ⟨rfl, rfl⟩
  | write name octets => exact ⟨rfl, rfl⟩
  | remove name => exact ⟨rfl, rfl⟩

theorem isOk_of_loads {action : Action} (h : site.Loads locale action) :
    (site.given locale).isOk = true := by
  cases action with
  | load asked => exact h.2
  | loadAll => exact h.2 locale h.1 (String.le_refl locale)
  | clear => exact h.elim
  | write name octets => exact h.elim
  | remove name => exact h.elim

theorem cached?_clear (site : Site) (locale : String) :
    (site.act .clear).loader.cached? locale = none := by
  change (if site.loader.useCache then none else none) = none
  split <;> rfl

theorem cached?_loadAll (caching : site.loader.useCache = true) (locale : String) :
    (site.act .loadAll).loader.cached? locale =
      if locale ∈ (localesOf site.files).takeWhile (fun l => (site.given l).isOk) then
        (site.given locale).toOption
      else site.loader.cached? locale := by
  rw [act, Loader.loadAll_snd]
  exact Loader.cached?_loadEach caching (localesOf site.files) locale

theorem cached?_of_loads (caching : site.loader.useCache = true) {action : Action}
    (h : site.Loads locale action) :
    (site.act action).loader.cached? locale = (site.given locale).toOption := by
  cases action with
  | load asked =>
    obtain ⟨rfl, -⟩ := h
    exact (Loader.cached?_loaded caching asked).trans (if_pos rfl)
  | loadAll =>
    have first := (Loader.mem_takeWhile_of_ascending (localesOf_ascending site.files)).mpr h
    rw [cached?_loadAll caching, if_pos first]
  | clear => exact h.elim
  | write name octets => exact h.elim
  | remove name => exact h.elim

theorem cached?_of_not_loads (caching : site.loader.useCache = true) {action : Action}
    (h : ¬ site.Loads locale action) (kept : action ≠ .clear) :
    (site.act action).loader.cached? locale = site.loader.cached? locale := by
  cases action with
  | load asked =>
    refine (Loader.cached?_loaded caching locale).trans ?_
    split
    · next same =>
      subst same
      cases result : site.given locale with
      | ok catalog => exact absurd ⟨rfl, by rw [result]; rfl⟩ h
      | error failure =>
        rw [given] at result
        rw [result, (Loader.loaded_of_error result).1]
        rfl
    · rfl
  | loadAll =>
    have apart := mt (Loader.mem_takeWhile_of_ascending (localesOf_ascending site.files)).mp h
    rw [cached?_loadAll caching, if_neg apart]
  | clear => exact absurd rfl kept
  | write name octets => rfl
  | remove name => rfl

theorem givenAll_of_none (empty : localesOf site.files = []) :
    site.givenAll = .error (.noFiles site.loader.folder) ∧ site.act .loadAll = site := by
  have nothing := site.loader.loadAll_of_none empty
  rw [givenAll, act, nothing]
  exact ⟨rfl, rfl⟩

theorem givenAll_of_some (found : localesOf site.files ≠ []) :
    site.givenAll = (Loader.loadEach site.files site.loader (localesOf site.files)).value.1 := by
  rw [givenAll, Loader.loadAll_of_some found]

theorem givenAll_ok {table : Table Entries} (h : site.givenAll = .ok table) :
    table.keys = localesOf site.files ∧ ∀ entry ∈ table, site.given entry.1 = .ok entry.2 := by
  cases empty : localesOf site.files with
  | nil =>
    rw [(givenAll_of_none empty).1] at h
    cases h
  | cons first rest =>
    rw [givenAll_of_some (empty ▸ List.cons_ne_nil first rest)] at h
    rw [← empty]
    exact Loader.loadEach_ok h

theorem after_kept (site : Site) (actions : List Action) :
    (site.after actions).loader.folder = site.loader.folder ∧
      (site.after actions).loader.useCache = site.loader.useCache := by
  induction actions generalizing site with
  | nil => exact ⟨rfl, rfl⟩
  | cons action rest ih =>
    obtain ⟨folder, useCache⟩ := act_kept site action
    obtain ⟨folder', useCache'⟩ := ih (site.act action)
    exact ⟨folder'.trans folder, useCache'.trans useCache⟩

end Site

end Localization.Catalog
