import Localization.Proofs.Catalog.Folder
import Localization.Proofs.Trace

/-! # Loading while files change

A loader with a cache is asked for catalogs while the files of its folder are written and
removed. A load changes nothing about what is given for any locale, and after it the entry of
the locale is what was given. Loading all locales is loading them in ascending order up to the
first failure.
-/
namespace Localization.Catalog

namespace Loader

variable [Stack]

/-- What a loader gives for a locale. -/
def given (loader : Loader) (files : Files) (locale : String) : Except Failure Entries :=
  (loader.load files locale).value.1

/-- The loader after a load. -/
def loaded (loader : Loader) (files : Files) (locale : String) : Loader :=
  (loader.load files locale).value.2

def uncached (folder : String) (files : Files) (locale : String) : Except Failure Entries :=
  given ⟨folder, false, []⟩ files locale

variable {loader : Loader} {files : Files} {locale : String}

theorem load_of_cached {catalog : Entries} (here : loader.cached? locale = some catalog) :
    (loader.load files locale).value = (.ok catalog, loader) := by
  rw [load, here]
  rfl

theorem load_of_read (absent : loader.cached? locale = none) {catalog : Entries}
    (read : (readLocale loader.folder files locale).outcome = .ok catalog) :
    (loader.load files locale).value = (.ok catalog, loader.remember locale catalog) := by
  have run : (readLocale loader.folder files locale).run.value = .ok catalog := read
  simp only [load, absent, Traced.value_bind, run]
  rfl

theorem load_of_unread (absent : loader.cached? locale = none) {failure : Failure}
    (unread : (readLocale loader.folder files locale).outcome = .error failure) :
    (loader.load files locale).value = (.error failure, loader) := by
  have run : (readLocale loader.folder files locale).run.value = .error failure := unread
  simp only [load, absent, Traced.value_bind, run]
  rfl

theorem given_of_absent (absent : loader.cached? locale = none) :
    loader.given files locale = (readLocale loader.folder files locale).outcome := by
  rw [given]
  cases read : (readLocale loader.folder files locale).outcome with
  | ok catalog => rw [load_of_read absent read]
  | error failure => rw [load_of_unread absent read]

theorem uncached_eq (folder : String) (files : Files) (locale : String) :
    uncached folder files locale = (readLocale folder files locale).outcome :=
  given_of_absent rfl

theorem given_of_cached {catalog : Entries} (here : loader.cached? locale = some catalog) :
    loader.given files locale = .ok catalog := by
  rw [given, load_of_cached here]

theorem loaded_of_error {failure : Failure} (failed : loader.given files locale = .error failure) :
    loader.cached? locale = none ∧ loader.loaded files locale = loader := by
  cases here : loader.cached? locale with
  | some catalog =>
    rw [given_of_cached here] at failed
    cases failed
  | none =>
    rw [given_of_absent here] at failed
    exact ⟨rfl, by rw [loaded, load_of_unread here failed]⟩

theorem loaded_kept (loader : Loader) (files : Files) (locale : String) :
    (loader.loaded files locale).folder = loader.folder ∧
      (loader.loaded files locale).useCache = loader.useCache := by
  cases here : loader.cached? locale with
  | some catalog => rw [loaded, load_of_cached here]; exact ⟨rfl, rfl⟩
  | none =>
    cases read : (readLocale loader.folder files locale).outcome with
    | error failure => rw [loaded, load_of_unread here read]; exact ⟨rfl, rfl⟩
    | ok catalog =>
      rw [loaded, load_of_read here read, remember.eq_def]
      split <;> exact ⟨rfl, rfl⟩

omit [Stack] in
theorem cached?_remember (caching : loader.useCache = true) (catalog : Entries)
    (other : String) :
    (loader.remember locale catalog).cached? other =
      if other = locale then some catalog else loader.cached? other := by
  simp only [remember, cached?, caching, ↓reduceIte, Table.get?_put]

theorem cached?_loaded (caching : loader.useCache = true) (other : String) :
    (loader.loaded files locale).cached? other =
      if other = locale then (loader.given files locale).toOption else loader.cached? other := by
  cases here : loader.cached? locale with
  | some catalog =>
    rw [loaded, load_of_cached here, given_of_cached here]
    split
    · next same => rw [same, here]; rfl
    · rfl
  | none =>
    rw [given_of_absent here]
    cases read : (readLocale loader.folder files locale).outcome with
    | ok catalog =>
      rw [loaded, load_of_read here read]
      exact cached?_remember caching catalog other
    | error failure =>
      rw [loaded, load_of_unread here read]
      split
      · next same => rw [same, here]; rfl
      · rfl

theorem loaded_of_not_caching (caching : loader.useCache = false) :
    loader.loaded files locale = loader := by
  have absent : loader.cached? locale = none := by simp only [cached?, caching, Bool.false_eq_true,
    ↓reduceIte]
  cases read : (readLocale loader.folder files locale).outcome with
  | error failure => rw [loaded, load_of_unread absent read]
  | ok catalog =>
    rw [loaded, load_of_read absent read, remember, caching]
    rfl

theorem given_loaded (loader : Loader) (files : Files) (locale : String) :
    (loader.loaded files locale).given files = loader.given files := by
  funext other
  cases caching : loader.useCache with
  | false => rw [loaded_of_not_caching caching]
  | true =>
    have entry := @cached?_loaded _ loader files locale caching other
    have folder := (loaded_kept loader files locale).1
    by_cases same : other = locale
    · rw [if_pos same] at entry
      subst same
      cases result : loader.given files other with
      | ok catalog =>
        rw [result] at entry
        exact given_of_cached entry
      | error failure => rw [(loaded_of_error result).2, result]
    · rw [if_neg same] at entry
      cases here : loader.cached? other with
      | some catalog => rw [given_of_cached (entry.trans here), given_of_cached here]
      | none => rw [given_of_absent (entry.trans here), given_of_absent here, folder]

theorem loadEach_of_error {failure : Failure} (failed : loader.given files locale = .error failure)
    (rest : List String) :
    (loadEach files loader (locale :: rest)).value = (.error failure, loader) := by
  have loads : (loader.load files locale).value = (.error failure, loader) :=
    Prod.ext failed (loaded_of_error failed).2
  simp only [loadEach, Traced.value_bind, loads]
  rfl

theorem loadEach_of_ok {catalog : Entries} (got : loader.given files locale = .ok catalog)
    (rest : List String) :
    (loadEach files loader (locale :: rest)).value =
      ((loadEach files (loader.loaded files locale) rest).value.1.map
          fun others => (locale, catalog) :: others,
        (loadEach files (loader.loaded files locale) rest).value.2) := by
  have loads : (loader.load files locale).value = (.ok catalog, loader.loaded files locale) :=
    Prod.ext got rfl
  simp only [loadEach, Traced.value_bind, loads]
  rcases (loadEach files (loader.loaded files locale) rest).value with ⟨_ | _, last⟩ <;> rfl

theorem loadEach_ok {locales : List String}
    {table : Table Entries} (h : (loadEach files loader locales).value.1 = .ok table) :
    table.keys = locales ∧ ∀ entry ∈ table, loader.given files entry.1 = .ok entry.2 := by
  induction locales generalizing loader table with
  | nil =>
    cases h
    exact ⟨rfl, fun entry inside => by cases inside⟩
  | cons locale rest ih =>
    cases got : loader.given files locale with
    | error failure =>
      rw [loadEach_of_error got] at h
      cases h
    | ok catalog =>
      rw [loadEach_of_ok got] at h
      obtain ⟨later, others, rfl⟩ := ok_of_map h
      obtain ⟨keys, each⟩ := ih others
      rw [given_loaded] at each
      exact ⟨congrArg (locale :: ·) keys, List.forall_mem_cons.mpr ⟨got, each⟩⟩

theorem loadEach_error {locales : List String}
    {failure : Failure} (h : (loadEach files loader locales).value.1 = .error failure) :
    ∃ before failing later, locales = before ++ failing :: later ∧
      loader.given files failing = .error failure ∧
      ∀ other ∈ before, (loader.given files other).isOk = true := by
  induction locales generalizing loader with
  | nil => cases h
  | cons locale rest ih =>
    cases got : loader.given files locale with
    | error first =>
      rw [loadEach_of_error got] at h
      cases h
      exact ⟨[], locale, rest, rfl, got, fun other inside => by cases inside⟩
    | ok catalog =>
      rw [loadEach_of_ok got] at h
      cases others : (loadEach files (loader.loaded files locale) rest).value.1 with
      | ok later => rw [others] at h; cases h
      | error last =>
        rw [others] at h
        cases h
        obtain ⟨before, failing, later, rfl, failed, each⟩ := ih others
        rw [given_loaded] at failed each
        refine ⟨locale :: before, failing, later, rfl, failed, ?_⟩
        exact List.forall_mem_cons.mpr ⟨by rw [got]; rfl, each⟩

theorem loadEach_kept (loader : Loader) (files : Files) (locales : List String) :
    (loadEach files loader locales).value.2.folder = loader.folder ∧
      (loadEach files loader locales).value.2.useCache = loader.useCache := by
  induction locales generalizing loader with
  | nil => exact ⟨rfl, rfl⟩
  | cons locale rest ih =>
    cases got : loader.given files locale with
    | error failure => rw [loadEach_of_error got]; exact ⟨rfl, rfl⟩
    | ok catalog =>
      rw [loadEach_of_ok got]
      obtain ⟨folder, useCache⟩ := ih (loader.loaded files locale)
      obtain ⟨folder', useCache'⟩ := loaded_kept loader files locale
      exact ⟨folder.trans folder', useCache.trans useCache'⟩

theorem cached?_loadEach (caching : loader.useCache = true) (locales : List String)
    (other : String) :
    (loadEach files loader locales).value.2.cached? other =
      if other ∈ locales.takeWhile (fun l => (loader.given files l).isOk) then
        (loader.given files other).toOption
      else loader.cached? other := by
  induction locales generalizing loader with
  | nil => rfl
  | cons locale rest ih =>
    cases got : loader.given files locale with
    | error failure =>
      have failed : (loader.given files locale).isOk = false := by rw [got]; rfl
      rw [loadEach_of_error got, List.takeWhile_cons_of_neg (by rw [failed]; decide),
        if_neg List.not_mem_nil]
    | ok catalog =>
      have fine : (loader.given files locale).isOk = true := by rw [got]; rfl
      have still := (loaded_kept loader files locale).2.trans caching
      have passes := List.takeWhile_cons_of_pos
        (p := fun l => (loader.given files l).isOk) (l := rest) fine
      rw [loadEach_of_ok got, passes, ih still, given_loaded, cached?_loaded caching]
      by_cases same : other = locale
      · subst same
        simp
      · simp [same]

theorem loadAll_of_none (loader : Loader) (empty : localesOf files = []) :
    (loader.loadAll files).value = (.error (.noFiles loader.folder), loader) := by
  rw [loadAll, empty]
  rfl

theorem loadAll_of_some (found : localesOf files ≠ []) :
    loader.loadAll files = loadEach files loader (localesOf files) := by
  rw [loadAll]
  split
  · next empty => exact absurd empty found
  · rfl

theorem loadAll_snd (loader : Loader) (files : Files) :
    (loader.loadAll files).value.2 = (loadEach files loader (localesOf files)).value.2 := by
  cases found : localesOf files with
  | nil =>
    rw [loadAll_of_none loader found]
    rfl
  | cons first rest =>
    rw [loadAll_of_some (found ▸ List.cons_ne_nil first rest), found]

theorem loadAll_of_readable {folder : String} (readable : Readable folder files)
    (some : localesOf files ≠ []) (useCache : Bool) :
    ∃ table, (loadAll ⟨folder, useCache, []⟩ files).value.1 = .ok table ∧
      table.keys = localesOf files := by
  have new (locale : String) : cached? ⟨folder, useCache, []⟩ locale = none := by
    cases useCache <;> rfl
  rw [loadAll_of_some some]
  cases result : (loadEach files ⟨folder, useCache, []⟩ (localesOf files)).value.1 with
  | ok table => exact ⟨table, rfl, (loadEach_ok result).1⟩
  | error failure =>
    obtain ⟨before, failing, later, split, failed, -⟩ := loadEach_error result
    have named : failing ∈ localesOf files :=
      split ▸ List.mem_append_right before List.mem_cons_self
    obtain ⟨catalog, read⟩ := readable.readLocale named
    rw [given_of_absent (new failing), read] at failed
    cases failed

omit [Stack] in
/-- What comes before the first failure in ascending order is what is no greater than itself or
others that all succeed. -/
theorem mem_takeWhile_of_ascending {passes : String → Bool} {locales : List String}
    (ascending : locales.Pairwise (· < ·)) {locale : String} :
    locale ∈ locales.takeWhile passes ↔
      locale ∈ locales ∧ ∀ other ∈ locales, other ≤ locale → passes other = true := by
  induction locales with
  | nil => simp
  | cons first rest ih =>
    obtain ⟨least, others⟩ := List.pairwise_cons.mp ascending
    cases fine : passes first with
    | false =>
      rw [List.takeWhile_cons_of_neg (by rw [fine]; exact Bool.false_ne_true)]
      refine iff_of_false List.not_mem_nil fun ⟨inside, each⟩ => ?_
      have le : first ≤ locale := by
        rcases List.mem_cons.mp inside with rfl | later
        · exact String.le_refl _
        · exact Std.le_of_lt (least locale later)
      rw [each first List.mem_cons_self le] at fine
      cases fine
    | true =>
      rw [List.takeWhile_cons_of_pos fine, List.mem_cons, List.mem_cons, ih others]
      constructor
      · rintro (rfl | ⟨later, each⟩)
        · refine ⟨.inl rfl, fun other inside le => ?_⟩
          rcases List.mem_cons.mp inside with rfl | later
          · exact fine
          · exact absurd (least other later) (String.not_lt.mpr le)
        · exact ⟨.inr later, List.forall_mem_cons.mpr ⟨fun _ => fine, each⟩⟩
      · rintro ⟨rfl | later, each⟩
        · exact .inl rfl
        · exact .inr ⟨later, (List.forall_mem_cons.mp each).2⟩

end Loader

end Localization.Catalog
