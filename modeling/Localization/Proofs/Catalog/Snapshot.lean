import Localization.Proofs.Catalog.Site
import Mathlib.Data.List.Induction

/-! # What a cache keeps of changing files

While files change, the entry of a locale is what a loader without a cache gave at the first load
of the locale since the cache was cleared. Without such a load there is no entry, and what is
given is read from the files as they are.
-/
namespace Localization.Catalog

namespace Site

section

variable [Stack]

def LoadedBy (start : Site) (locale : String) (before : List Action) (action : Action) : Prop :=
  (start.after before).Loads locale action

/-- A locale was loaded since the cache was cleared. -/
def Loaded (start : Site) (locale : String) (actions : List Action) : Prop :=
  Since (· = .clear) (start.LoadedBy locale) actions

/-- The action that comes after others is the first to load a locale, and a loader without a
cache gives a catalog then. -/
def FilledBy (start : Site) (locale : String) (catalog : Entries) (before : List Action)
    (action : Action) : Prop :=
  start.LoadedBy locale before action ∧ ¬ start.Loaded locale before ∧
    Loader.uncached start.loader.folder (start.after before).files locale = .ok catalog

/-- The first load of a locale since the cache was cleared came upon a catalog. -/
def Filled (start : Site) (locale : String) (catalog : Entries) (actions : List Action) : Prop :=
  Since (· = .clear) (start.FilledBy locale catalog) actions

variable {site : Site} {locale : String}

theorem given_of_entry {catalog : Entries} (entry : site.loader.cached? locale = some catalog) :
    site.given locale = .ok catalog := Loader.given_of_cached entry

theorem given_of_no_entry (absent : site.loader.cached? locale = none) :
    site.given locale = Loader.uncached site.loader.folder site.files locale := by
  rw [given, Loader.given_of_absent absent, Loader.uncached_eq]

variable {start : Site} {catalog : Entries}

omit [Stack] in
theorem IsNew.no_entry (new : start.IsNew true) (locale : String) :
    start.loader.cached? locale = none := by
  obtain ⟨path, fresh⟩ := new.loader_eq
  rw [fresh]
  rfl

theorem IsNew.caching (new : start.IsNew true) (actions : List Action) :
    (start.after actions).loader.useCache = true := by
  obtain ⟨path, fresh⟩ := new.loader_eq
  rw [(after_kept start actions).2, fresh]

theorem loaded_snoc {actions : List Action} {last : Action} :
    start.Loaded locale (actions ++ [last]) ↔
      (start.after actions).Loads locale last ∨ last ≠ .clear ∧ start.Loaded locale actions :=
  since_snoc

theorem filled_snoc {actions : List Action} {last : Action} :
    start.Filled locale catalog (actions ++ [last]) ↔
      start.FilledBy locale catalog actions last ∨
        last ≠ .clear ∧ start.Filled locale catalog actions :=
  since_snoc

theorem entry_isSome_iff (new : start.IsNew true) (actions : List Action) :
    ((start.after actions).loader.cached? locale).isSome = true ↔ start.Loaded locale actions := by
  induction actions using List.reverseRecOn with
  | nil =>
    rw [after_nil, new.no_entry]
    exact iff_of_false Bool.false_ne_true not_since_nil
  | append_singleton actions last ih =>
    rw [after_snoc, loaded_snoc]
    by_cases cleared : last = .clear
    · subst cleared
      rw [cached?_clear]
      exact iff_of_false Bool.false_ne_true fun h => h.elim id fun h => h.1 rfl
    · by_cases loads : (start.after actions).Loads locale last
      · rw [cached?_of_loads (new.caching actions) loads]
        refine iff_of_true ?_ (.inl loads)
        have fine := isOk_of_loads loads
        cases result : (start.after actions).given locale with
        | ok catalog => rfl
        | error failure => rw [result] at fine; cases fine
      · rw [cached?_of_not_loads (new.caching actions) loads cleared, ih, or_iff_right loads,
          and_iff_right cleared]

theorem no_entry_iff (new : start.IsNew true) (actions : List Action) :
    (start.after actions).loader.cached? locale = none ↔ ¬ start.Loaded locale actions := by
  rw [← entry_isSome_iff new, Bool.not_eq_true, Option.isSome_eq_false_iff,
    Option.isNone_iff_eq_none]

theorem entry_iff (new : start.IsNew true) (actions : List Action) :
    (start.after actions).loader.cached? locale = some catalog ↔
      start.Filled locale catalog actions := by
  induction actions using List.reverseRecOn with
  | nil =>
    rw [after_nil, new.no_entry]
    exact iff_of_false (Option.some_ne_none catalog).symm not_since_nil
  | append_singleton actions last ih =>
    rw [after_snoc, filled_snoc]
    by_cases cleared : last = .clear
    · subst cleared
      rw [cached?_clear]
      refine iff_of_false (Option.some_ne_none catalog).symm ?_
      exact fun h => h.elim (fun filled => filled.1) fun h => h.1 rfl
    · by_cases loads : (start.after actions).Loads locale last
      · rw [cached?_of_loads (new.caching actions) loads]
        cases entry : (start.after actions).loader.cached? locale with
        | some old =>
          -- A load of what has an entry fills nothing.
          have loaded := (entry_isSome_iff new actions).mp (by rw [entry]; rfl)
          have filled : ¬ start.FilledBy locale catalog actions last := fun h => h.2.1 loaded
          rw [given_of_entry entry, or_iff_right filled, and_iff_right cleared, ← ih, entry]
          rfl
        | none =>
          have unloaded := (no_entry_iff new actions).mp entry
          have unfilled : ¬ start.Filled locale catalog actions := by
            rw [← ih, entry]
            exact (Option.some_ne_none catalog).symm
          rw [given_of_no_entry entry, (after_kept start actions).1,
            or_iff_left fun h => unfilled h.2]
          refine ⟨fun read => ⟨loads, unloaded, ok_of_toOption read⟩, fun filled => ?_⟩
          rw [filled.2.2]
          rfl
      · have unfilled : ¬ start.FilledBy locale catalog actions last := fun h => loads h.1
        rw [cached?_of_not_loads (new.caching actions) loads cleared, ih, or_iff_right unfilled,
          and_iff_right cleared]

theorem filled_of_loaded (new : start.IsNew true) {actions : List Action}
    (loaded : start.Loaded locale actions) : ∃ catalog, start.Filled locale catalog actions := by
  obtain ⟨catalog, entry⟩ := Option.isSome_iff_exists.mp ((entry_isSome_iff new actions).mpr loaded)
  exact ⟨catalog, (entry_iff new actions).mp entry⟩

/-- A locale is the first one in ascending order that fails. -/
structure FailsFirst (site : Site) (failing : String) (failure : Failure) : Prop where
  named : failing ∈ localesOf site.files
  fails : site.given failing = .error failure
  earlier : ∀ other ∈ localesOf site.files, other < failing → (site.given other).isOk = true

theorem failsFirst_of_givenAll {failure : Failure} (failed : site.givenAll = .error failure)
    (found : localesOf site.files ≠ []) : ∃ failing, site.FailsFirst failing failure := by
  rw [givenAll_of_some found] at failed
  obtain ⟨before, failing, later, split, fails, each⟩ := Loader.loadEach_error failed
  have ascending := localesOf_ascending site.files
  rw [split] at ascending
  obtain ⟨-, rest, -⟩ := List.pairwise_append.mp ascending
  refine ⟨failing, split ▸ List.mem_append_right _ List.mem_cons_self, fails, ?_⟩
  intro other inside less
  rw [split] at inside
  rcases List.mem_append.mp inside with early | late
  · exact each other early
  · rcases List.mem_cons.mp late with rfl | behind
    · exact absurd less (String.lt_irrefl other)
    · exact absurd less (String.lt_asymm ((List.pairwise_cons.mp rest).1 other behind))

theorem FailsFirst.entry {failing : String} {failure : Failure}
    (h : site.FailsFirst failing failure) (caching : site.loader.useCache = true)
    (locale : String) :
    (site.act .loadAll).loader.cached? locale = site.loader.cached? locale ∨
      site.loader.cached? locale = none ∧ locale ∈ localesOf site.files ∧ locale < failing := by
  by_cases loads : site.Loads locale .loadAll
  · cases entry : site.loader.cached? locale with
    | some catalog =>
      rw [cached?_of_loads caching loads, given_of_entry entry]
      exact .inl rfl
    | none =>
      refine .inr ⟨rfl, loads.1, Decidable.byContradiction fun not_less => ?_⟩
      have fine := loads.2 failing h.named (String.not_lt.mp not_less)
      rw [h.fails] at fine
      cases fine
  · exact .inl (cached?_of_not_loads caching loads (by decide))

/-- What a loader with a cache gives after actions: the catalogs that were read when the entries
were filled, and elsewhere what a loader without a cache gives. -/
structure IsSnapshot (start : Site) (actions : List Action) (now : Site) : Prop where
  entry_iff (locale : String) (catalog : Entries) :
    now.loader.cached? locale = some catalog ↔ start.Filled locale catalog actions
  filled_of_loaded (locale : String) : start.Loaded locale actions →
    ∃ catalog, start.Filled locale catalog actions
  given_of_filled (locale : String) (catalog : Entries) : start.Filled locale catalog actions →
    now.given locale = .ok catalog
  given_of_not_loaded (locale : String) : ¬ start.Loaded locale actions →
    now.given locale = Loader.uncached start.loader.folder now.files locale
  /-- A load that fails changes nothing. -/
  failed (locale : String) (failure : Failure) : now.given locale = .error failure →
    now.act (.load locale) = now
  failedAll (failure : Failure) : now.givenAll = .error failure →
    localesOf now.files = [] ∧ failure = .noFiles start.loader.folder ∧ now.act .loadAll = now ∨
      ∃ failing, now.FailsFirst failing failure ∧ ∀ locale,
        (now.act .loadAll).loader.cached? locale = now.loader.cached? locale ∨
          now.loader.cached? locale = none ∧ locale ∈ localesOf now.files ∧ locale < failing
  /-- The mappings among the values of the files of a locale are merged in the order of the
  names of the files. -/
  uncached_eq (locale : String) : ∃ names,
    names.Perm (now.files.keys.filter fun name => BelongsTo name locale) ∧
      names.Pairwise (· ≤ ·) ∧
      Loader.uncached start.loader.folder now.files locale =
        if names = [] then .error (.noFilesFor locale start.loader.folder)
        else (names.mapM (readIn start.loader.folder now.files)).map fun values =>
          (values.filterMap Value.entries?).foldl merge []
  succeededAll (table : Table Entries) : now.givenAll = .ok table →
    table.keys.Pairwise (· < ·) ∧
      (∀ locale, locale ∈ table.keys ↔ ∃ name ∈ now.files.keys, BelongsTo name locale) ∧
      ∀ entry ∈ table, now.given entry.1 = .ok entry.2

/-- While files change, the cache of a loader is a snapshot of what was read. -/
theorem cache_is_snapshot (new : start.IsNew true) (actions : List Action) :
    start.IsSnapshot actions (start.after actions) where
  entry_iff locale catalog := entry_iff new actions
  filled_of_loaded locale := filled_of_loaded new
  given_of_filled locale catalog filled := given_of_entry ((entry_iff new actions).mpr filled)
  given_of_not_loaded locale unloaded := by
    rw [given_of_no_entry ((no_entry_iff new actions).mpr unloaded), (after_kept start actions).1]
  failed locale failure fails := by
    rw [act, (Loader.loaded_of_error fails).2]
  failedAll failure fails := by
    by_cases empty : localesOf (start.after actions).files = []
    · obtain ⟨nothing, same⟩ := givenAll_of_none empty
      rw [nothing, (after_kept start actions).1] at fails
      exact .inl ⟨empty, (Except.error.inj fails).symm, same⟩
    · obtain ⟨failing, first⟩ := failsFirst_of_givenAll fails empty
      exact .inr ⟨failing, first, first.entry (new.caching actions)⟩
  uncached_eq locale :=
    ⟨filesOf (start.after actions).files locale, filesOf_perm _ locale, filesOf_sorted _ locale,
      (Loader.uncached_eq ..).trans (outcome_readLocale ..)⟩
  succeededAll table gives := by
    obtain ⟨keys, each⟩ := givenAll_ok gives
    rw [keys]
    exact ⟨localesOf_ascending _, fun locale => mem_localesOf, each⟩

end

open Stack

/-- One of three files is no document. -/
def oneBroken : Site :=
  ⟨⟨"texts", true, []⟩,
    [("fr.yml", octets "a: 1"), ("en.yml", octets "a: ["), ("menu.de.yml", octets "a: 2")]⟩

/-- All locales are asked for, and then every file is written anew. -/
def rewritten : List Action :=
  [.loadAll, .write "menu.de.yml" (octets "a: 3"), .write "en.yml" (octets "a: 4"),
    .write "fr.yml" (octets "a: 5")]

theorem oneBroken_snapshot :
    oneBroken.IsNew true ∧ oneBroken.IsSnapshot rewritten (oneBroken.after rewritten) ∧
      (∃ catalog, oneBroken.Filled "de" catalog rewritten ∧
        (Value.map catalog).display = "\x7b'a': 2\x7d") ∧
      ¬ oneBroken.Loaded "en" rewritten ∧ ¬ oneBroken.Loaded "fr" rewritten ∧
      ((oneBroken.after rewritten).givenAll.toOption.map fun table =>
        table.map fun entry => (entry.1, (Value.map entry.2).display)) =
          some [("de", "\x7b'a': 2\x7d"), ("en", "\x7b'a': 4\x7d"), ("fr", "\x7b'a': 5\x7d")] := by
  have new : oneBroken.IsNew true := ⟨"texts", rfl⟩
  have snapshot := cache_is_snapshot new rewritten
  have kept : ((oneBroken.after rewritten).loader.cached? "de").map
      (fun catalog => (Value.map catalog).display) = some "\x7b'a': 2\x7d" := by decide +kernel
  obtain ⟨catalog, entry, shown⟩ := Option.map_eq_some_iff.mp kept
  refine ⟨new, snapshot, ⟨catalog, (snapshot.entry_iff "de" catalog).mp entry, shown⟩, ?_, ?_, ?_⟩
  · rw [← entry_isSome_iff new]
    decide +kernel
  · rw [← entry_isSome_iff new]
    decide +kernel
  · decide +kernel

end Site

end Localization.Catalog
