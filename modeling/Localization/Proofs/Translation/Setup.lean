import Localization.Locale.Table
import Localization.Proofs.Catalog.Site
import Localization.Proofs.Settings.Translations
import Localization.Translation.Setup

/-! # The locales that a translator is set up with

A translator that is set up with a folder and loads its catalogs at once has the locales that the
files are named after. Its active locale and its fallback locale are those of the settings, letter
for letter. The settings only promise that they are on the list of supported locales case aside,
so they are available when some file is named after them as they are spelled.
-/
namespace Localization.Translation

open Text

/-- A translator of settings that has loaded nothing yet. -/
def unloaded (settings : Settings.Translations) (folder : String) (useCache : Bool)
    (handler : Option MissingHandler) : Translator :=
  ⟨[], settings.defaultLocale, settings.fallbackLocale, settings.debug,
    some ⟨folder, useCache, []⟩, handler⟩

section

variable [Stack] {filesAt : String → Option Catalog.Files} {settings : Settings.Translations}
  {path folder : String} {files : Catalog.Files}

theorem outcome_ofSettings (there : filesAt (plainPath path) = some files) (useCache : Bool)
    (handler : Option MissingHandler) :
    (Translator.ofSettings filesAt settings ⟨some path, useCache, true⟩ handler).outcome =
      ((unloaded settings (plainPath path) useCache handler).loadAll files).value.1.map
        fun _ => ((unloaded settings (plainPath path) useCache handler).loadAll files).value.2 := by
  have made : (Catalog.Loader.ofFolder ⟨plainPath path, some files⟩ useCache).outcome =
      .ok ⟨plainPath path, useCache, []⟩ := rfl
  simp only [Translator.ofSettings, Setup.path?, there, ↓reduceIte, Attempt.outcome_bind, made,
    Except.bind, Attempt.outcome_liftM, Option.getD_some]
  change Except.bind ((unloaded settings (plainPath path) useCache handler).loadAll files).value.1
    _ = _
  cases ((unloaded settings (plainPath path) useCache handler).loadAll files).value.1 <;> rfl

theorem value_loadAll {t : Translator} {loader : Catalog.Loader} {found : Table Entries}
    (has : t.loader = some loader) (loads : (loader.loadAll files).value.1 = .ok found) :
    (t.loadAll files).value =
      (.ok (), { t with
        catalogs := t.catalogs.update (found.map fun entry => (entry.1, .map entry.2))
        loader := some (loader.loadAll files).value.2 }) := by
  have value : (loader.loadAll files).value = (.ok found, (loader.loadAll files).value.2) :=
    Prod.ext loads rfl
  rw [Translator.loadAll, has]
  simp only [Traced.value_bind]
  rw [value]
  rfl

theorem loadAll_unloaded (readable : Catalog.Readable folder files)
    (some : Catalog.localesOf files ≠ []) (useCache : Bool) (handler : Option MissingHandler) :
    ∃ t, ((unloaded settings folder useCache handler).loadAll files).value = (.ok (), t) ∧
      t.locale = settings.defaultLocale ∧ t.fallback = settings.fallbackLocale ∧
      t.available = Catalog.localesOf files := by
  obtain ⟨table, loads, keys⟩ := Catalog.Loader.loadAll_of_readable readable some useCache
  have catalogs : Table.keys (table.map fun entry => (entry.1, Value.map entry.2)) =
      Catalog.localesOf files := by
    rw [← keys, Table.keys, List.map_map]
    rfl
  have once : (Catalog.localesOf files).Nodup :=
    (Catalog.localesOf_ascending files).imp Std.ne_of_lt
  refine ⟨_, value_loadAll (t := unloaded settings folder useCache handler) rfl loads, rfl, rfl, ?_⟩
  refine (Table.keys_update ?_).trans catalogs
  rw [catalogs]
  exact once

/-- A folder that has a mapping for each of the locales, in a file of that name, and whose files
can be read. -/
structure Stocked (folder : String) (files : Catalog.Files) (locales : List String) : Prop where
  mappings : ∀ code ∈ locales, code ++ ".yml" ∈ files.keys ∧
    ∃ entries, Catalog.readIn folder files (code ++ ".yml") = .ok (.map entries)
  readable : Catalog.Readable folder files

/-- What a translator speaks that was set up with files. -/
structure Speaks (settings : Settings.Translations) (files : Catalog.Files) (t : Translator) :
    Prop where
  locale : t.locale = settings.defaultLocale
  fallback : t.fallback = settings.fallbackLocale
  available : t.available = Catalog.localesOf files
  /-- So a locale of the settings that is spelled as it is on the list is available. -/
  supported : ∀ code ∈ settings.supportedLocales, code ∈ t.available
  spelled : ∀ locale ∈ [t.locale, t.fallback],
    locale ∈ t.available ↔ ∃ name ∈ files.keys, Catalog.BelongsTo name locale
  cased : ∀ locale ∈ [t.locale, t.fallback],
    ∃ code ∈ t.available, lowerString code = lowerString locale

/-- A translator that loads a folder at once has the locales of the files. Its own two locales are
available as the settings spell them, or else in another case. -/
theorem preloaded_speaks {sources : Settings.Sources}
    (given : Settings.Translations.ofSources sources = .ok settings)
    (limited : settings.supportedLocales ≠ []) (there : filesAt (plainPath path) = some files)
    (stocked : Stocked (plainPath path) files settings.supportedLocales) (useCache : Bool)
    (handler : Option MissingHandler) :
    ∃ t, (Translator.ofSettings filesAt settings ⟨some path, useCache, true⟩ handler).outcome =
        .ok t ∧ Speaks settings files t := by
  have sound := Settings.ofSources_sound given
  have supported : ∀ code ∈ settings.supportedLocales, code ∈ Catalog.localesOf files := by
    intro code inside
    have accepted := sound.codes code (List.mem_cons_of_mem _ (List.mem_cons_of_mem _ inside))
    exact Catalog.mem_localesOf.mpr
      ⟨code ++ ".yml", (stocked.mappings code inside).1, Catalog.belongsTo_of_code accepted⟩
  obtain ⟨first, inside⟩ := List.exists_mem_of_ne_nil _ limited
  obtain ⟨t, loads, locale, fallback, available⟩ :=
    loadAll_unloaded stocked.readable (List.ne_nil_of_mem (supported first inside)) useCache handler
  refine ⟨t, by rw [outcome_ofSettings there, loads]; rfl, ?_⟩
  exact {
    locale, fallback, available
    supported := by
      rw [available]
      exact supported
    spelled := by
      intro locale _
      rw [available]
      exact Catalog.mem_localesOf
    cased := by
      rw [locale, fallback, available]
      intro locale own
      obtain ⟨code, inside, same⟩ := sound.listed limited locale own
      exact ⟨code, supported code inside, same⟩ }

end

open Stack Locale.Excerpt

/-- Two supported locales and the two of the settings, which a source spells as it likes. -/
def twoSupported (default fallback : String) : Settings.Sources :=
  ⟨[("I18N_SUPPORTED_LOCALES", .list [.text "en-US", .text "fr"]),
    ("I18N_FALLBACK_LOCALE", .text fallback), ("I18N_DEFAULT_LOCALE", .text default)], []⟩

/-- The settings of such a source. -/
def ofTwo (default fallback : String) : Settings.Translations :=
  ⟨fallback, default, ["en-US", "fr"], false, none, 100⟩

def greetings : Catalog.Files :=
  [("en-US.yml", Catalog.Site.octets "hello: Hello"),
    ("fr.yml", Catalog.Site.octets "hello: Bonjour")]

/-- Every path leads to the folder with the greetings. -/
def greetingsAt (_ : String) : Option Catalog.Files := some greetings

theorem exists_mapping {ε : Type} {e : Except ε Value}
    (h : (e.toOption.bind Value.entries?).isSome = true) : ∃ entries, e = .ok (.map entries) := by
  rcases e with failure | v
  · cases h
  · cases v with
    | map entries => exact ⟨entries, rfl⟩
    | _ => cases h

theorem greetings_stocked : Stocked (plainPath "locales") greetings ["en-US", "fr"] := by
  have read : ∀ name ∈ greetings.keys, ∃ entries,
      Catalog.readIn (plainPath "locales") greetings name = .ok (.map entries) := by
    have maps : ∀ name ∈ greetings.keys,
        ((Catalog.readIn (plainPath "locales") greetings name).toOption.bind
          Value.entries?).isSome = true := by decide +kernel
    exact fun name inside => exists_mapping (maps name inside)
  refine ⟨fun code inside => ?_, fun name inside _ => ?_⟩
  · have there : code ++ ".yml" ∈ greetings.keys := by
      revert code
      decide
    exact ⟨there, read _ there⟩
  · obtain ⟨entries, holds⟩ := read name inside
    exact ⟨.map entries, holds⟩

/-- Spelled as on the list, both locales are available. -/
theorem greetings_spoken : ∃ t,
    Settings.Translations.ofSources (twoSupported "fr" "en-US") = .ok (ofTwo "fr" "en-US") ∧
      (ofTwo "fr" "en-US").supportedLocales ≠ [] ∧
      Stocked (plainPath "locales") greetings (ofTwo "fr" "en-US").supportedLocales ∧
      (Translator.ofSettings greetingsAt (ofTwo "fr" "en-US")
        ⟨some "locales", true, true⟩ none).outcome = .ok t ∧
      t.locale ∈ t.available ∧ t.fallback ∈ t.available := by
  have given : Settings.Translations.ofSources (twoSupported "fr" "en-US") =
      .ok (ofTwo "fr" "en-US") := ok_of_toOption (by decide +kernel)
  have limited : (ofTwo "fr" "en-US").supportedLocales ≠ [] := by decide
  have there : greetingsAt (plainPath "locales") = some greetings := rfl
  obtain ⟨t, made, speaks⟩ := preloaded_speaks given limited there greetings_stocked true none
  refine ⟨t, given, limited, greetings_stocked, made, ?_, ?_⟩
  · rw [speaks.locale]
    exact speaks.supported "fr" (by decide)
  · rw [speaks.fallback]
    exact speaks.supported "en-US" (by decide)

/-- Spelled in another case, both pass the checks and neither is available. -/
theorem respelled_locales_missing : ∃ t,
    Settings.Translations.ofSources (twoSupported "FR" "en-us") = .ok (ofTwo "FR" "en-us") ∧
      (ofTwo "FR" "en-us").supportedLocales ≠ [] ∧
      Stocked (plainPath "locales") greetings (ofTwo "FR" "en-us").supportedLocales ∧
      (Translator.ofSettings greetingsAt (ofTwo "FR" "en-us")
        ⟨some "locales", true, true⟩ none).outcome = .ok t ∧
      t.locale ∉ t.available ∧ t.fallback ∉ t.available ∧
      (t.translate "hello" none none).outcome = .ok "hello" := by
  have shown : ((Translator.ofSettings greetingsAt (ofTwo "FR" "en-us")
      ⟨some "locales", true, true⟩ none).outcome.toOption.map fun t =>
        (t.locale, t.fallback, t.available, (t.translate "hello" none none).outcome.toOption)) =
      some ("FR", "en-us", ["en-US", "fr"], some "hello") := by decide +kernel
  obtain ⟨t, made, same⟩ := Option.map_eq_some_iff.mp shown
  obtain ⟨locale, fallback, available, text⟩ : t.locale = "FR" ∧ t.fallback = "en-us" ∧
      t.available = ["en-US", "fr"] ∧
      (t.translate "hello" none none).outcome.toOption = some "hello" := by
    simpa only [Prod.mk.injEq] using same
  refine ⟨t, ok_of_toOption (by decide +kernel), by decide, greetings_stocked, ok_of_toOption made,
    ?_, ?_, ok_of_toOption text⟩
  · rw [locale, available]
    decide
  · rw [fallback, available]
    decide

end Localization.Translation
