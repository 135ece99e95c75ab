import Localization.Negotiation.Resolver
import Localization.Proofs.Catalog.Site
import Localization.Proofs.Settings.Acceptance

/-! # The keys of a folder as codes

All locales of a folder are loaded under what the names of their files spell: a code, behind which
a line feed may stand. A resolver without a list and the settings take away the blanks around a text
before they look at it. So they take every key for the code that it spells. Where a line feed stands
behind it the key is no code, and they take no text for the key.
-/
namespace Localization.Catalog

open Negotiation Settings Text

/-- A text for each field of the settings that holds codes. -/
def everywhere (s : String) : Values where
  fallbackLocale := some ⟨"FALLBACK_LOCALE", s⟩
  defaultLocale := some ⟨"DEFAULT_LOCALE", s⟩
  supportedLocales := some ⟨"SUPPORTED_LOCALES", [s]⟩
  parseCacheSize := none
  debug := false
  translationsDir := none

/-- A resolver without a list and the settings take a text for a code. -/
structure TakenFor (s code : String) : Prop where
  resolved : ∀ default, Resolver.validate ⟨[], default⟩ (some s) = pure code
  configured : Translations.ofSources (everywhere s).arguments =
    .ok ⟨code, code, [code], false, none, 100⟩

theorem give_everywhere (s : String) : (everywhere s).arguments.Give (everywhere s) :=
  ⟨rfl, rfl, rfl, rfl, rfl, rfl⟩

theorem acceptable_everywhere_iff {s : String} :
    (everywhere s).Acceptable ↔ Locale.WellFormed (trim s.toList) := by
  constructor
  · intro h
    exact h.fallbackLocale ⟨"FALLBACK_LOCALE", s⟩ rfl
  · intro code
    have admits : (everywhere s).settings.Admits (trimString s) :=
      fun _ => ⟨trimString s, List.mem_cons_self, rfl⟩
    refine ⟨?_, ?_, ?_, nofun, admits, admits⟩
    · rintro _ ⟨⟩
      exact code
    · rintro _ ⟨⟩
      exact code
    · rintro _ ⟨⟩ t inside
      rwa [List.mem_singleton.mp inside]

theorem ofSources_everywhere {s : String} {settings : Translations} :
    Translations.ofSources (everywhere s).arguments = .ok settings ↔
      Locale.WellFormed (trim s.toList) ∧ settings = (everywhere s).settings := by
  rw [← acceptable_everywhere_iff]
  rcases ofSources_cases (give_everywhere s) with ⟨acceptable, made⟩ | ⟨issues, refused, failed⟩
  · rw [made, Except.ok.injEq]
    exact ⟨fun same => ⟨acceptable, same.symm⟩, fun h => h.2.symm⟩
  · rw [failed]
    exact ⟨nofun, fun h => absurd h.1 refused.not_acceptable⟩

theorem validate_of_wellFormed {s : String} (code : Locale.WellFormed (trim s.toList))
    (default : String) :
    Resolver.validate ⟨[], default⟩ (some s) = pure (trimString s) := by
  have accepted := accepts_trimString_iff.mpr code
  have nonempty : (trimString s).isEmpty = false := by
    refine Bool.eq_false_iff.mpr fun empty => ?_
    rw [String.isEmpty_iff.mp empty] at accepted
    revert accepted
    decide
  rw [Resolver.validate, Option.getD_some]
  simp [accepted, nonempty]

theorem takenFor_iff {s code : String} :
    TakenFor s code ↔ Locale.WellFormed code.toList ∧ code = trimString s := by
  constructor
  · rintro ⟨-, configured⟩
    obtain ⟨wellFormed, same⟩ := ofSources_everywhere.mp configured
    obtain rfl : code = trimString s := congrArg Translations.fallbackLocale same
    rw [trimString, String.toList_ofList]
    exact ⟨wellFormed, rfl⟩
  · rintro ⟨wellFormed, rfl⟩
    rw [trimString, String.toList_ofList] at wellFormed
    exact ⟨validate_of_wellFormed wellFormed, ofSources_everywhere.mpr ⟨wellFormed, rfl⟩⟩

theorem takenFor_self {code : String} (wellFormed : Locale.WellFormed code.toList) :
    TakenFor code code :=
  takenFor_iff.mpr ⟨wellFormed, wellFormed.trimString_eq.symm⟩

theorem exists_takenFor_iff {key : String} :
    (∃ s, TakenFor s key) ↔ Locale.WellFormed key.toList :=
  ⟨fun ⟨_, taken⟩ => (takenFor_iff.mp taken).1, fun code => ⟨key, takenFor_self code⟩⟩

theorem takenFor_of_accepts {key : String} (accepted : Locale.accepts key = true) :
    TakenFor key (trimString key) ∧ (key = trimString key ∨ key = trimString key ++ "\n") := by
  obtain ⟨wellFormed, spelled⟩ := Locale.trim_of_isAccepted accepted
  refine ⟨takenFor_iff.mpr ⟨by rwa [trimString, String.toList_ofList], rfl⟩, ?_⟩
  refine spelled.imp (fun same => ?_) fun same => ?_
  · rw [trimString, ← same, String.ofList_toList]
  · rw [trimString, ← String.toList_inj, String.toList_append, String.toList_ofList]
    exact same

/-- Every key under which all locales are loaded is taken for the code that it spells. It is that code
itself exactly when no line feed stands behind it. -/
theorem loaded_keys_codes [Stack] {loader : Loader} {files : Files} {table : Table Entries}
    (loads : (loader.loadAll files).value.1 = .ok table) :
    (∀ key ∈ table.keys, ∃ code, Locale.WellFormed code.toList ∧ TakenFor key code ∧
      (key = code ∨ key = code ++ "\n") ∧ ((∃ s, TakenFor s key) ↔ key = code)) ∧
    ((∀ key ∈ table.keys, Locale.WellFormed key.toList ∧ TakenFor key key) ↔
      ∀ name ∈ files.keys, ∀ locale, BelongsTo name locale → '\n' ∉ locale.toList) := by
  have given : (Site.mk loader files).givenAll = .ok table := loads
  have named (key : String) : key ∈ table.keys ↔ ∃ name ∈ files.keys, BelongsTo name key := by
    rw [(Site.givenAll_ok given).1, mem_localesOf]
  have accepted {key : String} (loaded : key ∈ table.keys) : Locale.accepts key = true := by
    obtain ⟨name, -, belongs⟩ := (named key).mp loaded
    exact belongs.2.1
  constructor
  · intro key loaded
    obtain ⟨taken, spelled⟩ := takenFor_of_accepts (accepted loaded)
    have wellFormed := (takenFor_iff.mp taken).1
    refine ⟨trimString key, wellFormed, taken, spelled, ?_⟩
    rw [exists_takenFor_iff]
    exact ⟨fun code => code.trimString_eq.symm, fun same => same ▸ wellFormed⟩
  · constructor
    · intro codes name inside locale belongs
      exact (codes locale ((named locale).mpr ⟨name, inside, belongs⟩)).1.feed_not_mem
    · intro noFeed key loaded
      obtain ⟨name, inside, belongs⟩ := (named key).mp loaded
      have code := Locale.wellFormed_of_isAccepted belongs.2.1 (noFeed name inside key belongs)
      exact ⟨code, takenFor_self code⟩

open Stack

/-- Two files, of which one is named with a line feed behind the code. -/
def feedNamed : Files :=
  [("en.yml", Site.octets "hello: Hello"), ("fr\n.yml", Site.octets "hello: Bonjour")]

theorem feedNamed_loads : ∃ table,
    (Loader.loadAll ⟨"lang", true, []⟩ feedNamed).value.1 = .ok table ∧
      table.keys = ["en", "fr\n"] := by
  have shown : ((Loader.loadAll ⟨"lang", true, []⟩ feedNamed).value.1.toOption.map
      Table.keys) = some ["en", "fr\n"] := by decide +kernel
  obtain ⟨table, loads, keys⟩ := Option.map_eq_some_iff.mp shown
  exact ⟨table, ok_of_toOption loads, keys⟩

/-- Both keys are taken for the codes of the file names, and the second one by no text. -/
theorem feedNamed_codes : ∃ table,
    (Loader.loadAll ⟨"lang", true, []⟩ feedNamed).value.1 = .ok table ∧
      (∃ code, TakenFor "en" code ∧ "en" = code) ∧
      ∃ code, TakenFor "fr\n" code ∧ "fr\n" = code ++ "\n" ∧ ¬ ∃ s, TakenFor s "fr\n" := by
  obtain ⟨table, loads, keys⟩ := feedNamed_loads
  obtain ⟨each, -⟩ := loaded_keys_codes loads
  rw [keys] at each
  obtain ⟨code, -, taken, -, reached⟩ := each "en" (by decide)
  obtain ⟨code', wellFormed, taken', spelled, -⟩ := each "fr\n" (by decide)
  refine ⟨table, loads, ⟨code, taken, reached.mp ⟨"en", takenFor_self (by decide)⟩⟩, code', taken',
    spelled.resolve_left ?_, fun reached => ?_⟩
  · rintro rfl
    exact absurd wellFormed (by decide)
  · exact absurd (exists_takenFor_iff.mp reached) (by decide)

/-- A key with a line feed behind its code is no code, and it is not taken for itself. -/
theorem feedNamed_key_no_code : ∃ table,
    (Loader.loadAll ⟨"lang", true, []⟩ feedNamed).value.1 = .ok table ∧
      "fr\n" ∈ table.keys ∧ ¬ Locale.WellFormed "fr\n".toList ∧ ¬ TakenFor "fr\n" "fr\n" ∧
      Resolver.validate ⟨[], "en"⟩ (some "fr\n") = pure "fr" ∧
      Translations.ofSources (everywhere "fr\n").arguments =
        .ok ⟨"fr", "fr", ["fr"], false, none, 100⟩ := by
  obtain ⟨table, loads, keys⟩ := feedNamed_loads
  have taken : TakenFor "fr\n" "fr" := takenFor_iff.mpr ⟨by decide, by decide⟩
  refine ⟨table, loads, ?_, by decide, fun itself => ?_, taken.resolved "en", taken.configured⟩
  · rw [keys]
    decide
  · exact absurd (takenFor_iff.mp itself).1 (by decide)

end Localization.Catalog
