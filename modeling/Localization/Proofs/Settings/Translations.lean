import Localization.Proofs.Trace
import Localization.Settings.Translations

/-! # What holds of settings that are given

Settings that sources give have passed every check: their locales are codes, and with a list of
supported locales the default locale and the fallback locale are on it, case aside. They keep the
spelling that the source has, which need not be that of the list.
-/
namespace Localization.Settings

open Text

/-- What every check of the settings has found. -/
structure Translations.Sound (settings : Translations) : Prop where
  codes : ∀ locale ∈
    settings.defaultLocale :: settings.fallbackLocale :: settings.supportedLocales,
    Locale.accepts locale = true
  listed : settings.supportedLocales ≠ [] →
    ∀ locale ∈ [settings.defaultLocale, settings.fallbackLocale],
      ∃ code ∈ settings.supportedLocales, lowerString code = lowerString locale

theorem lists_iff {supported : List String} {locale : String} :
    lists supported locale = true ↔ ∃ code ∈ supported, lowerString code = lowerString locale := by
  rw [lists, List.contains_iff_mem, List.mem_map]

theorem read_ok {α : Type} {found : Option Found} {default a : α}
    {convert : Value → Except (List Issue) α} (h : read found default convert = .ok a) :
    a = default ∨ ∃ value, convert value = .ok a := by
  cases found with
  | none => exact .inl (Except.ok.inj h).symm
  | some entry => exact .inr ⟨entry.value, ok_of_mapError h⟩

theorem localeOf_ok {value : Value} {code : String} (h : localeOf value = .ok code) :
    Locale.accepts code = true := by
  obtain ⟨s, -, checked⟩ := ok_of_bind h
  dsimp only at checked
  split at checked
  · next accepted => exact Except.ok.inj checked ▸ accepted
  · cases checked

theorem codesOf_ok {texts codes : List String} (h : codesOf texts = .ok codes) :
    ∀ code ∈ codes, Locale.accepts code = true := by
  induction texts generalizing codes with
  | nil =>
    cases h
    exact fun code inside => by cases inside
  | cons s rest ih =>
    rw [codesOf] at h
    split at h
    · next accepted =>
      obtain ⟨later, others, rfl⟩ := ok_of_map h
      exact List.forall_mem_cons.mpr ⟨accepted, ih others⟩
    · cases h

theorem localesOf_ok {value : Value} {codes : List String} (h : localesOf value = .ok codes) :
    ∀ code ∈ codes, Locale.accepts code = true := by
  obtain ⟨texts, -, checked⟩ := ok_of_bind h
  exact codesOf_ok checked

theorem accepted_of_read {found : Option Found} {code : String}
    (h : read found "en" localeOf = .ok code) : Locale.accepts code = true := by
  rcases read_ok h with rfl | ⟨value, given⟩
  · decide
  · exact localeOf_ok given

theorem accepted_of_read_all {found : Option Found} {codes : List String}
    (h : read found [] localesOf = .ok codes) : ∀ code ∈ codes, Locale.accepts code = true := by
  rcases read_ok h with rfl | ⟨value, given⟩
  · exact fun code inside => by cases inside
  · exact localesOf_ok given

theorem check_ok {settings checked : Translations} (h : settings.check = .ok checked) :
    checked = settings ∧ settings.unlisted? = none := by
  rw [Translations.check] at h
  split at h
  · next listed => exact ⟨(Except.ok.inj h).symm, listed⟩
  · cases h

theorem listed_of_unlisted {settings : Translations} (none : settings.unlisted? = none)
    (some : settings.supportedLocales ≠ []) :
    ∀ locale ∈ [settings.defaultLocale, settings.fallbackLocale],
      ∃ code ∈ settings.supportedLocales, lowerString code = lowerString locale := by
  have each {name locale : String} (field : (name, locale) ∈
      [("FALLBACK_LOCALE", settings.fallbackLocale), ("DEFAULT_LOCALE", settings.defaultLocale)]) :
      ∃ code ∈ settings.supportedLocales, lowerString code = lowerString locale := by
    rw [Translations.unlisted?, if_neg (mt List.isEmpty_iff.mp some), List.find?_eq_none] at none
    exact lists_iff.mp (by simpa using none (name, locale) field)
  intro locale inside
  rcases List.mem_cons.mp inside with rfl | last
  · exact each (List.mem_cons_of_mem _ List.mem_cons_self)
  · rw [List.mem_singleton.mp last]
    exact each List.mem_cons_self

/-- The fields of settings that pass are those that were read, and they pass together. -/
theorem ofFields_ok {fallback default : Except (List Issue) String}
    {supported : Except (List Issue) (List String)} {debug : Except (List Issue) Bool}
    {dir : Except (List Issue) (Option String)} {capacity : Except (List Issue) Int}
    {settings : Translations}
    (h : Translations.ofFields fallback default supported debug dir capacity = .ok settings) :
    fallback = .ok settings.fallbackLocale ∧ default = .ok settings.defaultLocale ∧
      supported = .ok settings.supportedLocales ∧ settings.unlisted? = none := by
  rw [Translations.ofFields.eq_def] at h
  split at h
  · obtain ⟨rfl, listed⟩ := check_ok h
    exact ⟨rfl, rfl, rfl, listed⟩
  · cases h

theorem ofSources_sound {sources : Sources} {settings : Translations}
    (h : Translations.ofSources sources = .ok settings) : settings.Sound := by
  obtain ⟨found, -, fields⟩ := ok_of_bind h
  obtain ⟨fallback, default, supported, listed⟩ := ofFields_ok fields
  refine ⟨?_, listed_of_unlisted listed⟩
  refine List.forall_mem_cons.mpr ⟨accepted_of_read default, ?_⟩
  exact List.forall_mem_cons.mpr ⟨accepted_of_read fallback, accepted_of_read_all supported⟩

end Localization.Settings
