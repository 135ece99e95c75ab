import Localization.Proofs.Locale.Code
import Localization.Proofs.Settings.Translations
import Mathlib.Data.List.ReduceOption

/-! # Which settings are accepted

Settings are accepted exactly when every given code is one without the blanks around it, the given
capacity is positive, and with a list of supported locales the fallback locale and the default
locale are on it, case aside. They keep the codes without the blanks. Otherwise each field with
something wrong has one issue, in the order of the fields; where no field has, the first of the two
locales that is not on the list has the only one.
-/
namespace Localization.Settings

open Text

/-- A value with the key that it is given under. -/
structure Given (α : Type) where
  key : String
  value : α

/-- What is given for the fields with a rule, and what the other fields hold. -/
structure Values where
  fallbackLocale : Option (Given String)
  defaultLocale : Option (Given String)
  supportedLocales : Option (Given (List String))
  parseCacheSize : Option (Given Int)
  debug : Bool
  translationsDir : Option String

def foundOf {α : Type} (toValue : α → Value) (given : Given α) : Found :=
  ⟨given.key, toValue given.value⟩

def listOf (texts : List String) : Value := .list (texts.map .text)

structure Sources.Give (sources : Sources) (values : Values) : Prop where
  fallbackLocale : sources.find? (namesOf "FALLBACK_LOCALE") =
    values.fallbackLocale.map (foundOf .text)
  defaultLocale : sources.find? (namesOf "DEFAULT_LOCALE") =
    values.defaultLocale.map (foundOf .text)
  supportedLocales : sources.findJson? (namesOf "SUPPORTED_LOCALES") =
    .ok (values.supportedLocales.map (foundOf listOf))
  parseCacheSize : sources.find? (namesOf "PARSE_CACHE_SIZE") =
    values.parseCacheSize.map (foundOf .int)
  debug : read (sources.find? (namesOf "DEBUG")) false switchOf = .ok values.debug
  translationsDir : read (sources.find? (namesOf "TRANSLATIONS_DIR")) none optionalTextOf =
    .ok values.translationsDir

def keptOr {α β : Type} (default : β) (keep : α → β) (given : Option (Given α)) : β :=
  (given.map fun given => keep given.value).getD default

def Values.settings (values : Values) : Translations where
  fallbackLocale := keptOr "en" trimString values.fallbackLocale
  defaultLocale := keptOr "en" trimString values.defaultLocale
  supportedLocales := keptOr [] (List.map trimString) values.supportedLocales
  debug := values.debug
  translationsDir := values.translationsDir
  parseCacheSize := keptOr 100 id values.parseCacheSize

def Translations.Admits (settings : Translations) (locale : String) : Prop :=
  settings.supportedLocales ≠ [] → ∃ code ∈ settings.supportedLocales,
    code.toList.map Char.toLower = locale.toList.map Char.toLower

structure Values.Acceptable (values : Values) : Prop where
  fallbackLocale : ∀ given ∈ values.fallbackLocale, Locale.WellFormed (trim given.value.toList)
  defaultLocale : ∀ given ∈ values.defaultLocale, Locale.WellFormed (trim given.value.toList)
  supportedLocales : ∀ given ∈ values.supportedLocales, ∀ s ∈ given.value,
    Locale.WellFormed (trim s.toList)
  parseCacheSize : ∀ given ∈ values.parseCacheSize, 1 ≤ given.value
  fallbackListed : values.settings.Admits values.settings.fallbackLocale
  defaultListed : values.settings.Admits values.settings.defaultLocale

def textFault? (s : String) : Option String :=
  if Locale.WellFormed (trim s.toList) then none
  else some ("Invalid locale code: " ++ quoteString (trimString s))

def textsFault? (texts : List String) : Option String :=
  (texts.find? fun s => ¬ Locale.WellFormed (trim s.toList)).map fun s =>
    "Invalid locale code in supported locales: " ++ quoteString (trimString s)

def sizeFault? (n : Int) : Option String :=
  if 1 ≤ n then none else some "I18N_PARSE_CACHE_SIZE must be at least 1"

def issue? {α : Type} (fault? : α → Option String) (given : Option (Given α)) : Option Issue :=
  given.bind fun given => (fault? given.value).map fun text => ⟨[given.key], .rule text⟩

def Values.fieldIssues (values : Values) : List Issue :=
  [issue? textFault? values.fallbackLocale, issue? textFault? values.defaultLocale,
    issue? textsFault? values.supportedLocales,
    issue? sizeFault? values.parseCacheSize].reduceOption

def unlistedIssue (name locale : String) : Issue :=
  ⟨[], .rule (name ++ " " ++ quoteString locale ++ " is not listed in I18N_SUPPORTED_LOCALES")⟩

/-- The issues that values are refused with. -/
inductive Values.Refused (values : Values) : List Issue → Prop where
  | fields (some : values.fieldIssues ≠ []) : Refused values values.fieldIssues
  | fallback (none : values.fieldIssues = [])
      (unlisted : ¬ values.settings.Admits values.settings.fallbackLocale) :
      Refused values [unlistedIssue "FALLBACK_LOCALE" values.settings.fallbackLocale]
  | default (none : values.fieldIssues = [])
      (listed : values.settings.Admits values.settings.fallbackLocale)
      (unlisted : ¬ values.settings.Admits values.settings.defaultLocale) :
      Refused values [unlistedIssue "DEFAULT_LOCALE" values.settings.defaultLocale]

section Issues

variable {α : Type}

theorem issue?_eq_none_iff {fault? : α → Option String} {given : Option (Given α)} :
    issue? fault? given = none ↔ ∀ g ∈ given, fault? g.value = none := by
  cases given <;> simp [issue?]

theorem textFault?_eq_none_iff {s : String} :
    textFault? s = none ↔ Locale.WellFormed (trim s.toList) := by
  simp [textFault?]

theorem textsFault?_eq_none_iff {texts : List String} :
    textsFault? texts = none ↔ ∀ s ∈ texts, Locale.WellFormed (trim s.toList) := by
  simp [textsFault?, List.find?_eq_none]

theorem sizeFault?_eq_none_iff {n : Int} : sizeFault? n = none ↔ 1 ≤ n := by
  simp [sizeFault?]

theorem Values.fieldIssues_eq_nil_iff {values : Values} : values.fieldIssues = [] ↔
    (∀ given ∈ values.fallbackLocale, Locale.WellFormed (trim given.value.toList)) ∧
    (∀ given ∈ values.defaultLocale, Locale.WellFormed (trim given.value.toList)) ∧
    (∀ given ∈ values.supportedLocales, ∀ s ∈ given.value,
      Locale.WellFormed (trim s.toList)) ∧
    ∀ given ∈ values.parseCacheSize, 1 ≤ given.value := by
  simp [fieldIssues, List.reduceOption, issue?_eq_none_iff, textFault?_eq_none_iff,
    textsFault?_eq_none_iff, sizeFault?_eq_none_iff]

theorem Values.acceptable_iff {values : Values} : values.Acceptable ↔ values.fieldIssues = [] ∧
    values.settings.Admits values.settings.fallbackLocale ∧
    values.settings.Admits values.settings.defaultLocale := by
  rw [fieldIssues_eq_nil_iff]
  constructor
  · rintro ⟨fallback, default, supported, size, fallbackListed, defaultListed⟩
    exact ⟨⟨fallback, default, supported, size⟩, fallbackListed, defaultListed⟩
  · rintro ⟨⟨fallback, default, supported, size⟩, fallbackListed, defaultListed⟩
    exact ⟨fallback, default, supported, size, fallbackListed, defaultListed⟩

theorem Values.Refused.not_acceptable {values : Values} {issues : List Issue}
    (refused : values.Refused issues) : ¬ values.Acceptable := by
  rw [Values.acceptable_iff]
  rintro ⟨clean, fallback, default⟩
  cases refused with
  | fields some => exact some clean
  | fallback none unlisted => exact unlisted fallback
  | default none listed unlisted => exact unlisted default

end Issues

def orIssue {α : Type} (a : α) : Option Issue → Except (List Issue) α
  | none => .ok a
  | some issue => .error [issue]

def orFault {α : Type} (a : α) (fault? : Option String) : Except (List Issue) α :=
  orIssue a (fault?.map fun text => ⟨[], .rule text⟩)

theorem read_given {α β : Type} {convert : Value → Except (List Issue) β} {toValue : α → Value}
    (keep : α → β) {fault? : α → Option String}
    (rule : ∀ a, convert (toValue a) = orFault (keep a) (fault? a)) (default : β)
    (given : Option (Given α)) :
    read (given.map (foundOf toValue)) default convert =
      orIssue (keptOr default keep given) (issue? fault? given) := by
  cases given with
  | none => rfl
  | some given =>
    rw [Option.map_some, foundOf, read, rule, issue?, Option.bind_some]
    cases fault? given.value <;> rfl

theorem accepts_trimString_iff {s : String} :
    Locale.accepts (trimString s) = true ↔ Locale.WellFormed (trim s.toList) := by
  rw [Locale.accepts, trimString, String.toList_ofList, Locale.isAccepted_trim_iff]

theorem localeOf_text (s : String) :
    localeOf (.text s) = orFault (trimString s) (textFault? s) := by
  rw [localeOf, textOf, textFault?]
  dsimp only [bind, Except.bind]
  by_cases code : Locale.WellFormed (trim s.toList)
  · rw [if_pos (accepts_trimString_iff.mpr code), if_pos code]
    rfl
  · rw [if_neg (mt accepts_trimString_iff.mp code), if_neg code]
    rfl

theorem itemsFrom_texts (index : Nat) (texts : List String) :
    itemsFrom index (texts.map .text) = .ok texts := by
  induction texts generalizing index with
  | nil => rfl
  | cons s rest ih =>
    rw [List.map_cons, itemsFrom, ih]
    rfl

theorem codesOf_eq (texts : List String) :
    codesOf texts = orFault (texts.map trimString) (textsFault? texts) := by
  induction texts with
  | nil => rfl
  | cons s rest ih =>
    rw [codesOf, textsFault?]
    by_cases code : Locale.WellFormed (trim s.toList)
    · rw [if_pos (accepts_trimString_iff.mpr code), ih, List.find?_cons_of_neg (by simpa using code),
        ← textsFault?]
      cases textsFault? rest <;> rfl
    · rw [if_neg (mt accepts_trimString_iff.mp code), List.find?_cons_of_pos (by simpa using code)]
      rfl

theorem localesOf_listOf (texts : List String) :
    localesOf (listOf texts) = orFault (texts.map trimString) (textsFault? texts) := by
  rw [localesOf, listOf, textsOf, itemsFrom_texts, ← codesOf_eq]
  rfl

theorem capacityOf_int (n : Int) : capacityOf (.int n) = orFault n (sizeFault? n) := by
  change (if n < 1 then _ else _) = _
  rw [sizeFault?]
  by_cases positive : 1 ≤ n
  · rw [if_neg (Int.not_lt.mpr positive), if_pos positive]
    rfl
  · rw [if_pos (Int.not_le.mp positive), if_neg positive]
    rfl

theorem ofFields_orIssue (fallback default : String) (supported : List String) (debug : Bool)
    (dir : Option String) (capacity : Int) (f d s c : Option Issue) :
    Translations.ofFields (orIssue fallback f) (orIssue default d) (orIssue supported s) (.ok debug)
      (.ok dir) (orIssue capacity c) =
    match [f, d, s, c].reduceOption with
    | [] => Translations.check ⟨fallback, default, supported, debug, dir, capacity⟩
    | issues => .error (.invalid issues) := by
  cases f <;> cases d <;> cases s <;> cases c <;> rfl

theorem ofSources_of_give {sources : Sources} {values : Values} (give : sources.Give values) :
    Translations.ofSources sources =
      match values.fieldIssues with
      | [] => values.settings.check
      | issues => .error (.invalid issues) := by
  rw [Translations.ofSources, give.supportedLocales]
  change Translations.ofFields _ _ _ _ _ _ = _
  dsimp only
  rw [give.fallbackLocale, give.defaultLocale, give.parseCacheSize, give.debug,
    give.translationsDir, read_given trimString localeOf_text, read_given trimString localeOf_text,
    read_given (List.map trimString) localesOf_listOf, read_given id capacityOf_int,
    ofFields_orIssue]
  rfl

/-- ASCII texts have the same lower-case form exactly when they differ in the case of letters. -/
theorem lowerString_eq_iff {s t : String} (hs : ∀ c ∈ s.toList, c.toNat < 128)
    (ht : ∀ c ∈ t.toList, c.toNat < 128) :
    lowerString s = lowerString t ↔ s.toList.map Char.toLower = t.toList.map Char.toLower := by
  rw [lowerString, lowerString, String.ofList_inj, lower_of_ascii hs, lower_of_ascii ht]

section Together

variable {settings : Translations}
  (ascii : ∀ code ∈ settings.fallbackLocale :: settings.defaultLocale :: settings.supportedLocales,
    ∀ c ∈ code.toList, c.toNat < 128)

include ascii

theorem lists_iff_admits {locale : String}
    (one : locale ∈ [settings.fallbackLocale, settings.defaultLocale])
    (some : settings.supportedLocales ≠ []) :
    lists settings.supportedLocales locale = true ↔ settings.Admits locale := by
  have plain : ∀ c ∈ locale.toList, c.toNat < 128 :=
    ascii locale (List.mem_append_left settings.supportedLocales one)
  rw [lists_iff, Translations.Admits, imp_iff_right some]
  refine exists_congr fun code => and_congr_right fun inside => lowerString_eq_iff ?_ plain
  exact ascii code (List.mem_cons_of_mem _ (List.mem_cons_of_mem _ inside))

theorem check_cases :
    (settings.Admits settings.fallbackLocale ∧ settings.Admits settings.defaultLocale ∧
      settings.check = .ok settings) ∨
    (¬ settings.Admits settings.fallbackLocale ∧
      settings.check =
        .error (.invalid [unlistedIssue "FALLBACK_LOCALE" settings.fallbackLocale])) ∨
    (settings.Admits settings.fallbackLocale ∧ ¬ settings.Admits settings.defaultLocale ∧
      settings.check =
        .error (.invalid [unlistedIssue "DEFAULT_LOCALE" settings.defaultLocale])) := by
  by_cases empty : settings.supportedLocales = []
  -- Without a list the test does not run, and every locale is admitted.
  · have any (locale : String) : settings.Admits locale := fun some => absurd empty some
    refine .inl ⟨any _, any _, ?_⟩
    rw [Translations.check, Translations.unlisted?, if_pos (List.isEmpty_iff.mpr empty)]
  have fallback := lists_iff_admits ascii List.mem_cons_self empty
  have default := lists_iff_admits ascii (List.mem_cons_of_mem _ List.mem_cons_self) empty
  rw [Translations.check, Translations.unlisted?, if_neg (mt List.isEmpty_iff.mp empty),
    ← fallback, ← default]
  cases first : lists settings.supportedLocales settings.fallbackLocale with
  | false => simp [first, unlistedIssue]
  | true =>
    cases second : lists settings.supportedLocales settings.defaultLocale with
    | false => simp [first, second, unlistedIssue]
    | true => simp [first, second]

end Together

theorem keptOr_cases {α β : Type} (default : β) (keep : α → β) (given : Option (Given α)) :
    keptOr default keep given = default ∨ ∃ g ∈ given, keptOr default keep given = keep g.value := by
  cases given with
  | none => exact .inl rfl
  | some given => exact .inr ⟨given, rfl, rfl⟩

theorem ascii_trimString {s : String} (code : Locale.WellFormed (trim s.toList)) :
    ∀ c ∈ (trimString s).toList, c.toNat < 128 := by
  rw [trimString, String.toList_ofList]
  exact fun c inside => (Locale.isCode_char (Locale.isCode_iff.mpr code) inside).1

theorem Values.ascii_of_fieldIssues {values : Values} (clean : values.fieldIssues = []) :
    ∀ code ∈ values.settings.fallbackLocale :: values.settings.defaultLocale ::
      values.settings.supportedLocales, ∀ c ∈ code.toList, c.toNat < 128 := by
  obtain ⟨fallback, default, supported, -⟩ := fieldIssues_eq_nil_iff.mp clean
  have single {given : Option (Given String)}
      (codes : ∀ g ∈ given, Locale.WellFormed (trim g.value.toList)) :
      ∀ c ∈ (keptOr "en" trimString given).toList, c.toNat < 128 := by
    rcases keptOr_cases "en" trimString given with same | ⟨g, inside, same⟩
    · rw [same]
      simp
    · rw [same]
      exact ascii_trimString (codes g inside)
  refine List.forall_mem_cons.mpr ⟨single fallback, List.forall_mem_cons.mpr ⟨single default, ?_⟩⟩
  rcases keptOr_cases [] (List.map trimString) values.supportedLocales with same | ⟨g, inside, same⟩
  · rw [settings, same]
    exact List.forall_mem_nil _
  · rw [settings, same]
    intro code there
    obtain ⟨s, member, rfl⟩ := List.mem_map.mp there
    exact ascii_trimString (supported g inside s member)

theorem ofSources_cases {sources : Sources} {values : Values} (give : sources.Give values) :
    (values.Acceptable ∧ Translations.ofSources sources = .ok values.settings) ∨
      ∃ issues, values.Refused issues ∧
        Translations.ofSources sources = .error (.invalid issues) := by
  rw [ofSources_of_give give, Values.acceptable_iff]
  -- The fields are tested together only where none of them has an issue, so all codes are ASCII then.
  cases found : values.fieldIssues with
  | cons issue others =>
    have some : values.fieldIssues ≠ [] := fun none => by rw [none] at found; cases found
    exact .inr ⟨issue :: others, found ▸ .fields some, rfl⟩
  | nil =>
    rcases check_cases (Values.ascii_of_fieldIssues found) with
      ⟨fallback, default, made⟩ | ⟨fallback, refused⟩ | ⟨fallback, default, refused⟩
    · exact .inl ⟨⟨rfl, fallback, default⟩, made⟩
    · exact .inr ⟨_, .fallback found fallback, refused⟩
    · exact .inr ⟨_, .default found fallback default, refused⟩

/-- Settings are accepted exactly when the values are acceptable. They then hold the given values
without blanks and the defaults, and are otherwise refused with the issues of the fields or else with
the one issue of the fields together. -/
theorem accepted_exactly {sources : Sources} {values : Values} (give : sources.Give values) :
    ((∃ settings, Translations.ofSources sources = .ok settings) ↔ values.Acceptable) ∧
    (∀ settings, Translations.ofSources sources = .ok settings → settings = values.settings) ∧
    (¬ values.Acceptable → ∃ issues, values.Refused issues ∧
      Translations.ofSources sources = .error (.invalid issues)) := by
  rcases ofSources_cases give with ⟨acceptable, made⟩ | ⟨issues, refused, failed⟩
  · refine ⟨⟨fun _ => acceptable, fun _ => ⟨values.settings, made⟩⟩, fun settings same => ?_,
      fun unacceptable => absurd acceptable unacceptable⟩
    exact Except.ok.inj (same.symm.trans made)
  · have never (settings : Translations) : Translations.ofSources sources ≠ .ok settings := by
      rw [failed]
      exact fun same => by cases same
    refine ⟨⟨?_, fun acceptable => absurd acceptable refused.not_acceptable⟩,
      fun settings same => absurd same (never settings), fun _ => ⟨issues, refused, failed⟩⟩
    rintro ⟨settings, same⟩
    exact absurd same (never settings)

def padded : Values where
  fallbackLocale := some ⟨"I18N_FALLBACK_LOCALE", " en_us"⟩
  defaultLocale := some ⟨"DEFAULT_LOCALE", "FR\n"⟩
  supportedLocales := some ⟨"SUPPORTED_LOCALES", ["EN_US ", "fr"]⟩
  parseCacheSize := some ⟨"PARSE_CACHE_SIZE", 1⟩
  debug := false
  translationsDir := none

def broken : Values where
  fallbackLocale := some ⟨"FALLBACK_LOCALE", "en--US"⟩
  defaultLocale := none
  supportedLocales := some ⟨"SUPPORTED_LOCALES", ["fr", " no locale ", "x"]⟩
  parseCacheSize := some ⟨"PARSE_CACHE_SIZE", 0⟩
  debug := false
  translationsDir := none

/-- Values as arguments. -/
def Values.arguments (values : Values) : Sources where
  arguments := [values.fallbackLocale.map fun g => (g.key, .text g.value),
    values.defaultLocale.map fun g => (g.key, .text g.value),
    values.supportedLocales.map fun g => (g.key, listOf g.value),
    values.parseCacheSize.map fun g => (g.key, .int g.value)].reduceOption
  environment := []

theorem padded_accepted_broken_refused :
    (padded.arguments.Give padded ∧ padded.Acceptable ∧
      Translations.ofSources padded.arguments =
        .ok ⟨"en_us", "FR", ["EN_US", "fr"], false, none, 1⟩) ∧
    (broken.arguments.Give broken ∧ ¬ broken.Acceptable ∧
      Translations.ofSources broken.arguments = .error (.invalid [
        ⟨["FALLBACK_LOCALE"], .rule "Invalid locale code: 'en--US'"⟩,
        ⟨["SUPPORTED_LOCALES"], .rule "Invalid locale code in supported locales: 'no locale'"⟩,
        ⟨["PARSE_CACHE_SIZE"], .rule "I18N_PARSE_CACHE_SIZE must be at least 1"⟩])) := by
  have paddedGiven : padded.arguments.Give padded := ⟨rfl, rfl, rfl, rfl, rfl, rfl⟩
  have brokenGiven : broken.arguments.Give broken := ⟨rfl, rfl, rfl, rfl, rfl, rfl⟩
  have acceptable : padded.Acceptable := by
    refine Values.acceptable_iff.mpr ⟨by decide +kernel, fun _ => ?_, fun _ => ?_⟩
    · exact ⟨"EN_US", by decide +kernel, by decide +kernel⟩
    · exact ⟨"fr", by decide +kernel, by decide +kernel⟩
  have faults : broken.fieldIssues = [
      ⟨["FALLBACK_LOCALE"], .rule "Invalid locale code: 'en--US'"⟩,
      ⟨["SUPPORTED_LOCALES"], .rule "Invalid locale code in supported locales: 'no locale'"⟩,
      ⟨["PARSE_CACHE_SIZE"], .rule "I18N_PARSE_CACHE_SIZE must be at least 1"⟩] := by
    decide +kernel
  have unacceptable : ¬ broken.Acceptable := fun h => by
    rw [Values.acceptable_iff, faults] at h
    exact absurd h.1 (List.cons_ne_nil _ _)
  refine ⟨⟨paddedGiven, acceptable, ?_⟩, brokenGiven, unacceptable, ?_⟩
  · obtain ⟨settings, made⟩ := (accepted_exactly paddedGiven).1.mpr acceptable
    rw [made, (accepted_exactly paddedGiven).2.1 settings made]
    exact congrArg Except.ok (by decide +kernel)
  · obtain ⟨issues, refused, failed⟩ := (accepted_exactly brokenGiven).2.2 unacceptable
    rw [failed]
    cases refused with
    | fields some => rw [faults]
    | fallback none => rw [faults] at none; cases none
    | default none => rw [faults] at none; cases none

end Localization.Settings
