import Localization.Locale.Code
import Localization.Settings.Field
import Localization.Text.Quoted

/-! # Settings of translation

Locale codes are trimmed and have to be codes. With a list of supported locales, the
fallback locale and the default locale have to be on it, case aside; this is looked at only
when every field is sound.
-/
namespace Localization.Settings

open Text

structure Translations where
  fallbackLocale : String
  defaultLocale : String
  /-- Empty means any locale. -/
  supportedLocales : List String
  debug : Bool
  translationsDir : Option String
  parseCacheSize : Int
  deriving DecidableEq, Repr

/-- The names of a field, which the full name puts a prefix to. -/
def namesOf (short : String) : Names := ⟨"I18N_" ++ short, short⟩

def localeOf (value : Value) : Except (List Issue) String := do
  let code := trimString (← textOf value)
  if Locale.accepts code then pure code
  else refuse (.rule ("Invalid locale code: " ++ quoteString code))

def codesOf : List String → Except (List Issue) (List String)
  | [] => .ok []
  | s :: rest =>
    let code := trimString s
    if Locale.accepts code then (codesOf rest).map (code :: ·)
    else refuse (.rule ("Invalid locale code in supported locales: " ++ quoteString code))

def localesOf (value : Value) : Except (List Issue) (List String) := do
  codesOf (← textsOf value)

def capacityOf (value : Value) : Except (List Issue) Int := do
  let n ← wholeOf value
  if n < 1 then refuse (.rule "I18N_PARSE_CACHE_SIZE must be at least 1") else pure n

def lists (supported : List String) (locale : String) : Bool :=
  (supported.map lowerString).contains (lowerString locale)

/-- The first locale of the settings that is not on the list of supported locales. -/
def Translations.unlisted? (settings : Translations) : Option (String × String) :=
  if settings.supportedLocales.isEmpty then none
  else
    [("FALLBACK_LOCALE", settings.fallbackLocale), ("DEFAULT_LOCALE", settings.defaultLocale)].find?
      fun (_, locale) => !lists settings.supportedLocales locale

def Translations.check (settings : Translations) : Except Rejection Translations :=
  match settings.unlisted? with
  | none => .ok settings
  | some (name, locale) =>
    .error (.invalid
      [⟨[], .rule (name ++ " " ++ quoteString locale ++ " is not listed in I18N_SUPPORTED_LOCALES")⟩])

def Translations.ofFields (fallback default : Except (List Issue) String)
    (supported : Except (List Issue) (List String)) (debug : Except (List Issue) Bool)
    (dir : Except (List Issue) (Option String)) (capacity : Except (List Issue) Int) :
    Except Rejection Translations :=
  match fallback, default, supported, debug, dir, capacity with
  | .ok fallback, .ok default, .ok supported, .ok debug, .ok dir, .ok capacity =>
    Translations.check ⟨fallback, default, supported, debug, dir, capacity⟩
  | _, _, _, _, _, _ =>
    .error (.invalid (issuesOf fallback ++ issuesOf default ++ issuesOf supported ++
      issuesOf debug ++ issuesOf dir ++ issuesOf capacity))

def Translations.ofSources (sources : Sources) : Except Rejection Translations := do
  let supported ← sources.findJson? (namesOf "SUPPORTED_LOCALES")
  let field {α : Type} (short : String) (default : α) (convert : Value → Except (List Issue) α) :=
    read (sources.find? (namesOf short)) default convert
  Translations.ofFields (field "FALLBACK_LOCALE" "en" localeOf)
    (field "DEFAULT_LOCALE" "en" localeOf) (read supported [] localesOf)
    (field "DEBUG" false switchOf) (field "TRANSLATIONS_DIR" none optionalTextOf)
    (field "PARSE_CACHE_SIZE" 100 capacityOf)

end Localization.Settings
