import Localization.Settings.Translations

/-! # Settings of the application

An application has a name of its deployment, a level of logging and settings of
translation. Without a deployment name it runs in production.
-/
namespace Localization.Settings

structure Application where
  deployment : String
  logLevel : String
  translations : Translations
  deriving DecidableEq, Repr

def Application.isProduction (settings : Application) : Bool := settings.deployment.isEmpty

def translationsKey : String := "i18n"

/-- A field whose full name is its short one. -/
def sameNames (name : String) : Names := ⟨name, name⟩

def argumentsOf (entries : Entries) : Table Value :=
  entries.filterMap fun (key, value) => match key with
    | .text name => some (name, value)
    | _ => none

def translationsOf (environment : Table String) : Value → Except (List Issue) Translations
  | .map entries =>
    match Translations.ofSources ⟨argumentsOf entries, environment⟩ with
    | .ok settings => .ok settings
    | .error (.invalid issues) => .error issues
    | .error (.unreadable field) => refuse (.rule (Rejection.unreadable field).message)
  | _ => refuse .notSettings

/-- The value of the settings of translation among the arguments, over what the environment
has for it. -/
def nestedValue (environment : Option Value) (argument : Value) : Value :=
  match environment, argument with
  | some (.map old), .map new => .map (new.foldl (fun es entry => Entries.put es entry.1 entry.2) old)
  | _, argument => argument

/-- The variable of the environment for the settings of translation, read as JSON. -/
def nestedVariable (environment : Table String) : Except Rejection (Option Value) :=
  match environment.get? translationsKey with
  | none => .ok none
  | some s =>
    match Json.read? s with
    | some value => .ok (some value)
    | none => .error (.unreadable translationsKey)

/-- The settings of translation as they are given: whole or as a value. If they are given
nowhere, they come from the environment. -/
def givenTranslations (sources : Sources) (whole : Option Translations) :
    Except Rejection (Translations ⊕ Value) :=
  match whole, sources.arguments.get? translationsKey with
  | some settings, _ => .ok (.inl settings)
  | none, some argument => .ok (.inr argument)
  | none, none => (Translations.ofSources ⟨[], sources.environment⟩).map .inl

def Application.ofSources (sources : Sources) (whole : Option Translations) :
    Except Rejection Application := do
  let text (name default : String) := read (sources.find? (sameNames name)) default textOf
  let given ← givenTranslations sources whole
  let fromEnvironment ← nestedVariable sources.environment
  let translations : Except (List Issue) Translations := match given with
    | .inl settings => .ok settings
    | .inr argument =>
      (translationsOf sources.environment (nestedValue fromEnvironment argument)).mapError
        (List.map (Issue.within translationsKey))
  match text "PREFIX" "", text "LOG_LEVEL" "INFO", translations with
  | .ok deployment, .ok logLevel, .ok translations => .ok ⟨deployment, logLevel, translations⟩
  | deployment, logLevel, translations =>
    .error (.invalid (issuesOf deployment ++ issuesOf logLevel ++ issuesOf translations))

end Localization.Settings
