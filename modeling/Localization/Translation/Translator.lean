import Localization.Catalog.Loader
import Localization.Format.Date
import Localization.Format.List
import Localization.Format.Number
import Localization.Translation.Translate

/-! # Translators

A translator holds catalogs by locale and the locale that is active. It takes catalogs from
a loader or from its caller. An operation that fails leaves the catalogs and the active
locale as they were.
-/
namespace Localization.Translation

variable [Locale.Data] [Stack]

structure Translator where
  /-- Messages by locale, in the order in which the locales came. -/
  catalogs : Table Value
  locale : String
  fallback : String
  debug : Bool
  loader : Option Catalog.Loader
  handler : Option MissingHandler

def logTranslator (level : Log.Level) (event : String) (fields : List (String × Value)) :
    Traced Unit :=
  Traced.log level "translator" event fields

namespace Translator

def start (translator : Translator) : Traced Translator := do
  logTranslator .info "initialized_translator"
    [("locale", .text translator.locale), ("fallback_locale", .text translator.fallback)]
  pure translator

def loadAll (t : Translator) (files : Catalog.Files) : Traced (Except Failure Unit × Translator) :=
  match t.loader with
  | none => pure (.error .noCatalogSource, t)
  | some loader => do
    match ← loader.loadAll files with
    | (.error failure, loader) => pure (.error failure, { t with loader := some loader })
    | (.ok found, loader) => do
      let catalogs := t.catalogs.update (found.map fun (locale, entries) => (locale, .map entries))
      logTranslator .info "loaded_all_translations" [("locale_count", .int catalogs.length)]
      pure (.ok (), { t with catalogs, loader := some loader })

def loadLocale (t : Translator) (files : Catalog.Files) (locale : String) :
    Traced (Except Failure Unit × Translator) :=
  match t.loader with
  | none => pure (.error .noCatalogSource, t)
  | some loader => do
    match ← loader.load files locale with
    | (.error failure, loader) => pure (.error failure, { t with loader := some loader })
    | (.ok entries, loader) => do
      logTranslator .info "loaded_locale_translations" [("locale", .text locale)]
      let catalogs := t.catalogs.put locale (.map entries)
      pure (.ok (), { t with catalogs, loader := some loader })

def addCatalog (t : Translator) (locale : String) (messages : Entries) : Traced Translator := do
  let merged ← Catalog.mergeLogged (Catalog.entriesOf (t.catalogs.get? locale)) messages
  pure { t with catalogs := t.catalogs.put locale (.map merged) }

/-- Forgets what the loader remembers. -/
def clearCache (t : Translator) : Traced Translator :=
  match t.loader with
  | none => pure t
  | some loader => do
    let loader ← loader.clear
    pure { t with loader := some loader }

/-- The locales that have a catalog, in the order in which they came. -/
def available (t : Translator) : List String := t.catalogs.keys

/-- A locale that is asked for; an empty one stands for the active locale. -/
def localeFor (t : Translator) (requested : Option String) : String :=
  match requested with
  | none | some "" => t.locale
  | some locale => locale

def translate (t : Translator) (key : String) (params : Option Entries)
    (locale : Option String) : Attempt String :=
  Translation.translate (t.localeFor locale) t.fallback t.catalogs key params t.handler t.debug

/-- Whether a key leads to a text or to a set of plural forms. -/
def hasMessage (t : Translator) (key : String) (locale : Option String) : Bool :=
  match Catalog.resolve? ((t.catalogs.get? (t.localeFor locale)).getD .null) key with
  | some (.text _) => true
  | some value => Plural.isFormSet value
  | none => false

/-- Makes a locale active if it has a catalog, and tells whether it did. -/
def setLocale (t : Translator) (locale : String) : Traced (Bool × Translator) :=
  if t.catalogs.has locale then pure (true, { t with locale })
  else do
    logTranslator .warning "locale_not_loaded" [("locale", .text locale)]
    pure (false, t)

def setDebug (t : Translator) (enabled : Bool) : Translator := { t with debug := enabled }

def formatNumber (t : Translator) (value : Value) (style : Option String) : Attempt String :=
  Format.number value (some t.locale) style

def formatCurrency (t : Translator) (value : Value) (currency : Option String) : Attempt String :=
  Format.currency value (some t.locale) currency

def formatDate (t : Translator) (value : Value) (style : Option String) : Attempt String :=
  Format.date value (some t.locale) style

def formatList (t : Translator) (items : Value) (style : Option String) : Attempt String :=
  Format.list items (some t.locale) style

end Translator

end Localization.Translation
