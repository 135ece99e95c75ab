import Localization.Settings.Translations
import Localization.Text.Split
import Localization.Translation.Translator

/-! # Translators from settings

A translator is set up with the locales of its settings. Its catalogs are in a folder that
the caller names or else the settings; without either it starts empty. The catalogs are
loaded at once unless the caller defers that.
-/
namespace Localization.Translation

open Text

/-- What a caller chooses beside the settings. -/
structure Setup where
  folder : Option String
  useCache : Bool
  preload : Bool

/-- A path without empty parts and parts of one point. A path from the root may start with
two slashes. -/
def plainPath (path : String) : String :=
  let parts := (splitAt '/' path.toList).filter fun part => !part.isEmpty && part != ['.']
  let root : List Char :=
    match path.toList with
    | '/' :: '/' :: '/' :: _ => ['/']
    | '/' :: '/' :: _ => ['/', '/']
    | '/' :: _ => ['/']
    | _ => []
  let whole := root ++ joinWith ['/'] parts
  if whole.isEmpty then "." else String.ofList whole

def Setup.path? (setup : Setup) (settings : Settings.Translations) : Option String :=
  match setup.folder, settings.translationsDir with
  | some path, _ => some (plainPath path)
  | none, none | none, some "" => none
  | none, some path => some (plainPath path)

def logSetup (event : String) (fields : List (String × Value)) : Traced Unit :=
  Traced.log .info "factory" event fields

def Translator.ofSettings [Stack] (filesAt : String → Option Catalog.Files)
    (settings : Settings.Translations) (setup : Setup) (handler : Option MissingHandler) :
    Attempt Translator := do
  let start (loader : Option Catalog.Loader) : Attempt Translator :=
    liftM (Translator.start ⟨[], settings.defaultLocale, settings.fallbackLocale, settings.debug,
      loader, handler⟩)
  match setup.path? settings with
  | none => do
    let translator ← start none
    liftM (logSetup "translator_created_without_catalogs" [])
    pure translator
  | some path => do
    let loader ← Catalog.Loader.ofFolder ⟨path, filesAt path⟩ setup.useCache
    let translator ← start (some loader)
    if setup.preload then
      let (outcome, translator) ← liftM (translator.loadAll ((filesAt path).getD []))
      Attempt.ofExcept outcome
      liftM (logSetup "translator_created_with_preload"
        [("translations_dir", .text path), ("locale_count", .int translator.catalogs.length)])
      pure translator
    else
      liftM (logSetup "translator_created_lazy" [("translations_dir", .text path)])
      pure translator

end Localization.Translation
