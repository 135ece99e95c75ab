import Localization.Catalog.Folder

/-! # Loaders

A loader reads catalogs from a folder. A loader with a cache keeps each catalog that it read
and gives it again until the cache is cleared. A failure leaves the cache as it was, but
loading all locales keeps those that came before the one that failed.
-/
namespace Localization.Catalog

structure Loader where
  folder : String
  useCache : Bool
  cache : Table Entries

namespace Loader

def ofFolder (folder : Folder) (useCache : Bool) : Attempt Loader := do
  if folder.files.isNone then throw (.folderMissing folder.path)
  liftM (logLoader .info "initialized_yaml_loader"
    [("translations_dir", .text folder.path), ("use_cache", .bool useCache)])
  pure ⟨folder.path, useCache, []⟩

def remember (loader : Loader) (locale : String) (catalog : Entries) : Loader :=
  if loader.useCache then { loader with cache := loader.cache.put locale catalog } else loader

def cached? (loader : Loader) (locale : String) : Option Entries :=
  if loader.useCache then loader.cache.get? locale else none

variable [Stack]

def load (loader : Loader) (files : Files) (locale : String) :
    Traced (Except Failure Entries × Loader) :=
  match loader.cached? locale with
  | some catalog => do
    logLoader .info "loaded_from_cache" [("locale", .text locale)]
    pure (.ok catalog, loader)
  | none => do
    match ← (readLocale loader.folder files locale).run with
    | .ok catalog => pure (.ok catalog, loader.remember locale catalog)
    | .error failure => pure (.error failure, loader)

def loadEach (files : Files) : Loader → List String →
    Traced (Except Failure (Table Entries) × Loader)
  | loader, [] => pure (.ok [], loader)
  | loader, locale :: rest => do
    match ← loader.load files locale with
    | (.error failure, loader) => pure (.error failure, loader)
    | (.ok catalog, loader) => do
      match ← loadEach files loader rest with
      | (.error failure, loader) => pure (.error failure, loader)
      | (.ok others, loader) => pure (.ok ((locale, catalog) :: others), loader)

/-- The catalogs of all locales of the folder. -/
def loadAll (loader : Loader) (files : Files) : Traced (Except Failure (Table Entries) × Loader) :=
  match localesOf files with
  | [] => pure (.error (.noFiles loader.folder), loader)
  | locales => loadEach files loader locales

def clear (loader : Loader) : Traced Loader := do
  logLoader .info "cleared_translation_cache" []
  pure { loader with cache := [] }

end Loader

end Localization.Catalog
