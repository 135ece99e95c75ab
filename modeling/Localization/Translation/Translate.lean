import Localization.Plural.Rule
import Localization.Template.Interpolate
import Localization.Text.Table

/-! # Translation

The text of a key is looked up in the current locale and then in the fallback locale. With
a count, the form of its plural category comes first, then the form `other`, then a plain
text. A key without any text stands for itself.
-/
namespace Localization.Translation

open Plural

/-- What a caller does when the current locale lacks a key. -/
abbrev MissingHandler := String → String → Except Failure Unit

/-- The paths that are tried for a key, in order. -/
def candidates (key : String) : Option Category → List String
  | some category => [key ++ "." ++ category.name, key ++ ".other", key]
  | none => [key]

def textAt? (messages : Value) (path : String) : Option String :=
  match Catalog.resolve? messages path with
  | some (.text s) => some s
  | _ => none

def firstText? (messages : Value) (paths : List String) : Option String :=
  paths.findSome? (textAt? messages)

def categoryOf (locale : String) (params : Option Entries) : Traced (Option Category) :=
  match countOf? params with
  | some count => do
    let category ← category (some locale) count
    pure (some category)
  | none => pure none

def template (messages : Option Value) (key locale : String) (params : Option Entries) :
    Traced (Option String) := do
  let category ← categoryOf locale params
  pure (firstText? (messages.getD .null) (candidates key category))

variable [Locale.Data] [Stack]

def debugEntry (entry : Value × Value) : Except Failure String := do
  return (← entry.1.shown) ++ "=" ++ (← entry.2.shown)

def debugText (key : String) (params : Option Entries) : Except Failure String :=
  match params.getD [] with
  | [] => .ok ("[" ++ key ++ "]")
  | entries => do return "[" ++ key ++ "] \x7b" ++ commaList (← entries.mapM debugEntry) ++ "\x7d"

def warnMissing (event key current fallback : String) : Traced Unit :=
  Traced.log .warning "translator" event
    [("key", .text key), ("locale", .text current), ("fallback_locale", .text fallback)]

def callHandler (handler : Option MissingHandler) (key locale : String) : Attempt Unit :=
  match handler with
  | none => pure ()
  | some respond => do
    liftM (Traced.report key locale)
    Attempt.ofExcept (respond key locale)

def findTemplate (current fallback : String) (catalogs : Table Value) (key : String)
    (params : Option Entries) (handler : Option MissingHandler) : Attempt (Option String) := do
  match ← liftM (template (catalogs.get? current) key current params) with
  | some text => pure (some text)
  | none =>
    if current = fallback then pure none
    else
      callHandler handler key current
      liftM (warnMissing "translation_missing_in_locale" key current fallback)
      liftM (template (catalogs.get? fallback) key fallback params)

def translate (current fallback : String) (catalogs : Table Value) (key : String)
    (params : Option Entries) (handler : Option MissingHandler) (debug : Bool) :
    Attempt String :=
  if debug then Attempt.ofExcept (debugText key params)
  else do
    match ← findTemplate current fallback catalogs key params handler with
    | some text => Template.interpolate text params (some current) (some key)
    | none =>
      liftM (warnMissing "translation_not_found" key current fallback)
      pure key

end Localization.Translation
