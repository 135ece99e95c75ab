import Localization.Locale.Code
import Localization.Negotiation.Preference
import Localization.Text.Quoted
import Localization.Trace

/-! # Choosing a supported locale

A resolver chooses a locale for what a user asks for. A supported locale matches when it is
the one that is asked for, case aside, or else when it has the same language. Without a
list of supported locales any locale code is taken as it is.
-/
namespace Localization.Negotiation

open Text

structure Resolver where
  supported : List String
  default : String

namespace Resolver

/-- The last supported locale that a text in lower case spells. -/
def canonical? (r : Resolver) (lowered : String) : Option String :=
  r.supported.reverse.find? fun locale => lowerString locale == lowered

/-- Writes an entry with the default locale among its fields. -/
def log (r : Resolver) (level : Log.Level) (event : String) (fields : List (String × Value)) :
    Traced Unit :=
  Traced.log level "resolvers" event (("default_locale", .text r.default) :: fields)

/-- A supported locale of a language that is more than the language itself. -/
def regional? (r : Resolver) (language : String) : Option String :=
  r.supported.find? fun locale =>
    Locale.languageOf locale == language && lowerString locale != language

def supported? (r : Resolver) (locale : String) : Option String :=
  let language := Locale.languageOf locale
  match r.canonical? (lowerString locale) with
  | some found => some found
  | none =>
    match r.canonical? language with
    | some found => some found
    | none => r.regional? language

/-- The locale for a text that a user gave; a blank one stands for the default. -/
def validate (r : Resolver) (locale : Option String) : Traced String :=
  let trimmed := trimString (locale.getD "")
  if trimmed.isEmpty then pure r.default
  else if r.supported.isEmpty then
    if Locale.accepts trimmed then pure trimmed
    else do
      r.log .warning "malformed_locale" [("locale", .text trimmed)]
      pure r.default
  else
    match r.supported? trimmed with
    | some found => pure found
    | none => do
      r.log .warning "unsupported_locale" [("locale", .text trimmed)]
      pure r.default

/-- The supported locale for one tag: the same, or the first of the same language. -/
def match? (r : Resolver) (tag : String) : Option String :=
  match r.canonical? (lowerString tag) with
  | some found => some found
  | none => r.supported.find? fun locale => Locale.languageOf locale == Locale.languageOf tag

/-- The supported locale for the first tag that has one. -/
def bestMatch (r : Resolver) (tags : List String) : Option String := tags.findSome? r.match?

def resolve (r : Resolver) (header : Option String) : Traced String :=
  let ranges := (preferences (header.getD "").toList).map fun p => String.ofList p.range
  match r.bestMatch ranges with
  | some found => do
    r.log .info "resolved_from_header" [("locale", .text found)]
    pure found
  | none => do
    r.log .info "no_matching_locale_in_header"
      [("header", (header.map Value.text).getD .null)]
    pure r.default

end Resolver

end Localization.Negotiation
