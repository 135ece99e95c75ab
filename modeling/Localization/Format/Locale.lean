import Localization.Locale.Conventions
import Localization.Text.Casing
import Localization.Trace

/-! # The locale of a format

A locale code that names no locale of the data is replaced by English, with a warning.
-/
namespace Localization.Format

open Localization.Locale

variable [Data]

def fallbackCode : String := "en"

def warn (event : String) (fields : List (String × Value)) : Traced Unit :=
  Traced.log .warning "formatters" event fields

def localeName (code : String) : List Char :=
  (Text.trim code.toList).map fun c => if c = '-' then '_' else c

def conventionsFor (locale : Option String) : Traced Conventions :=
  match Data.named? (localeName (locale.getD "")) with
  | some conventions => pure conventions
  | none => do
    warn "invalid_format_locale"
      [("locale", optionalText locale), ("fallback_locale", .text fallbackCode)]
    pure Data.english

def orDefault (option : Option String) (default : String) : String :=
  match option with
  | some s => if s.isEmpty then default else s
  | none => default

def styleName (style : String) : String := Text.lowerString (Text.trimString style)

end Localization.Format
