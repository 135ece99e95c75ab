import Localization.Calendar.Iso
import Localization.Format.Number

/-! # Dates in a locale

A moment is shown by its own date. Numbers are seconds since 1970 and texts are read in the
international notation.
-/
namespace Localization.Format

open Calendar Text Localization.Locale

variable [Data] [Stack]

def DateStyle.ofName? : String → Option DateStyle
  | "short" => some .short
  | "medium" => some .medium
  | "long" => some .long
  | "full" => some .full
  | _ => none

def dateOf? : Value → Option Date
  | .date d => some d
  | .moment t => some t.date
  | .int n => (DateTime.ofEpochSeconds? n).map DateTime.date
  | .float x => (DateTime.ofEpochFloat? x).map DateTime.date
  | .text s => (Iso.read? (trim s.toList)).map DateTime.date
  | _ => none

def date (value : Value) (locale style : Option String) : Attempt String :=
  match dateOf? value with
  | none => misfit "invalid_date_value" value locale
  | some d => do
    let name := styleName (orDefault style "medium")
    let style ← liftM (styleOr "unknown_date_style" DateStyle.ofName? name (.text name) .medium)
    let conventions ← liftM (conventionsFor locale)
    pure (conventions.date style d)

end Localization.Format
