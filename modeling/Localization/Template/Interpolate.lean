import Localization.Catalog.Path
import Localization.Format.Kind
import Localization.Template.Placeholder

/-! # Interpolation

Each placeholder of a template gives way to the parameter at its path, shown by its kind
of format. A placeholder without a parameter stays as it was written and is reported. What
is put in is not read again.
-/
namespace Localization.Template

open Format

variable [Locale.Data] [Stack]

def warnInterpolation (event : String) (fields : List (String × Value)) : Traced Unit :=
  Traced.log .warning "interpolation" event fields

/-- A parameter as text: dates by the format of dates, others as they are. -/
def plainText (value : Value) (locale : Option String) : Attempt String :=
  match value with
  | .date d => date (.date d) locale none
  | .moment t => date (.moment t) locale none
  | other => Attempt.ofExcept other.shown

def substitute (p : Placeholder) (value : Value) (locale : Option String) : Attempt String :=
  match p.kind with
  | some kind =>
    ofKind (Kind.ofName? (some (String.ofList kind))) value (p.argument.map String.ofList) locale
  | none => plainText value locale

def renderPiece (params : Entries) (locale key : Option String) (piece : Piece) :
    Attempt (List Char) :=
  match piece with
  | .literal c => pure [c]
  | .placeholder p source =>
    match Catalog.resolve? (.map params) (String.ofList p.name) with
    | none => do
      liftM (warnInterpolation "missing_interpolation_param"
        [("key", optionalText key), ("param", .text (String.ofList p.name)),
          ("provided_params", .list (params.map Prod.fst))])
      pure source
    | some value => do
      let text ← substitute p value locale
      pure text.toList

def renderPieces (params : Entries) (locale key : Option String) :
    List Piece → Attempt (List Char)
  | [] => pure []
  | piece :: rest => do
    let first ← renderPiece params locale key piece
    let others ← renderPieces params locale key rest
    pure (first ++ others)

/-- Puts parameters into a template. Without parameters the template stays as it is, and
its placeholders are reported. -/
def interpolate (template : String) (params : Option Entries) (locale key : Option String) :
    Attempt String :=
  match params with
  | none => do
    if !(names template).isEmpty then
      liftM (warnInterpolation "missing_interpolation_params"
        [("key", optionalText key), ("placeholders", .list ((names template).map .text))])
    pure template
  | some params => do
    let text ← renderPieces params locale key (pieces template.toList)
    pure (String.ofList text)

end Localization.Template
