import Localization.Format.Date

/-! # Lists in a locale

No items give the empty text and one item stands alone. Two items take the joint for
pairs; without one, and for more items, the first two take one joint, those in the middle
another, and the last one a third. Commas stand in for a style that a locale lacks.
-/
namespace Localization.Format

open Localization.Locale

variable [Data] [Stack]

def ListStyle.ofName? : String → Option ListStyle
  | "conjunction" => some .conjunction
  | "and" => some .conjunction
  | "disjunction" => some .disjunction
  | "or" => some .disjunction
  | "unit" => some .unit
  | _ => none

def joint (name : String) : Option Joint → Except Failure Joint
  | some join => .ok join
  | none => .error (.listJoint name)

/-- The items after the first two, each put behind the text so far. -/
def joinRest (joints : Joints) (text : String) : List String → Except Failure String
  | [] => .ok text
  | [item] => do return (← joint "end" joints.last) text item
  | item :: rest => do joinRest joints ((← joint "middle" joints.middle) text item) rest

def joinItems (joints : Joints) : List String → Except Failure String
  | [] => .ok ""
  | [item] => .ok item
  | [first, second] =>
    match joints.pair with
    | some pair => .ok (pair first second)
    | none => do
      let text := (← joint "start" joints.start) first second
      joinRest joints text [second]
  | first :: second :: rest => do
    joinRest joints ((← joint "start" joints.start) first second) rest

/-- The items in a style that a locale may lack. -/
def joinItemsOr (joints : Option Joints) (items : List String) : Except Failure String :=
  match joints with
  | some joints => joinItems joints items
  | none => .ok (commaList items)

def itemsOf : Value → List Value
  | .list items => items
  | .tuple items => items
  | .map entries => entries.map Prod.fst
  | other => [other]

def list (value : Value) (locale style : Option String) : Attempt String := do
  match ← Attempt.ofExcept ((itemsOf value).mapM Value.shown) with
  | [] => pure ""
  | [item] => pure item
  | items => do
    let name := styleName (orDefault style "conjunction")
    let style ← liftM
      (styleOr "unknown_list_style" ListStyle.ofName? name (optionalText style) .conjunction)
    let conventions ← liftM (conventionsFor locale)
    Attempt.ofExcept (joinItemsOr (conventions.joints style) items)

end Localization.Format
