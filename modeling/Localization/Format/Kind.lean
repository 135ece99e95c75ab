import Localization.Format.List

/-! # Kinds of formats

A value is shown as a number, an amount of money, a date or a list, with an argument that
names a style or a currency. Without a kind it is shown as it is.
-/
namespace Localization.Format

inductive Kind where
  | number
  | currency
  | date
  | list
  deriving DecidableEq, Repr

def Kind.name : Kind → String
  | number => "number"
  | currency => "currency"
  | date => "date"
  | list => "list"

def Kind.ofName? (name : Option String) : Option Kind :=
  match styleName (name.getD "") with
  | "number" => some .number
  | "currency" => some .currency
  | "date" => some .date
  | "list" => some .list
  | _ => none

variable [Locale.Data] [Stack]

def ofKind (kind : Option Kind) (value : Value) (argument locale : Option String) :
    Attempt String :=
  match kind with
  | none => Attempt.ofExcept value.shown
  | some .number => number value locale argument
  | some .currency => currency value locale argument
  | some .date => date value locale argument
  | some .list => list value locale argument

end Localization.Format
