import Localization.Number.Binary64
import Localization.Value.Basic

/-! # Plural categories

The six categories of plural forms, the counts that they are chosen for, and the maps that
hold one form for each of some categories.
-/
namespace Localization.Plural

open Number

inductive Category where
  | zero
  | one
  | two
  | few
  | many
  | other
  deriving DecidableEq, Repr

def Category.name : Category → String
  | zero => "zero"
  | one => "one"
  | two => "two"
  | few => "few"
  | many => "many"
  | other => "other"

def Category.all : List Category := [zero, one, two, few, many, other]

def isCategoryName (s : String) : Bool := Category.all.any fun c => c.name == s

def isCategoryKey : Value → Bool
  | .text s => isCategoryName s
  | _ => false

def isFormSet : Value → Bool
  | .map entries => !entries.isEmpty && entries.all fun entry => isCategoryKey entry.1
  | _ => false

/-- A number to be counted with: a whole number, a decimal number with a fraction, which
counts by its whole part, or a number that does not count. -/
inductive Count where
  | whole (n : Int)
  | truncated (n : Int)
  | uncounted
  deriving DecidableEq, Repr

namespace Count

def isOne : Count → Bool
  | whole n => n == 1
  | _ => false

def magnitude? : Count → Option Nat
  | whole n => some n.natAbs
  | truncated n => some n.natAbs
  | uncounted => none

def ofFloat (x : Binary64) : Count :=
  if x.isIntegral then
    match x.truncate? with
    | some n => whole n
    | none => uncounted
  else uncounted

def ofDecimal : Decimal → Count
  | .finite negative n e =>
    let (num, den) := if 0 ≤ e then (n * tenTo e.toNat, 1) else (n, tenTo (-e).toNat)
    let m : Int := if negative then -(num / den : Nat) else (num / den : Nat)
    if num % den = 0 then whole m else truncated m
  | _ => uncounted

def ofValue? : Value → Option Count
  | .bool b => some (whole b.toNat)
  | .int n => some (whole n)
  | .float x => some (ofFloat x)
  | .decimal d => some (ofDecimal d)
  | _ => none

end Count

/-- The parameter named `count`, when it is a whole or binary number. -/
def countValue? (params : Option Entries) : Option Value :=
  match (params.getD []).get? (.text "count") with
  | some (.int n) => some (.int n)
  | some (.float x) => some (.float x)
  | _ => none

def countOf? (params : Option Entries) : Option Count := (countValue? params).bind Count.ofValue?

end Localization.Plural
