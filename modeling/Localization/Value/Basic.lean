import Localization.Calendar.DateTime

/-! # Values

Messages, parameters and log fields are values: scalars, sequences and maps whose entries
keep the order in which their keys first came. Keys are compared by `sameKey`: numbers of
any kind, the booleans among them, are the same key when they are equal as numbers.
-/
namespace Localization

open Number Calendar

/-- How deeply data may be nested before the stack of the interpreter runs out: a value that
is shown, and a document that is read. -/
class Stack where
  values : Nat
  documents : Nat

namespace Stack

/-- About the room that a thousand frames leave. -/
scoped instance usual : Stack := ⟨950, 480⟩

end Stack

inductive Value where
  | null
  | bool (b : Bool)
  | int (n : Int)
  | float (x : Binary64)
  | decimal (d : Decimal)
  | text (s : String)
  | octets (bytes : List UInt8)
  | date (d : Date)
  | moment (t : DateTime)
  | list (items : List Value)
  | tuple (items : List Value)
  | map (entries : List (Value × Value))
  deriving Inhabited

def optionalText : Option String → Value
  | some s => .text s
  | none => .null

abbrev Entries := List (Value × Value)

/-- A number as an exact quantity: a whole coefficient without zeros at its end and a
power of ten, or an infinity. -/
inductive Quantity where
  | finite (coefficient : Int) (exponent : Int)
  | infinite (negative : Bool)
  deriving DecidableEq, Repr

def Quantity.ofMagnitude (negative : Bool) (n : Nat) (e : Int) : Quantity :=
  if n = 0 then finite 0 0
  else
    let (c, f) := stripZeros (digitCount n) n e
    finite (if negative then -(c : Int) else c) f

namespace Value

/-- The quantity of a number; none for other values and for what is not a number. -/
def quantity? : Value → Option Quantity
  | bool b => some (.ofMagnitude false b.toNat 0)
  | int n => some (.ofMagnitude (n < 0) n.natAbs 0)
  | float (.finite negative m e) =>
    some (if 0 ≤ e then .ofMagnitude negative (m * twoTo e.toNat) 0
      else .ofMagnitude negative (m * Nat.pow 5 (-e).toNat) e)
  | float (.infinite negative) => some (.infinite negative)
  | decimal (.finite negative n e) => some (.ofMagnitude negative n e)
  | decimal (.infinite negative) => some (.infinite negative)
  | _ => none

def sameScalar : Value → Value → Bool
  | null, null => true
  | text a, text b => a == b
  | octets a, octets b => a == b
  | date a, date b => a == b
  | moment a, moment b => a.same b
  | a, b =>
    match a.quantity?, b.quantity? with
    | some p, some q => p == q
    | _, _ => false

mutual

def sameKey : Value → Value → Bool
  | tuple as, tuple bs => sameKeys as bs
  | a, b => sameScalar a b

def sameKeys : List Value → List Value → Bool
  | [], [] => true
  | a :: as, b :: bs => sameKey a b && sameKeys as bs
  | _, _ => false

end

def kindName : Value → String
  | null => "NoneType"
  | bool _ => "bool"
  | int _ => "int"
  | float _ => "float"
  | decimal _ => "Decimal"
  | text _ => "str"
  | octets _ => "bytes"
  | date _ => "date"
  | moment _ => "datetime"
  | list _ => "list"
  | tuple _ => "tuple"
  | map _ => "dict"

def entries? : Value → Option Entries
  | map entries => some entries
  | _ => none

def isMap : Value → Bool
  | map _ => true
  | _ => false

end Value

namespace Entries

def get? (entries : Entries) (key : Value) : Option Value :=
  (entries.find? fun entry => entry.1.sameKey key).map Prod.snd

/-- Puts a value at a key. A key that is present keeps its place and its own form. -/
def put (entries : Entries) (key value : Value) : Entries :=
  match entries with
  | [] => [(key, value)]
  | (k, v) :: rest =>
    if k.sameKey key then (k, value) :: rest else (k, v) :: put rest key value

def ofList (pairs : List (Value × Value)) : Entries :=
  pairs.foldl (fun entries pair => put entries pair.1 pair.2) []

end Entries

end Localization
