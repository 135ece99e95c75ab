import Localization.Number.Rounding
import Localization.Text.Split
import Localization.Text.Digit

/-! # Decimal numbers

A decimal number is a sign, a natural coefficient and a power of ten, or an infinity, or
not a number. Its written form keeps the zeros at the end of the coefficient. Arithmetic
rounds to twenty-eight digits, a tie to the even digit, and refuses results that need more.
-/
namespace Localization.Number

open Localization.Text

inductive Decimal where
  | finite (negative : Bool) (coefficient : Nat) (exponent : Int)
  | infinite (negative : Bool)
  | nan (negative signaling : Bool) (payload : Nat)
  deriving DecidableEq, Repr

inductive ArithmeticFault where
  | invalid
  | overflow
  /-- A text of more digits than are read as one number. -/
  | digits (count : Nat)
  deriving DecidableEq, Repr

namespace Decimal

/-- The number of digits kept by arithmetic. -/
def precision : Nat := 28

/-- The largest decimal exponent of a leading digit. -/
def maxExponent : Int := 999999

def minExponent : Int := -1000026

def isNegative : Decimal → Bool
  | finite negative _ _ => negative
  | infinite negative => negative
  | nan negative _ _ => negative

def isFinite : Decimal → Bool
  | finite .. => true
  | _ => false

def ofInt (n : Int) : Decimal := finite (n < 0) n.natAbs 0

def spanDigits (cs : List Char) : List Char × List Char := cs.span Char.isDigit

/-- Whether a minus sign begins a text, and the text without its sign. -/
def splitSign : List Char → Bool × List Char
  | '-' :: rest => (true, rest)
  | '+' :: rest => (false, rest)
  | cs => (false, cs)

/-- An exponent part that runs to the end of the text. -/
def readExponent? : List Char → Option Int
  | [] => some 0
  | c :: rest =>
    if c != 'e' then none
    else
      let (negative, digits) := splitSign rest
      if digits.isEmpty || !digits.all Char.isDigit then none
      else some (if negative then -(ofDigits digits : Int) else ofDigits digits)

/-- A finite magnitude: digits with at most one point among or around them. -/
def readMagnitude? (cs : List Char) : Option (Nat × Int) :=
  let (whole, rest) := spanDigits cs
  match rest with
  | '.' :: more =>
    let (fraction, tail) := spanDigits more
    if whole.isEmpty && fraction.isEmpty then none
    else (readExponent? tail).map fun e => (ofDigits (whole ++ fraction), e - fraction.length)
  | tail =>
    if whole.isEmpty then none
    else (readExponent? tail).map fun e => (ofDigits whole, e)

/-- Whether a text marks what is not a number as signaling, and the text without the mark. -/
def splitSignal : List Char → Bool × List Char
  | 's' :: rest => (true, rest)
  | cs => (false, cs)

/-- A magnitude of any kind, in lower case. -/
def readUnsigned? (negative : Bool) (cs : List Char) : Option Decimal :=
  if cs = "inf".toList || cs = "infinity".toList then some (infinite negative)
  else
    let (signaling, rest) := splitSignal cs
    if "nan".toList.isPrefixOf rest then
      let digits := rest.drop 3
      if digits.all Char.isDigit then some (nan negative signaling (ofDigits digits)) else none
    else (readMagnitude? cs).map fun (n, e) => finite negative n e

/-- Reads a number in lower-case ASCII, of any size. -/
def read? (cs : List Char) : Option Decimal :=
  let (negative, rest) := splitSign cs
  readUnsigned? negative rest

/-- The lower-case ASCII form of a character of a number. -/
def plainChar (c : Char) : Char :=
  match digitValue? c with
  | some n => digitChar n
  | none => c.toLower

/-- Whether the exponents of a finite number can be held. -/
def withinBounds : Decimal → Bool
  | finite _ n e =>
    if n = 0 then -1999999999999999997 ≤ e && e ≤ 999999999999999999
    else -1999999999999999997 ≤ e && e + digitCount n - 1 ≤ 999999999999999999
  | _ => true

/-- Reads a number. Blanks around it and underscores in it do not count, and digits may be
of any script. -/
def ofText? (cs : List Char) : Option Decimal :=
  match read? (((trim cs).filter (· != '_')).map plainChar) with
  | some d => if d.withinBounds then some d else none
  | none => none

def signText (negative : Bool) : List Char := if negative then ['-'] else []

def exponentText (e : Int) : List Char :=
  'E' :: (if e < 0 then '-' else '+') :: decimalDigits e.natAbs

/-- The written form: positional when the point falls in or not far before the digits,
with an exponent otherwise. -/
def text : Decimal → List Char
  | infinite negative => signText negative ++ "Infinity".toList
  | nan negative signaling payload =>
    signText negative ++ (if signaling then ['s'] else []) ++ "NaN".toList ++
      (if payload = 0 then [] else decimalDigits payload)
  | finite negative n e =>
    let digits := decimalDigits n
    let left : Int := e + digits.length
    signText negative ++
      (if e ≤ 0 && -6 < left then
        if e = 0 then digits
        else if 0 < left then digits.take left.toNat ++ '.' :: digits.drop left.toNat
        else '0' :: '.' :: (List.replicate (-left).toNat '0' ++ digits)
      else
        (match digits with
          | d :: [] => [d]
          | d :: more => d :: '.' :: more
          | [] => []) ++ (if left = 1 then [] else exponentText (left - 1)))

/-- The positional form of a magnitude. -/
def fixedText (n : Nat) (e : Int) : List Char × List Char :=
  let digits := decimalDigits n
  if 0 ≤ e then (digits ++ List.replicate e.toNat '0', [])
  else
    let places := (-e).toNat
    let padded := List.replicate (places + 1 - digits.length) '0' ++ digits
    (padded.take (padded.length - places), padded.drop (padded.length - places))

/-- Brings a magnitude to a coefficient of at most `precision` digits. -/
def roundDigits (n : Nat) (e : Int) : Nat × Int :=
  let k := digitCount n - precision
  if k = 0 then (n, e)
  else
    let q := roundDiv n (tenTo k)
    if digitCount q ≤ precision then (q, e + k) else (q / 10, e + k + 1)

/-- Brings a magnitude to a given exponent; digits far below it leave nothing. -/
def rescale (n : Nat) (e target : Int) : Nat :=
  if target ≤ e then n * tenTo (e - target).toNat
  else
    let k := (target - e).toNat
    if digitCount n < k then 0 else roundDiv n (tenTo k)

/-- The result of an exact operation as arithmetic gives it. -/
def finish (negative : Bool) (n : Nat) (e : Int) : Except ArithmeticFault Decimal :=
  let (q, f) := roundDigits n e
  if q = 0 then .ok (finite negative 0 f)
  else if maxExponent < f + digitCount q - 1 then .error .overflow
  else if f < minExponent then .ok (finite negative (rescale q f minExponent) minExponent)
  else .ok (finite negative q f)

/-- The number times a power of ten. -/
def shift (d : Decimal) (k : Int) : Except ArithmeticFault Decimal :=
  match d with
  | finite negative n e => finish negative n (e + k)
  | nan _ true _ => .error .invalid
  | nan negative false payload => .ok (nan negative false (payload % tenTo precision))
  | other => .ok other

/-- The magnitude, without zeros at the end of its coefficient. A number that is not a
number keeps its sign. -/
def magnitude (d : Decimal) : Except ArithmeticFault Decimal :=
  match d with
  | finite _ n e =>
    match finish false n e with
    | .ok (finite _ q f) =>
      if q = 0 then .ok (finite false 0 0)
      else
        let (c, g) := stripZeros (digitCount q) q f
        .ok (finite false c g)
    | other => other
  | infinite _ => .ok (infinite false)
  | nan _ true _ => .error .invalid
  | other => .ok other

/-- The coefficient of a finite number at a given exponent. -/
def quantize (n : Nat) (e target : Int) : Except ArithmeticFault Nat :=
  if n = 0 then .ok 0
  else if (precision : Int) < e + digitCount n - target then .error .invalid
  else
    let q := rescale n e target
    if precision < digitCount q then .error .invalid else .ok q

/-- A magnitude over a power of ten. The exponent of an exact quotient is the nearest one to
that of the magnitude. -/
def divide (n : Nat) (e : Int) (k : Nat) : Except ArithmeticFault (Nat × Int) :=
  match finish false n (e - k) with
  | .ok (finite _ q f) =>
    .ok (if q * tenTo (f - (e - k)).toNat = n then stripZeros (e - f).toNat q f else (q, f))
  | .ok _ => .error .invalid
  | .error fault => .error fault

/-- Whether the magnitude of a number is at least a natural number. -/
def atLeast (d : Decimal) (bound : Nat) : Bool :=
  match d.magnitude with
  | .ok (finite _ n e) =>
    if 0 ≤ e then decide (bound ≤ n * tenTo (min e.toNat 64))
    else if n = 0 then decide (bound = 0)
    else if e + digitCount n ≤ 0 then decide (bound = 0)
    else decide (bound * tenTo (-e).toNat ≤ n)
  | .ok (infinite _) => true
  | _ => false

end Decimal

end Localization.Number
