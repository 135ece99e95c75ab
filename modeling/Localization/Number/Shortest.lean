import Localization.Number.Binary64

/-! # Shortest written forms

Among the decimal numbers that read back as a given binary number, the written form takes
one with the fewest digits, and among those the nearest, of two the even one. It is positional for leading
digits from `10 ^ -4` to `10 ^ 15` and has a signed exponent of at least two digits beyond.
-/
namespace Localization.Number.Binary64

open Localization.Text

/-- An interval of numbers over a common denominator, with or without its ends. -/
structure Interval where
  low : Nat
  high : Nat
  closed : Bool

def Interval.contains (i : Interval) (n : Nat) : Bool :=
  if i.closed then i.low ≤ n && n ≤ i.high else i.low < n && n < i.high

/-- The numbers that round to a positive number, in units of a quarter of its last place. -/
def roundingInterval (m : Nat) (e : Int) : Interval :=
  ⟨if m = twoTo 52 && -1074 < e then 4 * m - 1 else 4 * m - 2, 4 * m + 2, m % 2 = 0⟩

def leadingExponent (num den : Nat) : Nat → Int → Int
  | 0, k => k
  | fuel + 1, k =>
    let above := if 0 ≤ k + 1 then den * tenTo (k + 1).toNat ≤ num
      else den ≤ num * tenTo (-(k + 1)).toNat
    if above then leadingExponent num den fuel (k + 1) else k

/-- The nearest multiple of `10 ^ p` in the interval, as a count of that unit. All numbers
are over the denominator `den`. -/
def nearestOnGrid? (value den : Nat) (i : Interval) (p : Int) : Option Nat :=
  let (num, unit) := if 0 ≤ p then (1, den * tenTo p.toNat) else (tenTo (-p).toNat, den)
  let down := value * num / unit
  let inside (k : Nat) : Bool := Interval.contains ⟨i.low * num, i.high * num, i.closed⟩ (k * unit)
  let twice := 2 * (value * num - down * unit)
  let nearerUp := unit < twice || (unit == twice && down % 2 == 1)
  match inside down, inside (down + 1) with
  | true, true => some (if nearerUp then down + 1 else down)
  | true, false => some down
  | false, true => some (down + 1)
  | false, false => none

/-- The first grid that meets the interval, from coarse to fine. -/
def searchGrids (value den : Nat) (i : Interval) : Nat → Int → Option (Nat × Int)
  | 0, _ => none
  | fuel + 1, p =>
    match nearestOnGrid? value den i p with
    | some n => if n = 0 then searchGrids value den i fuel (p - 1) else some (n, p)
    | none => searchGrids value den i fuel (p - 1)

/-- The shortest decimal magnitude that reads back as a positive number. -/
def shortest (m : Nat) (e : Int) : Nat × Int :=
  let i := roundingInterval m e
  let (scale, den) := if 2 ≤ e then (twoTo (e - 2).toNat, 1) else (1, twoTo (2 - e).toNat)
  let value := 4 * m * scale
  let lead := leadingExponent value den 700 (-330)
  match searchGrids value den ⟨i.low * scale, i.high * scale, i.closed⟩ 18 lead with
  | some (n, p) => stripZeros 20 n p
  | none => (m, e)

def twoDigits (n : Nat) : List Char :=
  if n < 10 then ['0', digitChar n] else decimalDigits n

/-- The written form of a positive magnitude. -/
def magnitudeText (n : Nat) (e : Int) : List Char :=
  let digits := decimalDigits n
  let point : Int := e + digits.length
  if -4 < point && point ≤ 16 then
    if point ≤ 0 then '0' :: '.' :: (List.replicate (-point).toNat '0' ++ digits)
    else
      let whole := digits.take point.toNat ++ List.replicate (point.toNat - digits.length) '0'
      let fraction := digits.drop point.toNat
      whole ++ '.' :: (if fraction.isEmpty then ['0'] else fraction)
  else
    let x := point - 1
    (match digits with
      | d :: [] => [d]
      | d :: more => d :: '.' :: more
      | [] => []) ++ 'e' :: (if x < 0 then '-' else '+') :: twoDigits x.natAbs

def text : Binary64 → List Char
  | nan => "nan".toList
  | infinite negative => (if negative then ['-'] else []) ++ "inf".toList
  | finite negative m e =>
    (if negative then ['-'] else []) ++
      (if m = 0 then "0.0".toList
      else
        let (n, f) := shortest m e
        magnitudeText n f)

/-- The decimal number with the same written form. -/
def toDecimal : Binary64 → Decimal
  | nan => .nan false false 0
  | infinite negative => .infinite negative
  | finite negative m e =>
    if m = 0 then .finite negative 0 (-1)
    else
      let (n, f) := shortest m e
      if f < 0 then .finite negative n f
      else if f + digitCount n ≤ 16 then .finite negative (n * tenTo (f.toNat + 1)) (-1)
      else .finite negative n f

end Localization.Number.Binary64
