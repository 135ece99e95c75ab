import Localization.Number.Decimal

/-! # Binary floating point numbers of sixty-four bits

A finite number is a sign, a mantissa below `2 ^ 53` and a power of two not below
`2 ^ -1074`; a mantissa below `2 ^ 52` has the least power. Results are the nearest such
number, a tie going to the even mantissa. Comparison is exact, and a number that is not a
number compares with nothing. The written form has the fewest digits that read back.
-/
namespace Localization.Number

open Localization.Text

inductive Binary64 where
  | finite (negative : Bool) (mantissa : Nat) (exponent : Int)
  | infinite (negative : Bool)
  | nan
  deriving DecidableEq, Repr

namespace Binary64

def zero : Binary64 := finite false 0 (-1074)

def isNaN : Binary64 → Bool
  | nan => true
  | _ => false

def isNegative : Binary64 → Bool
  | finite negative _ _ => negative
  | infinite negative => negative
  | nan => false

def negate : Binary64 → Binary64
  | finite negative m e => finite (!negative) m e
  | infinite negative => infinite (!negative)
  | nan => nan

/-- A mantissa that may have reached `2 ^ 53`, packed. -/
def pack (negative : Bool) (m : Nat) (e : Int) : Binary64 :=
  let (m, e) := if m = twoTo 53 then (twoTo 52, e + 1) else (m, e)
  if 971 < e then infinite negative
  else if m = 0 then finite negative 0 (-1074)
  else finite negative m e

def mantissaAt (num den : Nat) (e : Int) : Nat :=
  if 0 ≤ e then roundDiv num (den * twoTo e.toNat) else roundDiv (num * twoTo (-e).toNat) den

def reaches (num den : Nat) (k : Int) : Bool :=
  if 0 ≤ k then den * twoTo k.toNat ≤ num else den ≤ num * twoTo (-k).toNat

/-- The number nearest to a positive quotient with a sign. -/
def ofRatio (negative : Bool) (num den : Nat) : Binary64 :=
  if num = 0 then finite negative 0 (-1074)
  else
    let guess : Int := (num.log2 : Int) - den.log2
    let top := if reaches num den guess then guess else guess - 1
    let e := max (top - 52) (-1074)
    pack negative (mantissaAt num den e) e

/-- The number nearest to a decimal magnitude. Far beyond the range the result does not
depend on the digits. -/
def ofMagnitude (negative : Bool) (n : Nat) (e : Int) : Binary64 :=
  let size := e + digitCount n
  if n = 0 || size < -400 then finite negative 0 (-1074)
  else if 400 < size then infinite negative
  else if 0 ≤ e then ofRatio negative (n * tenTo e.toNat) 1
  else ofRatio negative n (tenTo (-e).toNat)

def ofInt (n : Int) : Binary64 := ofRatio (n < 0) n.natAbs 1

/-- Whether every underscore stands between two digits. -/
def underscoresSeparate : List Char → Bool
  | a :: '_' :: b :: rest => a.isDigit && b.isDigit && underscoresSeparate (b :: rest)
  | '_' :: _ => false
  | _ :: rest => underscoresSeparate rest
  | [] => true

/-- Reads a number in lower-case ASCII without underscores. -/
def ofPlain? (cs : List Char) : Option Binary64 :=
  match Decimal.read? cs with
  | some (.finite negative n e) => some (ofMagnitude negative n e)
  | some (.infinite negative) => some (infinite negative)
  | some (.nan _ false _) => if cs.getLast? = some 'n' then some nan else none
  | _ => none

/-- Reads a number with blanks around it, digits of any script, and single underscores
between digits. -/
def ofText? (cs : List Char) : Option Binary64 :=
  let plain := (trimNumber cs).map Decimal.plainChar
  if underscoresSeparate plain then ofPlain? (plain.filter (· != '_')) else none

/-- A finite number times `2 ^ 1074`, with its sign. -/
def scaled (negative : Bool) (m : Nat) (e : Int) : Int :=
  let n : Int := (m * twoTo (e + 1074).toNat : Nat)
  if negative then -n else n

/-- Strict order; false when either side is not a number. -/
def lt : Binary64 → Binary64 → Bool
  | finite s m e, finite t n f => scaled s m e < scaled t n f
  | infinite s, infinite t => s && !t
  | infinite s, finite .. => s
  | finite .., infinite t => !t
  | _, _ => false

/-- Equality of values; the two zeros are equal. -/
def beq : Binary64 → Binary64 → Bool
  | finite s m e, finite t n f => scaled s m e == scaled t n f
  | infinite s, infinite t => s == t
  | _, _ => false

/-- A finite number as sign and quotient of natural numbers. -/
def ratio (m : Nat) (e : Int) : Nat × Nat :=
  if 0 ≤ e then (m * twoTo e.toNat, 1) else (m, twoTo (-e).toNat)

def isIntegral : Binary64 → Bool
  | finite _ m e => (ratio m e).1 % (ratio m e).2 = 0
  | _ => false

def truncate? : Binary64 → Option Int
  | finite negative m e =>
    let n : Int := (ratio m e).1 / (ratio m e).2
    some (if negative then -n else n)
  | _ => none

def add : Binary64 → Binary64 → Binary64
  | finite s m e, finite t n f =>
    let sum := scaled s m e + scaled t n f
    if sum = 0 then finite (s && t) 0 (-1074) else ofRatio (sum < 0) sum.natAbs (twoTo 1074)
  | nan, _ => nan
  | _, nan => nan
  | infinite s, infinite t => if s = t then infinite s else nan
  | infinite s, _ => infinite s
  | _, infinite t => infinite t

def mul : Binary64 → Binary64 → Binary64
  | finite s m e, finite t n f =>
    let (a, b) := ratio m e
    let (c, d) := ratio n f
    ofRatio (s != t) (a * c) (b * d)
  | nan, _ => nan
  | _, nan => nan
  | infinite s, infinite t => infinite (s != t)
  | infinite s, finite t n _ => if n = 0 then nan else infinite (s != t)
  | finite s m _, infinite t => if m = 0 then nan else infinite (s != t)

end Binary64

end Localization.Number
