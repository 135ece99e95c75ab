import Localization.Calendar.Date
import Localization.Number.Shortest

/-! # Moments

A moment is a date with a time of day to the microsecond and, when known, an offset from
universal time. A count of seconds since 1970 names a moment in universal time.
-/
namespace Localization.Calendar

open Localization.Number Localization.Text

/-- An offset is in microseconds, east of universal time positive. -/
structure DateTime where
  date : Date
  hour : Nat
  minute : Nat
  second : Nat
  microsecond : Nat
  offset : Option Int
  deriving DecidableEq, Repr

def microsPerSecond : Int := 1000000
def secondsPerDay : Int := 86400

def padded (width n : Nat) : List Char :=
  let digits := decimalDigits n
  List.replicate (width - digits.length) '0' ++ digits

def Date.isoText (d : Date) : List Char :=
  padded 4 d.year ++ '-' :: padded 2 d.month ++ '-' :: padded 2 d.day

namespace DateTime

def of? (year month day hour minute second microsecond : Nat) (offset : Option Int) :
    Except Fault DateTime :=
  match Date.of? year month day with
  | .error fault => .error fault
  | .ok date =>
    if 23 < hour then .error .hour
    else if 59 < minute then .error .minute
    else if 59 < second then .error .second
    else .ok ⟨date, hour, minute, second, microsecond, offset⟩

/-- The microseconds since the first moment of year 1, in universal time where an offset
is known. -/
def instant (t : DateTime) : Int :=
  ((((t.date.ordinal : Int) - 1) * secondsPerDay + t.hour * 3600 + t.minute * 60 + t.second) *
    microsPerSecond + t.microsecond) - t.offset.getD 0

/-- Two moments are the same when both or neither know their offset and their instants
agree. -/
def same (s t : DateTime) : Bool := s.offset.isSome == t.offset.isSome && s.instant == t.instant

/-- An offset as hours and minutes, with seconds and microseconds where they matter. -/
def offsetText (offset : Int) : List Char :=
  let total := offset.natAbs
  let micros := total % 1000000
  let seconds := total / 1000000
  (if offset < 0 then '-' else '+') :: padded 2 (seconds / 3600) ++
    ':' :: padded 2 (seconds / 60 % 60) ++
    (if seconds % 60 = 0 && micros = 0 then [] else ':' :: padded 2 (seconds % 60)) ++
    (if micros = 0 then [] else '.' :: padded 6 micros)

def isoText (separator : Char) (t : DateTime) : List Char :=
  t.date.isoText ++ separator :: padded 2 t.hour ++ ':' :: padded 2 t.minute ++
    ':' :: padded 2 t.second ++
    (if t.microsecond = 0 then [] else '.' :: padded 6 t.microsecond) ++
    (match t.offset with
      | some offset => offsetText offset
      | none => [])

/-- The moment a number of microseconds after the start of 1970. -/
def ofEpochMicros? (micros : Int) : Option DateTime :=
  let seconds := Int.fdiv micros microsPerSecond
  let day := Int.fdiv seconds secondsPerDay
  let inDay := (Int.fmod seconds secondsPerDay).toNat
  (Date.ofOrdinal? (day + 719163)).map fun date =>
    ⟨date, inDay / 3600, inDay / 60 % 60, inDay % 60, (Int.fmod micros microsPerSecond).toNat,
      some 0⟩

def ofEpochSeconds? (n : Int) : Option DateTime := ofEpochMicros? (n * microsPerSecond)

/-- The whole number nearest to a finite number, a tie going to the even one. -/
def roundHalfEven (negative : Bool) (m : Nat) (e : Int) : Int :=
  let (num, den) := Binary64.ratio m e
  let n : Int := roundDiv num den
  if negative then -n else n

/-- Seconds with a fraction, the fraction taken to the nearest microsecond in binary
arithmetic. -/
def ofEpochFloat? : Binary64 → Option DateTime
  | .finite negative m e =>
    let (num, den) := Binary64.ratio m e
    let whole : Int := num / den
    let fraction := Binary64.mul (Binary64.ofRatio negative (num % den) den)
      (Binary64.ofInt microsPerSecond)
    match fraction with
    | .finite s n f =>
      ofEpochMicros? ((if negative then -whole else whole) * microsPerSecond +
        roundHalfEven s n f)
    | _ => none
  | _ => none

end DateTime

end Localization.Calendar
