import Localization.Calendar.DateTime
import Localization.Text.Casing
import Localization.Value.Basic
import Localization.Yaml.Node.Reader

/-! # Values of scalars

Each standard tag has a form of text that it reads. Integers are written in base two, eight,
ten, sixteen or sixty, reals in base ten or sixty; underscores in them do not count.
-/
namespace Localization.Yaml

open Number Calendar Text

/-- The value of a digit in a base of at most sixteen; decimal digits may be of any script. -/
def digitIn? (base : Nat) (c : Char) : Option Nat :=
  let n? := match digitValue? c with
    | some n => some n
    | none => if isHex c then some (hexDigitValue c) else none
  n?.filter (· < base)

def dropBaseMark (base : Nat) (cs : List Char) : List Char :=
  match cs with
  | '0' :: m :: rest =>
    if (base == 2 && m.toLower == 'b') || (base == 8 && m.toLower == 'o') ||
        (base == 16 && m.toLower == 'x') then rest
    else cs
  | _ => cs

def readInteger (base : Nat) (text : List Char) : Except Fault Int :=
  let body := trimNumber text
  let negative := body.head? == some '-'
  let digits := (dropBaseMark base (dropSign body)).map (digitIn? base)
  if digits.isEmpty || digits.any Option.isNone then .error (.integer base (String.ofList text))
  else if base == 10 && maxWholeDigits < digits.length then .error (.digits digits.length)
  else
    let n : Nat := (digits.filterMap id).foldl (fun n d => base * n + d) 0
    .ok (if negative then -(n : Int) else n)

def readIntegers : List (List Char) → Except Fault (List Int)
  | [] => .ok []
  | part :: rest => do
    let n ← readInteger 10 part
    let ns ← readIntegers rest
    pure (n :: ns)

def dropUnderscores (cs : List Char) : List Char := cs.filter (· != '_')

/-- The text of a number without its sign, and whether it is negative. -/
def splitSign (cs : List Char) : Bool × List Char := (cs.head? == some '-', dropSign cs)

def readUnsigned (cs : List Char) : Except Fault Int :=
  match cs with
  | [] => .error .emptyNumber
  | ['0'] => .ok 0
  | '0' :: 'b' :: rest => readInteger 2 rest
  | '0' :: 'x' :: rest => readInteger 16 rest
  | '0' :: _ => readInteger 8 cs
  | _ =>
    if cs.contains ':' then do
      let parts ← readIntegers (splitAt ':' cs)
      pure (parts.foldl (fun n d => 60 * n + d) 0)
    else readInteger 10 cs

def integerValue (text : List Char) : Except Fault Value :=
  let cs := dropUnderscores text
  if cs.isEmpty then .error .emptyNumber
  else do
    let (negative, digits) := splitSign cs
    let n ← readUnsigned digits
    pure (.int (if negative then -n else n))

def readReal (cs : List Char) : Except Fault Binary64 :=
  match Binary64.ofText? cs with
  | some x => .ok x
  | none => .error (.real (String.ofList cs))

def readReals : List (List Char) → Except Fault (List Binary64)
  | [] => .ok []
  | part :: rest => do
    let x ← readReal part
    let xs ← readReals rest
    pure (x :: xs)

def sumSexagesimal : List Binary64 → Int → Binary64 → Except Fault Binary64
  | [], _, sum => .ok sum
  | part :: rest, base, sum =>
    match Binary64.ofInt base with
    | .finite negative m e =>
      sumSexagesimal rest (base * 60) (sum.add (part.mul (.finite negative m e)))
    | _ => .error .realSize

def realValue (text : List Char) : Except Fault Value :=
  let cs := lower (dropUnderscores text)
  if cs.isEmpty then .error .emptyNumber
  else do
    let (negative, digits) := splitSign cs
    let x ←
      if digits == ".inf".toList then pure (Binary64.infinite false)
      else if digits == ".nan".toList then pure .nan
      else if digits.contains ':' then do
        let parts ← readReals (splitAt ':' digits)
        sumSexagesimal parts.reverse 1 .zero
      else readReal digits
    pure (.float (if negative then x.negate else x))

def booleanValue (text : List Char) : Except Fault Value :=
  let word := String.ofList (lower text)
  if ["yes", "true", "on"].contains word then .ok (.bool true)
  else if ["no", "false", "off"].contains word then .ok (.bool false)
  else .error .boolean

def zoneOffset (zone : Option (Char × List Char × List Char)) : Except Fault (Option Int) :=
  match zone with
  | none => .ok none
  | some (sign, hours, minutes) =>
    if sign == 'Z' then .ok (some 0)
    else
      let size : Int := (ofDigits hours * 3600 + ofDigits minutes * 60 : Nat)
      let seconds := if sign == '-' then -size else size
      if 86400 ≤ size then .error (.calendar (.offset seconds)) else .ok (some (seconds * 1000000))

def fractionMicros (digits : List Char) : Nat :=
  let kept := digits.take 6
  ofDigits kept * tenTo (6 - kept.length)

def ofCalendar {α : Type} (result : Except Calendar.Fault α) : Except Fault α :=
  match result with
  | .ok a => .ok a
  | .error fault => .error (.calendar fault)

def timestampValue (text : List Char) : Except Fault Value :=
  match readStamp? (dropFinalBreak text) with
  | none => .error .timestamp
  | some stamp =>
    let year := ofDigits stamp.year
    let month := ofDigits stamp.month
    let day := ofDigits stamp.day
    match stamp.clock with
    | none => do
      let d ← ofCalendar (Date.of? year month day)
      pure (.date d)
    | some (hour, minute, second, fraction) => do
      let offset ← zoneOffset stamp.zone
      let t ← ofCalendar (DateTime.of? year month day (ofDigits hour) (ofDigits minute)
        (ofDigits second) (fractionMicros fraction) offset)
      pure (.moment t)

/-- The six bits that a character stands for. -/
def sextet? (c : Char) : Option Nat :=
  if 'A' ≤ c && c ≤ 'Z' then some (c.toNat - 'A'.toNat)
  else if 'a' ≤ c && c ≤ 'z' then some (c.toNat - 'a'.toNat + 26)
  else if '0' ≤ c && c ≤ '9' then some (c.toNat - '0'.toNat + 52)
  else if c == '+' then some 62
  else if c == '/' then some 63
  else none

/-- The octets written in base sixty-four. `phase` counts the characters of the present group
of four, `left` holds the bits left over, `pads` counts the padding just before. Other
characters do not count. -/
def octetsFrom (phase left pads : Nat) : List Char → Option (List UInt8)
  | [] => if phase == 0 then some [] else none
  | c :: rest =>
    if c == '=' then
      if 2 ≤ phase && 4 ≤ phase + pads + 1 then some []
      else octetsFrom phase left (if 2 ≤ phase then pads + 1 else pads) rest
    else
      match sextet? c with
      | none => octetsFrom phase left pads rest
      | some n =>
        if phase == 0 then octetsFrom 1 n 0 rest
        else
          let octet := match phase with
            | 1 => left * 4 + n / 16
            | 2 => left * 16 + n / 4
            | _ => left * 64 + n
          let kept := match phase with
            | 1 => n % 16
            | 2 => n % 4
            | _ => 0
          (octetsFrom ((phase + 1) % 4) kept 0 rest).map (UInt8.ofNat octet :: ·)

def binaryValue (text : List Char) : Except Fault Value :=
  if text.any fun c => 0x80 ≤ c.toNat then .error .malformed
  else
    match octetsFrom 0 0 0 text with
    | some octets => .ok (.octets octets)
    | none => .error .malformed

def scalarValue (tag : Tag) (text : List Char) : Except Fault Value :=
  match tag with
  | .text => .ok (.text (String.ofList text))
  | .null => .ok .null
  | .boolean => booleanValue text
  | .integer => integerValue text
  | .real => realValue text
  | .timestamp => timestampValue text
  | .binary => binaryValue text
  | _ => .error .malformed

end Localization.Yaml
