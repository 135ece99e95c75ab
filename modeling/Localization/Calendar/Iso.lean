import Localization.Calendar.DateTime

/-! # Reading dates in the international notation

A date is written with or without dashes, by month and day or by week and weekday. Any
one character separates it from a time of day, which has pairs of digits with or without
colons, a fraction, and a zone. Dates by day of the year and the hour 24 are not accepted.
-/
namespace Localization.Calendar.Iso

open Localization.Text

/-- The number written by the first `width` characters when all are ASCII digits, and the
text after them. -/
def readDigits? (width : Nat) (cs : List Char) : Option (Nat × List Char) :=
  let digits := cs.take width
  if digits.length = width && digits.all Char.isDigit then some (ofDigits digits, cs.drop width)
  else none

/-- The size of a text in bytes, in which the parts of a time are measured. -/
def byteSize (cs : List Char) : Nat := cs.foldl (fun n c => n + c.utf8Size) 0

def digitAt (cs : List Char) (i : Nat) : Bool :=
  match cs[i]? with
  | some c => c.isDigit
  | none => false

/-- The length of the date at the start of a text of at least seven characters. Where a
week date leaves two readings the shorter date is taken. -/
def dateLength? (cs : List Char) : Option Nat :=
  let size := cs.length
  if size = 7 then some 7
  else if cs[4]? = some '-' then
    if cs[5]? = some 'W' then
      if cs[8]? = some '-' then
        if size = 9 then none
        else if 10 < size && digitAt cs 10 then some 8
        else some 10
      else some 8
    else some 10
  else if cs[4]? = some 'W' then
    let stop := 7 + ((cs.drop 7).takeWhile Char.isDigit).length
    if stop < 9 then some stop
    else if stop % 2 = 0 then some 7
    else some 8
  else some 8

def readSeparator? (inUse : Bool) (cs : List Char) : Option (List Char) :=
  if inUse then
    match cs with
    | '-' :: rest => some rest
    | _ => none
  else some cs

def readWeekDate? (dashed : Bool) (year : Nat) (cs : List Char) : Option Date := do
  let (week, rest) ← readDigits? 2 cs
  if rest.isEmpty then Date.ofWeek? year week 1
  else
    let rest ← readSeparator? dashed rest
    let (day, rest) ← readDigits? 1 rest
    if rest.isEmpty then Date.ofWeek? year week day else none

def readDate? (cs : List Char) : Option Date := do
  let (year, rest) ← readDigits? 4 cs
  let dashed := rest.head? = some '-'
  let rest := if dashed then rest.drop 1 else rest
  match rest with
  | 'W' :: week => readWeekDate? dashed year week
  | _ =>
    let (month, rest) ← readDigits? 2 rest
    let rest ← readSeparator? dashed rest
    let (day, rest) ← readDigits? 2 rest
    if rest.isEmpty then (Date.of? year month day).toOption else none

/-- A time of day or an offset, in fields. -/
structure Clock where
  hour : Nat
  minute : Nat
  second : Nat
  microsecond : Nat

/-- The fraction that ends a clock reading of `size` bytes. Digits after the sixth do
not count. -/
def readFraction? (size : Nat) (cs : List Char) : Option (Nat × Bool) := do
  let width := min size 6
  let (n, rest) ← readDigits? width cs
  some (n * Number.tenTo (6 - width), !(rest.dropWhile Char.isDigit).isEmpty)

/-- The fields of a clock reading. The first `size` bytes belong to it; the text may
go on with a zone. The flag says that text remains. -/
def readFields? : Nat → Bool → Nat → List Char → Option (List Nat × Nat × Bool)
  | 0, _, size, cs => (readFraction? size cs).map fun (f, more) => ([], f, more)
  | fields + 1, colons, size, cs => do
    let (n, rest) ← readDigits? 2 cs
    let next := rest.head?
    let colons := if fields = 2 then next = some ':' else colons
    if size ≤ 3 then some ([n], 0, next.isSome)
    else if colons && next = some ':' then
      let (ns, f, more) ← readFields? fields colons (size - 3) (rest.drop 1)
      some (n :: ns, f, more)
    else if next = some '.' || next = some ',' then
      let (f, more) ← readFraction? (size - 3) (rest.drop 1)
      some ([n], f, more)
    else if !colons then
      let (ns, f, more) ← readFields? fields colons (size - 2) rest
      some (n :: ns, f, more)
    else none

def readClock? (size : Nat) (cs : List Char) : Option (Clock × Bool) := do
  let (ns, f, more) ← readFields? 3 true size cs
  some (⟨ns.getD 0 0, ns.getD 1 0, ns.getD 2 0, f⟩, more)

def isZoneStart (c : Char) : Bool := c == '+' || c == '-' || c == 'Z'

def Clock.micros (c : Clock) : Int :=
  ((c.hour * 3600 + c.minute * 60 + c.second : Nat) : Int) * microsPerSecond + c.microsecond

/-- The offset that a zone names. It is less than a day, and below a second it is none. -/
def readZone? (cs : List Char) : Option Int :=
  match cs with
  | 'Z' :: rest => if rest.isEmpty then some 0 else none
  | sign :: rest => do
    let (clock, more) ← readClock? (byteSize rest) rest
    if more then none
    else
      let micros := if sign = '-' then -clock.micros else clock.micros
      if micros.natAbs < 1000000 then some 0
      else if micros.natAbs < 86400000000 then some micros
      else none
  | [] => none

def readTime? (date : Date) (cs : List Char) : Option DateTime := do
  let zone := match cs with
    | [] => []
    | c :: rest => if isZoneStart c then cs else rest.dropWhile (!isZoneStart ·)
  let (clock, more) ← readClock? (byteSize cs - byteSize zone) cs
  let offset ← if zone.isEmpty then (if more then none else some none)
    else (readZone? zone).map some
  (DateTime.of? date.year date.month date.day clock.hour clock.minute clock.second
    clock.microsecond offset).toOption

def read? (cs : List Char) : Option DateTime := do
  if cs.length < 7 then none
  else
    let size ← dateLength? cs
    let date ← readDate? (cs.take size)
    if cs.length ≤ size + 1 then
      if cs.length = size then some ⟨date, 0, 0, 0, 0, none⟩ else none
    else readTime? date (cs.drop (size + 1))

end Localization.Calendar.Iso
