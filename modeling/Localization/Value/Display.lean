import Localization.Text.Quoted
import Localization.Value.Basic

/-! # Values as text

The plain form of a text is the text itself. Within sequences and maps, texts are quoted
and dates show how they are built. An integer of too many digits is not written, and neither
are parts that are nested too deep.
-/
namespace Localization

open Text Calendar

def commaList (parts : List String) : String := String.intercalate ", " parts

/-- An amount of time as whole days, seconds and microseconds, the days alone negative. -/
def spanText (micros : Int) : String :=
  let days := Int.fdiv micros 86400000000
  let rest := Int.fmod micros 86400000000
  let parts := [("days", days), ("seconds", rest / 1000000), ("microseconds", rest % 1000000)].filter
    (·.2 != 0)
  "datetime.timedelta(" ++
    (if parts.isEmpty then "0" else commaList (parts.map fun (name, n) => name ++ "=" ++ toString n)) ++
    ")"

def zoneText (offset : Int) : String :=
  if offset = 0 then "datetime.timezone.utc" else "datetime.timezone(" ++ spanText offset ++ ")"

def dateText (d : Date) : String :=
  "datetime.date(" ++ commaList ([d.year, d.month, d.day].map toString) ++ ")"

def momentText (t : DateTime) : String :=
  let clock := [t.hour, t.minute] ++
    (if t.microsecond != 0 then [t.second, t.microsecond]
      else if t.second != 0 then [t.second] else [])
  let fields := ([t.date.year, t.date.month, t.date.day] ++ clock).map toString
  let zone := match t.offset with
    | some offset => ["tzinfo=" ++ zoneText offset]
    | none => []
  "datetime.datetime(" ++ commaList (fields ++ zone) ++ ")"

namespace Value

def quotedScalar : Value → String
  | null => "None"
  | bool b => if b then "True" else "False"
  | int n => toString n
  | float x => String.ofList x.text
  | decimal d => "Decimal('" ++ String.ofList d.text ++ "')"
  | text s => quoteString s
  | octets bytes => String.ofList (quoteOctets bytes)
  | date d => dateText d
  | moment t => momentText t
  | _ => ""

mutual

def quoted : Value → String
  | list items => "[" ++ commaList (quotedItems items) ++ "]"
  | tuple items =>
    match quotedItems items with
    | [one] => "(" ++ one ++ ",)"
    | parts => "(" ++ commaList parts ++ ")"
  | map entries => "\x7b" ++ commaList (quotedEntries entries) ++ "\x7d"
  | scalar => quotedScalar scalar

def quotedItems : List Value → List String
  | [] => []
  | item :: rest => quoted item :: quotedItems rest

def quotedEntries : List (Value × Value) → List String
  | [] => []
  | (key, value) :: rest => (quoted key ++ ": " ++ quoted value) :: quotedEntries rest

end

/-- The plain text of a value, however long and deep. -/
def display : Value → String
  | text s => s
  | decimal d => String.ofList d.text
  | date d => String.ofList d.isoText
  | moment t => String.ofList (t.isoText ' ')
  | other => other.quoted

/-- Why a value has no text. -/
inductive Obstacle where
  | digits
  | nesting
  deriving DecidableEq, Repr

def isLongInteger : Value → Bool
  | int n => Number.tenTo maxWholeDigits ≤ n.natAbs
  | _ => false

mutual

/-- What a value meets first when it is quoted, with room for so much nesting. -/
def obstacle? : Value → Nat → Option Obstacle
  | list items, room => itemObstacle? items room
  | tuple items, room => itemObstacle? items room
  | map entries, room => entryObstacle? entries room
  | scalar, _ => if isLongInteger scalar then some .digits else none

def itemObstacle? : List Value → Nat → Option Obstacle
  | [], _ => none
  | _ :: _, 0 => some .nesting
  | item :: rest, room + 1 => (obstacle? item room).or (itemObstacle? rest (room + 1))

def entryObstacle? : List (Value × Value) → Nat → Option Obstacle
  | [], _ => none
  | _ :: _, 0 => some .nesting
  | (key, value) :: rest, room + 1 =>
    (obstacle? key room).or ((obstacle? value room).or (entryObstacle? rest (room + 1)))

end

end Value

end Localization
