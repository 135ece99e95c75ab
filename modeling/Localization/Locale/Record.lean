import Localization.Calendar.DateTime
import Localization.Locale.Conventions

/-! # Records of conventions

The conventions of a locale can be given by tables: marks and affixes, units for large
numbers with one of their own for the plural form `few`, patterns and names for dates, and
texts between the items of lists.
-/
namespace Localization.Locale

open Calendar Number Text

inductive RecordForm where
  | whole
  | scaled (digits : Nat) (unit few : String)

structure RecordRow where
  exponent : Nat
  form : RecordForm

inductive DatePart where
  | day
  | paddedDay
  | month
  | paddedMonth
  | shortMonth
  | longMonth
  | year
  | shortYear
  | weekday
  | text (s : String)

/-- What stands between the items of a list. -/
structure RecordJoints where
  start : Option String
  middle : Option String
  last : Option String
  pair : Option String

/-- Numbers have a fraction of at most three digits, percentages have none, and short forms are
for numbers of a usual size. Weekdays begin with Monday. -/
structure Record where
  decimalPoint : String
  groupMark : String
  grouping : Grouping
  percentSign : String
  currency : Affixes
  negativeCurrency : Affixes
  compact : List RecordRow
  shortDate : List DatePart
  mediumDate : List DatePart
  longDate : List DatePart
  fullDate : List DatePart
  months : List String
  shortMonths : List String
  weekdays : List String
  conjunction : RecordJoints
  disjunction : RecordJoints
  unit : RecordJoints
  symbols : List (String × String)

/-- Whether a reduced number is a whole number whose last two digits make 3 to 10. -/
def isFew : Decimal → Bool
  | .finite _ n e =>
    let (num, den) := if 0 ≤ e then (n * tenTo (min e.toNat 2), 1) else (n, tenTo (-e).toNat)
    num % den == 0 && 3 ≤ num / den % 100 && num / den % 100 ≤ 10
  | _ => false

def RecordRow.row (row : RecordRow) : CompactRow where
  exponent := row.exponent
  form := match row.form with
    | .whole => .whole
    | .scaled digits unit few => .scaled digits fun d =>
      let unit := if isFew d then few else unit
      ⟨⟨"", unit⟩, ⟨"-", unit⟩, digits⟩

def RecordJoints.joints (j : RecordJoints) : Joints :=
  let join (between : String) : Joint := fun first second => first ++ between ++ second
  ⟨j.start.map join, j.middle.map join, j.last.map join, j.pair.map join⟩

namespace Record

def pattern (r : Record) : DateStyle → List DatePart
  | .short => r.shortDate
  | .medium => r.mediumDate
  | .long => r.longDate
  | .full => r.fullDate

def partText (r : Record) (d : Date) : DatePart → List Char
  | .day => decimalDigits d.day
  | .paddedDay => padded 2 d.day
  | .month => decimalDigits d.month
  | .paddedMonth => padded 2 d.month
  | .shortMonth => (r.shortMonths.getD (d.month - 1) "").toList
  | .longMonth => (r.months.getD (d.month - 1) "").toList
  | .year => decimalDigits d.year
  | .shortYear => padded 2 (d.year % 100)
  | .weekday => (r.weekdays.getD d.weekday "").toList
  | .text s => s.toList

def conventions (r : Record) (name : String)
    (moderate : ∀ row ∈ r.compact.map RecordRow.row, row.Moderate 3) : Conventions where
  name
  decimalPoint := r.decimalPoint
  groupMark := r.groupMark
  infinity := "∞"
  decimal := ⟨⟨"", ""⟩, ⟨"-", ""⟩, some r.grouping, 1, 0, 3, by decide⟩
  percent :=
    .whole ⟨"", r.percentSign⟩ ⟨"-", r.percentSign⟩ (some r.grouping) 1
  currency := ⟨r.currency, r.negativeCurrency, some r.grouping, 1, 2, 2, by decide⟩
  compact := r.compact.map RecordRow.row
  symbol code := (r.symbols.lookup code).getD code
  date style d := String.ofList ((r.pattern style).flatMap (r.partText d))
  joints
    | .conjunction => some r.conjunction.joints
    | .disjunction => some r.disjunction.joints
    | .unit => some r.unit.joints
  free := rfl
  moderate

end Record

end Localization.Locale
