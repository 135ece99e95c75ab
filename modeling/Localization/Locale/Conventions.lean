import Localization.Calendar.Date
import Localization.Number.Decimal

/-! # Formatting conventions

What a locale lays down for the written form of numbers, amounts of money, dates and lists.
Where these conventions come from is left open: formats take them from whatever data of
locales they are given.
-/
namespace Localization.Locale

open Calendar Number

/-- The text around a number. The currency sign in it stands for the symbol of a currency. -/
structure Affixes where
  before : String
  after : String

/-- How many digits of the whole part make the last group, and each group before it. -/
structure Grouping where
  last : Nat
  others : Nat

/-- What surrounds a number by its sign, how its digits are set apart, and how many of them
the whole part and the fraction have at least and at most. -/
structure NumberPattern where
  positive : Affixes
  negative : Affixes
  grouping : Option Grouping
  minWhole : Nat
  minFraction : Nat
  maxFraction : Nat
  few : maxFraction ≤ 100

/-- A number without digits of a fraction. -/
def NumberPattern.whole (positive negative : Affixes) (grouping : Option Grouping)
    (minWhole : Nat) : NumberPattern :=
  ⟨positive, negative, grouping, minWhole, 0, 0, Nat.zero_le _⟩

/-- What surrounds a reduced number, and how many digits it has at least. -/
structure CompactPattern where
  positive : Affixes
  negative : Affixes
  minWhole : Nat

/-- A short form for large numbers: the number as it is, or reduced so that those of the least
size have so many whole digits, with a pattern for the reduced number. -/
inductive CompactForm where
  | whole
  | scaled (digits : Nat) (pattern : Decimal → CompactPattern)

/-- A short form and the power of ten from which on it is used. -/
structure CompactRow where
  exponent : Nat
  form : CompactForm

namespace CompactRow

/-- The digits after the point, or the digits left out before it, in the short form of a row. -/
def places (row : CompactRow) : Int :=
  match row.form with
  | .whole => 0
  | .scaled digits _ => digits - 1 - row.exponent

/-- A row for numbers of a usual size, which leaves so many digits of a fraction in sight below
it and never adds to the digits of a number. -/
def Moderate (fraction : Nat) (row : CompactRow) : Prop :=
  row.exponent + fraction ≤ 28 ∧ row.places ≤ 0

instance (fraction : Nat) (row : CompactRow) : Decidable (row.Moderate fraction) :=
  inferInstanceAs (Decidable (_ ∧ _))

end CompactRow

inductive DateStyle where
  | short
  | medium
  | long
  | full
  deriving DecidableEq, Repr

inductive ListStyle where
  | conjunction
  | disjunction
  | unit
  deriving DecidableEq, Repr

/-- How an item is put behind a text. -/
abbrev Joint := String → String → String

/-- The joints of a list: for the first two items, those in the middle, the last one, and two
alone. A locale may lack some. -/
structure Joints where
  start : Option Joint
  middle : Option Joint
  last : Option Joint
  pair : Option Joint

/-- The rows of `compact` are in descending order. -/
structure Conventions where
  name : String
  decimalPoint : String
  groupMark : String
  infinity : String
  decimal : NumberPattern
  percent : NumberPattern
  currency : NumberPattern
  compact : List CompactRow
  symbol : String → String
  date : DateStyle → Date → String
  joints : ListStyle → Option Joints
  /-- A whole number has no fraction. -/
  free : decimal.minFraction = 0
  moderate : ∀ row ∈ compact, row.Moderate decimal.maxFraction

/-- The data of locales. A locale is looked up without blanks around its code and with
underscores in it, and an amount in a currency has so many digits after the point. -/
class Data where
  named? : List Char → Option Conventions
  currencyDigits : String → Nat
  /-- English is among the locales. -/
  named_english : (named? "en".toList).isSome
  currencyDigits_le (code : String) : currencyDigits code ≤ 100

def Data.english [Data] : Conventions := (named? "en".toList).get named_english

end Localization.Locale
