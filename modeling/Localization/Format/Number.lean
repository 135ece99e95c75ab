import Localization.Format.Locale
import Localization.Number.Shortest

/-! # Numbers in a locale

A number is rounded to the digits of its form, a tie to the even digit, its whole part is
set apart in groups, and affixes are put around it by its sign. An infinity shows its sign
of its own; what is not a number shows its name in place of the whole part.
-/
namespace Localization.Format

open Number Text Localization.Locale

/-- A pattern, whether it limits the digits of a fraction, and the power of ten by which a number
is shown. A form without a limit keeps all digits of the fraction. -/
structure NumberForm extends NumberPattern where
  limited : Bool
  scale : Int

/-- Digits from the last to the first, cut after every `size`. -/
def groupsFrom (size : Nat) : Nat → List Char → List (List Char)
  | 0, cs => [cs]
  | fuel + 1, cs =>
    if cs.length ≤ size then [cs] else cs.take size :: groupsFrom size fuel (cs.drop size)

/-- The groups of a whole part, the last group first, each from its last digit on. -/
def groups (grouping : Grouping) (reversed : List Char) : List (List Char) :=
  if reversed.length ≤ grouping.last then [reversed]
  else
    reversed.take grouping.last ::
      groupsFrom grouping.others reversed.length (reversed.drop grouping.last)

/-- The whole part with its groups set apart. -/
def groupDigits (grouping : Option Grouping) (mark : List Char) (digits : List Char) :
    List Char :=
  match grouping with
  | none => digits
  | some grouping =>
    joinWith mark ((groups grouping digits.reverse).reverse.map List.reverse)

/-- Drops the zeros at the end of a text down to a least length. -/
def stripFraction (least : Nat) (digits : List Char) : List Char :=
  digits.take least ++ dropRightWhile (· == '0') (digits.drop least)

/-- The fraction with its point, or nothing. A form that can do without a fraction reads it
as a number to see whether it is zero. -/
def fractionText (form : NumberForm) (maxFraction : Nat) (point digits : List Char) :
    Except ArithmeticFault (List Char) :=
  let digits := if digits.isEmpty then ['0'] else digits
  let padded := digits ++ List.replicate (form.minFraction - digits.length) '0'
  if maxFraction = 0 then .ok []
  else if form.minFraction = 0 && maxWholeDigits < padded.length then
    .error (.digits padded.length)
  else if form.minFraction = 0 && padded.all (· == '0') then .ok []
  else .ok (point ++ stripFraction form.minFraction padded)

def wholeText (form : NumberForm) (mark digits : List Char) : List Char :=
  groupDigits form.grouping mark
    (List.replicate (form.minWhole - digits.length) '0' ++ digits)

def digitsText (form : NumberForm) (conventions : Conventions) (d : Decimal) :
    Except ArithmeticFault (List Char) :=
  let mark := conventions.groupMark.toList
  let point := conventions.decimalPoint.toList
  match d with
  | .infinite _ => .ok conventions.infinity.toList
  | .nan .. =>
    (fractionText form form.maxFraction point []).map (wholeText form mark d.text ++ ·)
  | .finite _ n e =>
    let places := if form.limited then form.maxFraction else max form.maxFraction (-e).toNat
    match Decimal.quantize n e (-places) with
    | .error fault => .error fault
    | .ok q =>
      let (whole, fraction) := Decimal.fixedText q (-places)
      (fractionText form places point fraction).map (wholeText form mark whole ++ ·)

def NumberForm.apply (form : NumberForm) (conventions : Conventions) (d : Decimal) :
    Except ArithmeticFault (List Char) :=
  match d.shift form.scale with
  | .error fault => .error fault
  | .ok shifted =>
    match shifted.magnitude with
    | .error fault => .error fault
    | .ok magnitude =>
      match digitsText form conventions magnitude with
      | .error fault => .error fault
      | .ok digits =>
        let affixes := if shifted.isNegative then form.negative else form.positive
        .ok (affixes.before.toList ++ digits ++ affixes.after.toList)

def decimalForm (conventions : Conventions) : NumberForm := ⟨conventions.decimal, true, 0⟩

/-- Whole numbers are set apart in threes everywhere. -/
def integerForm : NumberForm :=
  ⟨.whole ⟨"", ""⟩ ⟨"-", ""⟩ (some ⟨3, 3⟩) 1, true, 0⟩

def percentForm (conventions : Conventions) : NumberForm := ⟨conventions.percent, true, 2⟩

/-- An affix with the symbol of a currency in place of the currency sign. -/
def withSymbol (symbol affix : String) : String :=
  String.ofList (affix.toList.flatMap fun c => if c = '¤' then symbol.toList else [c])

def Affixes.withSymbol (symbol : String) (affixes : Affixes) : Affixes :=
  ⟨Format.withSymbol symbol affixes.before, Format.withSymbol symbol affixes.after⟩

variable [Data]

/-- An amount has the digits of its currency, whatever its pattern says. -/
def currencyForm (conventions : Conventions) (code : String) : NumberForm :=
  let symbol := conventions.symbol code
  let digits := Data.currencyDigits code
  ⟨⟨Affixes.withSymbol symbol conventions.currency.positive,
      Affixes.withSymbol symbol conventions.currency.negative, conventions.currency.grouping,
      conventions.currency.minWhole, digits, digits, Data.currencyDigits_le code⟩, true, 0⟩

/-- Short forms do not set digits apart. -/
def compactForm (pattern : CompactPattern) : NumberForm :=
  ⟨.whole pattern.positive pattern.negative none pattern.minWhole, false, 0⟩

/-- A number in the short form of the largest row that it reaches. -/
def compact (conventions : Conventions) (d : Decimal) : Except ArithmeticFault (List Char) :=
  let plain := { decimalForm conventions with limited := false }
  match d with
  | .finite negative n e =>
    match d.magnitude with
    | .error fault => .error fault
    | .ok _ =>
      match conventions.compact.find? fun row => d.atLeast (tenTo row.exponent) with
      | none => plain.apply conventions d
      | some ⟨_, .whole⟩ =>
        (compactForm ⟨⟨"", ""⟩, ⟨"-", ""⟩, 1⟩).apply conventions d
      | some ⟨exponent, .scaled digits pattern⟩ =>
        match Decimal.divide n e (exponent + 1 - digits) with
        | .error fault => .error fault
        | .ok (c, f) =>
          match Decimal.quantize c f 0 with
          | .error fault => .error fault
          | .ok q =>
            (compactForm (pattern (.finite negative c f))).apply conventions
              (.finite negative q 0)
  | other => plain.apply conventions other

inductive NumberStyle where
  | decimal
  | percent
  | integer
  | compact
  deriving DecidableEq, Repr

def NumberStyle.ofName? : String → Option NumberStyle
  | "decimal" => some .decimal
  | "percent" => some .percent
  | "integer" => some .integer
  | "compact" => some .compact
  | _ => none

def NumberStyle.apply (style : NumberStyle) (conventions : Conventions) (d : Decimal) :
    Except ArithmeticFault (List Char) :=
  match style with
  | decimal => (decimalForm conventions).apply conventions d
  | percent => (percentForm conventions).apply conventions d
  | integer => integerForm.apply conventions d
  | compact => Format.compact conventions d

def numberOf? : Value → Option Decimal
  | .int n => some (.ofInt n)
  | .float x => some x.toDecimal
  | .decimal d => some d
  | .text s => Decimal.ofText? s.toList
  | _ => none

def styleOr {α : Type} (event : String) (read : String → Option α) (name : String) (shown : Value)
    (fallback : α) : Traced α :=
  match read name with
  | some style => pure style
  | none => do
    warn event [("style", shown)]
    pure fallback

/-- The result of formatting a number, which goes through its own text. -/
def finishNumber (value : Value) (result : Except ArithmeticFault (List Char)) : Attempt String :=
  if value.isLongInteger then throw (.unwritten .digits)
  else
    match result with
    | .ok cs => pure (String.ofList cs)
    | .error fault => throw (.arithmetic fault)

variable [Stack]

/-- A value that is not of the kind of a format is reported and shown as it is. -/
def misfit (event : String) (value : Value) (locale : Option String) : Attempt String := do
  let text ← Attempt.ofExcept value.shown
  liftM (warn event [("value", .text text), ("locale", optionalText locale)])
  pure text

def number (value : Value) (locale style : Option String) : Attempt String :=
  match numberOf? value with
  | none => misfit "invalid_number_value" value locale
  | some d => do
    let conventions ← liftM (conventionsFor locale)
    let name := styleName (orDefault style "decimal")
    let style ← liftM (styleOr "unknown_number_style" NumberStyle.ofName? name (.text name) .decimal)
    finishNumber value (style.apply conventions d)

def defaultCurrency : String := "USD"

def isCurrencyCode (cs : List Char) : Bool := cs.length == 3 && cs.all Char.isUpper

/-- The code of a currency; another text is reported and means the default. -/
def currencyCode (currency : Option String) : Traced String :=
  let code := Text.upper (Text.trim (orDefault currency defaultCurrency).toList)
  if isCurrencyCode code then pure (String.ofList code)
  else do
    warn "invalid_currency_code"
      [("currency", optionalText currency), ("fallback_currency", .text defaultCurrency)]
    pure defaultCurrency

def currency (value : Value) (locale code : Option String) : Attempt String :=
  match numberOf? value with
  | none => misfit "invalid_number_value" value locale
  | some d => do
    let code ← liftM (currencyCode code)
    let conventions ← liftM (conventionsFor locale)
    finishNumber value ((currencyForm conventions code).apply conventions d)

end Localization.Format
