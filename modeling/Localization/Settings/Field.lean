import Localization.Json.Reader
import Localization.Settings.Issue
import Localization.Text.Split
import Localization.Text.Table

/-! # Fields of settings

A field takes its value from the arguments or else from the environment, under its full
name or else under its short one. Values are read leniently: a switch may be a word or a
number, a whole number may be written as text or as a number without a fraction.
-/
namespace Localization.Settings

open Number Text

/-- Where settings come from. -/
structure Sources where
  arguments : Table Value
  environment : Table String

structure Names where
  full : String
  short : String

/-- A value with the name it came under. -/
structure Found where
  key : String
  value : Value

def Names.lookup? {α : Type} (names : Names) (table : Table α) : Option (String × α) :=
  match table.get? names.full with
  | some value => some (names.full, value)
  | none => (table.get? names.short).map fun value => (names.short, value)

def Sources.fromArguments? (sources : Sources) (names : Names) : Option Found :=
  (names.lookup? sources.arguments).map fun (key, value) => ⟨key, value⟩

def Sources.fromEnvironment? (sources : Sources) (names : Names) : Option (String × String) :=
  names.lookup? sources.environment

/-- The value of a field whose variable holds plain text. -/
def Sources.find? (sources : Sources) (names : Names) : Option Found :=
  match sources.fromArguments? names with
  | some found => some found
  | none => (sources.fromEnvironment? names).map fun (key, s) => ⟨key, .text s⟩

/-- The value of a field whose variable holds JSON. A variable that cannot be read is
refused even when an argument takes its place; a null counts as no variable. -/
def Sources.findJson? (sources : Sources) (names : Names) : Except Rejection (Option Found) :=
  match sources.fromEnvironment? names with
  | none => .ok (sources.fromArguments? names)
  | some (key, s) =>
    match Json.read? s with
    | none => .error (.unreadable names.short)
    | some value =>
      match sources.fromArguments? names, value with
      | some found, _ => .ok (some found)
      | none, .null => .ok none
      | none, value => .ok (some ⟨key, value⟩)

def read {α : Type} (found : Option Found) (default : α) (convert : Value → Except (List Issue) α) :
    Except (List Issue) α :=
  match found with
  | none => .ok default
  | some ⟨key, value⟩ => (convert value).mapError (List.map (Issue.within key))

def refuse {α : Type} (cause : Cause) : Except (List Issue) α := .error [⟨[], cause⟩]

def issuesOf {α : Type} : Except (List Issue) α → List Issue
  | .ok _ => []
  | .error issues => issues

def textOf : Value → Except (List Issue) String
  | .text s => .ok s
  | _ => refuse .notText

def optionalTextOf : Value → Except (List Issue) (Option String)
  | .null => .ok none
  | value => (textOf value).map some

def itemsFrom (index : Nat) : List Value → Except (List Issue) (List String)
  | [] => .ok []
  | item :: rest =>
    match (textOf item).mapError (List.map (Issue.within (toString index))), itemsFrom (index + 1) rest with
    | .ok s, .ok texts => .ok (s :: texts)
    | first, others => .error (issuesOf first ++ issuesOf others)

def textsOf : Value → Except (List Issue) (List String)
  | .list items => itemsFrom 0 items
  | .tuple items => itemsFrom 0 items
  | _ => refuse .notList

def onWords : List String := ["1", "t", "y", "yes", "on", "true"]
def offWords : List String := ["0", "f", "n", "no", "off", "false"]

/-- Whole numbers of this range stand in a word of sixty-four bits. -/
def isWord (n : Int) : Bool := -(twoTo 63 : Int) ≤ n && n < twoTo 63

def switchOfInt (n : Int) : Except (List Issue) Bool :=
  if n = 0 then .ok false
  else if n = 1 then .ok true
  else if isWord n then refuse .unclearSwitch
  else refuse .notSwitch

def wholeOfDecimal? : Decimal → Option Int
  | .finite negative n e =>
    let magnitude? : Option Nat :=
      if n = 0 then some 0
      else if 0 ≤ e then some (n * tenTo e.toNat)
      else if (decimalDigits n).length ≤ (-e).toNat then none
      else if n % tenTo (-e).toNat = 0 then some (n / tenTo (-e).toNat)
      else none
    magnitude?.map fun m => if negative then -(m : Int) else m
  | _ => none

def switchOf : Value → Except (List Issue) Bool
  | .bool b => .ok b
  | .int n => switchOfInt n
  | .float x =>
    match if x.isIntegral then x.truncate? else none with
    | some n => switchOfInt n
    | none => refuse .notSwitch
  | .decimal d =>
    match wholeOfDecimal? d with
    | some n => switchOfInt n
    | none => refuse .notSwitch
  | .text s =>
    let word := s.map Char.toLower
    if onWords.contains word then .ok true
    else if offWords.contains word then .ok false
    else refuse .unclearSwitch
  | _ => refuse .notSwitch

/-- Digits with single underscores between them. -/
def groupedDigits? : List Char → Option (List Char)
  | [] => none
  | c :: '_' :: rest => if c.isDigit then (groupedDigits? rest).map (c :: ·) else none
  | [c] => if c.isDigit then some [c] else none
  | c :: rest => if c.isDigit then (groupedDigits? rest).map (c :: ·) else none

def withoutZeros (cs : List Char) : List Char :=
  match cutAt? '.' cs with
  | some (whole, zeros) => if zeros.all (· == '0') then whole else cs
  | none => cs

def magnitudeOf (negative : Bool) (cs : List Char) : Except (List Issue) Int :=
  match groupedDigits? (withoutZeros cs) with
  | none => refuse .unclearWhole
  | some digits =>
    if maxWholeDigits < (digits.dropWhile (· == '0')).length then refuse .tooLong
    else
      let n : Int := ofDigits digits
      .ok (if negative then -n else n)

def wholeOfText (s : String) : Except (List Issue) Int :=
  match trimNumber s.toList with
  | '-' :: rest => magnitudeOf true rest
  | '+' :: rest => magnitudeOf false rest
  | cs => magnitudeOf false cs

def wholeOf : Value → Except (List Issue) Int
  | .bool b => .ok b.toNat
  | .int n => .ok n
  | .float x =>
    match x.truncate? with
    | none => refuse .notFinite
    | some n =>
      if !x.isIntegral then refuse .fractional
      else if -(twoTo 63 : Int) < n ∧ n < twoTo 63 then .ok n
      else refuse .tooLong
  | .decimal d =>
    if !d.isFinite then refuse .notFinite
    else
      match wholeOfDecimal? d with
      | some n => .ok n
      | none => refuse .fractional
  | .text s => wholeOfText s
  | _ => refuse .notWhole

end Localization.Settings
