import Localization.Locale.Code
import Localization.Plural.Category
import Localization.Trace

/-! # Plural rules

Each family of languages chooses the category of a count by one rule. A language that has
no family is reported and follows the family of English.
-/
namespace Localization.Plural

inductive Family where
  | oneOther
  | zeroOneOther
  | otherOnly
  | polish
  | eastSlavic
  | czech
  | arabic
  deriving DecidableEq, Repr

def Family.name : Family → String
  | oneOther => "one_other"
  | zeroOneOther => "zero_one_other"
  | otherOnly => "other_only"
  | polish => "polish"
  | eastSlavic => "east_slavic"
  | czech => "czech"
  | arabic => "arabic"

/-- Whether a number ends in 2, 3 or 4, the numbers that end in 12, 13 or 14 aside. -/
def endsInFew (n : Nat) : Bool :=
  2 ≤ n % 10 && n % 10 ≤ 4 && !(12 ≤ n % 100 && n % 100 ≤ 14)

def polishRule (n : Nat) : Category :=
  if n = 1 then .one else if endsInFew n then .few else .many

def eastSlavicRule (n : Nat) : Category :=
  if n % 10 = 1 && n % 100 ≠ 11 then .one else if endsInFew n then .few else .many

def czechRule (n : Nat) : Category :=
  if n = 1 then .one else if 2 ≤ n && n ≤ 4 then .few else .other

def arabicRule (n : Nat) : Category :=
  if n = 0 then .zero
  else if n = 1 then .one
  else if n = 2 then .two
  else if 3 ≤ n % 100 && n % 100 ≤ 10 then .few
  else if 11 ≤ n % 100 && n % 100 ≤ 99 then .many
  else .other

def byMagnitude (rule : Nat → Category) (uncounted : Category) (count : Count) : Category :=
  match count.magnitude? with
  | some n => rule n
  | none => uncounted

/-- The category of a count. The family with one and other compares the count itself with
one; the other families go by its magnitude. -/
def Family.category : Family → Count → Category
  | oneOther, count => if count.isOne then .one else .other
  | zeroOneOther, count => byMagnitude (fun n => if n ≤ 1 then .one else .other) .other count
  | otherOnly, _ => .other
  | polish, count => byMagnitude polishRule .other count
  | eastSlavic, count => byMagnitude eastSlavicRule .other count
  | czech, count => byMagnitude czechRule .many count
  | arabic, count => byMagnitude arabicRule .other count

def languagesOf : Family → List String
  | .oneOther =>
    ["en", "de", "nl", "sv", "da", "nb", "nn", "no", "fi", "et", "it", "es", "el", "hu", "tr",
     "bg", "ca"]
  | .zeroOneOther => ["fr", "pt"]
  | .otherOnly => ["ja", "zh", "ko", "vi", "th", "id"]
  | .polish => ["pl"]
  | .eastSlavic => ["ru", "uk", "be"]
  | .czech => ["cs", "sk"]
  | .arabic => ["ar"]

def Family.all : List Family :=
  [oneOther, zeroOneOther, otherOnly, polish, eastSlavic, czech, arabic]

def familyOfLanguage? (language : String) : Option Family :=
  Family.all.find? fun family => (languagesOf family).contains language

def familyOf? (locale : String) : Option Family := familyOfLanguage? (Locale.languageOf locale)

def defaultFamily : Family := .oneOther

def family (locale : Option String) : Traced Family :=
  match familyOf? (locale.getD "") with
  | some family => pure family
  | none => do
    Traced.log .warning "plurals" "plural_rules_unknown_locale"
      [("locale", optionalText locale), ("fallback_family", .text defaultFamily.name)]
    pure defaultFamily

def category (locale : Option String) (count : Count) : Traced Category := do
  return (← family locale).category count

/-- Why a family cannot place a value. A decimal number without a whole part has no
magnitude, and a signaling one cannot even be compared with one. -/
def Family.refusal? (family : Family) (value : Value) : Option Failure :=
  match family, value with
  | otherOnly, _ => none
  | oneOther, .decimal (.nan _ true _) => some (.arithmetic .invalid)
  | oneOther, _ => none
  | _, .decimal (.nan ..) => some .undefinedCount
  | _, .decimal (.infinite _) => some .infiniteCount
  | _, _ => none

def categoryOfValue (locale : Option String) (value : Value) : Attempt Category := do
  let family ← liftM (family locale)
  match family.refusal? value with
  | some failure => throw failure
  | none => pure (family.category ((Count.ofValue? value).getD .uncounted))

end Localization.Plural
