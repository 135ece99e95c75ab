import Localization.Text.Split
import Localization.Yaml.Token.Stream

/-! # Nodes

A document is a tree of scalars, sequences and mappings, each with a tag. A node may have an
anchor, and an alias stands for the node of an anchor before it. A plain scalar without a
tag takes one from the form of its text.
-/
namespace Localization.Yaml

inductive Tag where
  | text
  | null
  | boolean
  | integer
  | real
  | timestamp
  | binary
  | sequence
  | mapping
  | set
  | ordered
  | pairs
  | merge
  | value
  | unknown
  deriving DecidableEq, Repr

inductive Node where
  | scalar (tag : Tag) (text : List Char)
  | sequence (tag : Tag) (items : List Node)
  | mapping (tag : Tag) (entries : List (Node × Node))
  | anchored (name : List Char) (node : Node)
  | alias (name : List Char)
  deriving Inhabited

def standardTags : String := "tag:yaml.org,2002:"

def Tag.ofAddress (address : List Char) : Tag :=
  let base := standardTags.toList
  if base.isPrefixOf address then
    match String.ofList (address.drop base.length) with
    | "str" => text
    | "null" => null
    | "bool" => boolean
    | "int" => integer
    | "float" => real
    | "timestamp" => timestamp
    | "binary" => binary
    | "seq" => sequence
    | "map" => mapping
    | "set" => set
    | "omap" => ordered
    | "pairs" => pairs
    | "merge" => merge
    | "value" => value
    | _ => unknown
  else unknown

def booleanWords : List String :=
  ["yes", "Yes", "YES", "no", "No", "NO", "true", "True", "TRUE", "false", "False", "FALSE",
   "on", "On", "ON", "off", "Off", "OFF"]

def nullWords : List String := ["", "~", "null", "Null", "NULL"]

def dropSign : List Char → List Char
  | '+' :: rest => rest
  | '-' :: rest => rest
  | cs => cs

def isDigitOrUnderscore (c : Char) : Bool := c.isDigit || c == '_'

def isExponent : List Char → Bool
  | [] => true
  | e :: sign :: digits =>
    (e == 'e' || e == 'E') && (sign == '+' || sign == '-') && !digits.isEmpty &&
      digits.all Char.isDigit
  | _ => false

/-- Whether a text is a part of a number in base sixty. -/
def isSexagesimalPart : List Char → Bool
  | [d] => d.isDigit
  | [t, d] => '0' ≤ t && t ≤ '5' && d.isDigit
  | _ => false

def isDigits : List Char → Bool
  | d :: rest => d.isDigit && rest.all isDigitOrUnderscore
  | [] => false

/-- Whether a text is parts of base sixty after a first one that begins with a class. -/
def isSexagesimal (first : Char → Bool) (cs : List Char) : Bool :=
  match Text.splitAt ':' cs with
  | lead :: part :: parts =>
    isDigits lead && lead.head?.any first && (part :: parts).all isSexagesimalPart
  | _ => false

def isIntegerText (cs : List Char) : Bool :=
  let digits := dropSign cs
  match digits with
  | '0' :: 'b' :: rest => !rest.isEmpty && rest.all fun c => c == '0' || c == '1' || c == '_'
  | '0' :: 'x' :: rest => !rest.isEmpty && rest.all fun c => isHex c || c == '_'
  | ['0'] => true
  | '0' :: rest => rest.all fun c => ('0' ≤ c && c ≤ '7') || c == '_'
  | _ => isDigits digits || isSexagesimal (· != '0') digits

/-- Whether a text is digits around a point with an exponent after them. -/
def isPointed (cs : List Char) : Bool :=
  let whole := cs.takeWhile isDigitOrUnderscore
  match cs.drop whole.length with
  | '.' :: rest => isDigits whole && isExponent (rest.dropWhile isDigitOrUnderscore)
  | _ => false

/-- Whether a text is a number in base sixty with a point after it. -/
def isSexagesimalReal (cs : List Char) : Bool :=
  let whole := cs.takeWhile (· != '.')
  match cs.drop whole.length with
  | '.' :: rest => isSexagesimal (fun _ => true) whole && rest.all isDigitOrUnderscore
  | _ => false

def isRealText (cs : List Char) : Bool :=
  let digits := dropSign cs
  isPointed digits || isSexagesimalReal digits ||
    [".inf", ".Inf", ".INF"].contains (String.ofList digits) ||
    [".nan", ".NaN", ".NAN"].contains (String.ofList cs) ||
    (match cs with
      | '.' :: rest => isDigits (rest.takeWhile isDigitOrUnderscore) &&
        isExponent (rest.dropWhile isDigitOrUnderscore)
      | _ => false)

def readDigits? (least most : Nat) (cs : List Char) : Option (List Char × List Char) :=
  let digits := (cs.takeWhile Char.isDigit).take most
  if digits.length < least then none else some (digits, cs.drop digits.length)

def readChar? (ch : Char) : List Char → Option (List Char)
  | c :: rest => if c == ch then some rest else none
  | [] => none

/-- The fields of a timestamp in digits; the zone is a sign with hours and minutes. -/
structure Stamp where
  year : List Char
  month : List Char
  day : List Char
  clock : Option (List Char × List Char × List Char × List Char)
  zone : Option (Char × List Char × List Char)

def readZone? (cs : List Char) : Option (Option (Char × List Char × List Char)) :=
  match cs.dropWhile isSpaceOrTab with
  | [] => if cs.isEmpty then some none else none
  | ['Z'] => some (some ('Z', [], []))
  | sign :: rest =>
    if sign == '+' || sign == '-' then do
      let (hour, rest) ← readDigits? 1 2 rest
      match rest with
      | [] => some (some (sign, hour, []))
      | ':' :: rest =>
        let (minute, rest) ← readDigits? 2 2 rest
        if rest.isEmpty then some (some (sign, hour, minute)) else none
      | _ => none
    else none

/-- A time of day after a `T` or blanks. -/
def readStampClock? (cs : List Char) :
    Option ((List Char × List Char × List Char × List Char) ×
      Option (Char × List Char × List Char)) := do
  let rest ← match cs with
    | c :: more =>
      if c == 'T' || c == 't' then some more
      else if isSpaceOrTab c then some (more.dropWhile isSpaceOrTab)
      else none
    | [] => none
  let (hour, rest) ← readDigits? 1 2 rest
  let (minute, rest) ← readDigits? 2 2 (← readChar? ':' rest)
  let (second, rest) ← readDigits? 2 2 (← readChar? ':' rest)
  let fraction := match rest with
    | '.' :: more => more.takeWhile Char.isDigit
    | _ => []
  let rest := match rest with
    | '.' :: more => more.dropWhile Char.isDigit
    | other => other
  let zone ← readZone? rest
  some ((hour, minute, second, fraction), zone)

/-- A timestamp: a date, or a date and a time of day with or without a zone. -/
def readStamp? (cs : List Char) : Option Stamp := do
  let (year, rest) ← readDigits? 4 4 cs
  let (month, rest) ← readDigits? 1 2 (← readChar? '-' rest)
  let (day, rest) ← readDigits? 1 2 (← readChar? '-' rest)
  if rest.isEmpty then some ⟨year, month, day, none, none⟩
  else
    let (clock, zone) ← readStampClock? rest
    some ⟨year, month, day, some clock, zone⟩

/-- Whether a plain text is a timestamp. A date alone has two digits for month and day. -/
def isStampText (cs : List Char) : Bool :=
  match readStamp? cs with
  | some stamp => stamp.clock.isSome || (stamp.month.length == 2 && stamp.day.length == 2)
  | none => false

/-- A text without the line feed at its end, unless that is all of it. -/
def dropFinalBreak (cs : List Char) : List Char :=
  if cs.getLast? == some '\n' && cs != ['\n'] then cs.dropLast else cs

def tagOfText (text : List Char) : Tag :=
  let cs := dropFinalBreak text
  let s := String.ofList cs
  if booleanWords.contains s then .boolean
  else if isRealText cs then .real
  else if isIntegerText cs then .integer
  else if s == "<<" then .merge
  else if nullWords.contains s then .null
  else if isStampText cs then .timestamp
  else if s == "=" then .value
  else .text

end Localization.Yaml
