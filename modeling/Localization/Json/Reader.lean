import Localization.Number.Shortest
import Localization.Value.Basic

/-! # Reading JSON

A JSON text holds one value with blanks around it. Beside the standard numbers the words
`NaN`, `Infinity` and `-Infinity` stand for numbers. A name that comes twice in an object
has its last value. Half of a surrogate pair that stands alone is read as the replacement
character.
-/
namespace Localization.Json

open Number Text

def isSpace (c : Char) : Bool := c == ' ' || c == '\t' || c == '\n' || c == '\r'

def skipSpace (cs : List Char) : List Char := cs.dropWhile isSpace

/-- What follows a word at the start of a text. -/
def afterWord? (word : String) (cs : List Char) : Option (List Char) :=
  if word.toList.isPrefixOf cs then some (cs.drop word.length) else none

def hexDigit? (c : Char) : Option Nat :=
  if c.isDigit then some (c.toNat - '0'.toNat)
  else if 'a' ≤ c ∧ c ≤ 'f' then some (c.toNat - 'a'.toNat + 10)
  else if 'A' ≤ c ∧ c ≤ 'F' then some (c.toNat - 'A'.toNat + 10)
  else none

/-- The number that four hexadecimal digits write. -/
def unit? (a b c d : Char) : Option Nat := do
  let a ← hexDigit? a
  let b ← hexDigit? b
  let c ← hexDigit? c
  let d ← hexDigit? d
  pure (((a * 16 + b) * 16 + c) * 16 + d)

/-- The character that a letter after a backslash stands for. -/
def escaped? : Char → Option Char
  | '"' => some '"'
  | '\\' => some '\\'
  | '/' => some '/'
  | 'b' => some '\x08'
  | 'f' => some '\x0c'
  | 'n' => some '\n'
  | 'r' => some '\r'
  | 't' => some '\t'
  | _ => none

/-- Reads up to and with the closing mark; the text comes as numbers of characters and of
surrogates. -/
def readUnits? : List Char → Option (List Nat × List Char)
  | '"' :: rest => some ([], rest)
  | '\\' :: 'u' :: a :: b :: c :: d :: rest => do
    let unit ← unit? a b c d
    let (units, rest) ← readUnits? rest
    pure (unit :: units, rest)
  | '\\' :: c :: rest => do
    let c ← escaped? c
    let (units, rest) ← readUnits? rest
    pure (c.toNat :: units, rest)
  | c :: rest =>
    if c.toNat < 0x20 then none
    else do
      let (units, rest) ← readUnits? rest
      pure (c.toNat :: units, rest)
  | [] => none

def charOfUnit (n : Nat) : Char := if n.isValidChar then Char.ofNat n else '\uFFFD'

def joinUnits : List Nat → List Char
  | [] => []
  | [n] => [charOfUnit n]
  | high :: low :: rest =>
    if 0xD800 ≤ high ∧ high < 0xDC00 ∧ 0xDC00 ≤ low ∧ low < 0xE000 then
      charOfUnit (0x10000 + (high - 0xD800) * 0x400 + (low - 0xDC00)) :: joinUnits rest
    else charOfUnit high :: joinUnits (low :: rest)

def readText? (cs : List Char) : Option (String × List Char) := do
  let (units, rest) ← readUnits? cs
  pure (String.ofList (joinUnits units), rest)

/-- A whole part without a zero before its first digit. -/
def spanWhole (cs : List Char) : List Char × List Char :=
  match cs with
  | '0' :: rest => (['0'], rest)
  | _ => cs.span Char.isDigit

/-- A point with digits after it. -/
def spanFraction (cs : List Char) : List Char × List Char :=
  match cs with
  | '.' :: rest =>
    match rest.span Char.isDigit with
    | ([], _) => ([], cs)
    | (digits, rest) => ('.' :: digits, rest)
  | _ => ([], cs)

def spanSign : List Char → List Char × List Char
  | '+' :: rest => (['+'], rest)
  | '-' :: rest => (['-'], rest)
  | cs => ([], cs)

def spanExponent (cs : List Char) : List Char × List Char :=
  match cs with
  | c :: rest =>
    if c == 'e' || c == 'E' then
      let (sign, rest) := spanSign rest
      match rest.span Char.isDigit with
      | ([], _) => ([], cs)
      | (digits, rest) => ('e' :: sign ++ digits, rest)
    else ([], cs)
  | [] => ([], cs)

/-- Reads the digits of a number. A fraction or an exponent makes it a floating point
number. -/
def readMagnitude? (negative : Bool) (cs : List Char) : Option (Value × List Char) :=
  let (whole, rest) := spanWhole cs
  if whole.isEmpty then none
  else
    let (fraction, rest) := spanFraction rest
    let (exponent, rest) := spanExponent rest
    if fraction.isEmpty && exponent.isEmpty then
      let n : Int := ofDigits whole
      some (.int (if negative then -n else n), rest)
    else
      let sign := if negative then ['-'] else []
      (Binary64.ofText? (sign ++ whole ++ fraction ++ exponent)).map fun x => (.float x, rest)

def words : List (String × Value) :=
  [("null", .null), ("true", .bool true), ("false", .bool false), ("NaN", .float .nan),
    ("Infinity", .float (.infinite false)), ("-Infinity", .float (.infinite true))]

def readWord? (cs : List Char) : Option (Value × List Char) :=
  words.findSome? fun (word, value) => (afterWord? word cs).map fun rest => (value, rest)

def readScalar? (cs : List Char) : Option (Value × List Char) :=
  match readWord? cs with
  | some found => some found
  | none =>
    match cs with
    | '-' :: rest => readMagnitude? true rest
    | _ => readMagnitude? false cs

mutual

/-- Reads a value. Two steps take at least one character, so twice as many steps as there
are characters suffice. -/
def readValue? (fuel : Nat) (cs : List Char) : Option (Value × List Char) :=
  match fuel with
  | 0 => none
  | fuel + 1 =>
    match cs with
    | '"' :: rest => (readText? rest).map fun (s, rest) => (.text s, rest)
    | '[' :: rest =>
      match skipSpace rest with
      | ']' :: rest => some (.list [], rest)
      | rest => (readItems? fuel rest).map fun (items, rest) => (.list items, rest)
    | '{' :: rest =>
      match skipSpace rest with
      | '}' :: rest => some (.map [], rest)
      | rest => (readMembers? fuel rest).map fun (pairs, rest) => (.map (Entries.ofList pairs), rest)
    | cs => readScalar? cs

def readItems? (fuel : Nat) (cs : List Char) : Option (List Value × List Char) :=
  match fuel with
  | 0 => none
  | fuel + 1 => do
    let (item, rest) ← readValue? fuel cs
    match skipSpace rest with
    | ']' :: rest => pure ([item], rest)
    | ',' :: rest => do
      let (items, rest) ← readItems? fuel (skipSpace rest)
      pure (item :: items, rest)
    | _ => none

def readMembers? (fuel : Nat) (cs : List Char) : Option (Entries × List Char) :=
  match fuel, cs with
  | fuel + 1, '"' :: rest => do
    let (name, rest) ← readText? rest
    match skipSpace rest with
    | ':' :: rest => do
      let (value, rest) ← readValue? fuel (skipSpace rest)
      match skipSpace rest with
      | '}' :: rest => pure ([(.text name, value)], rest)
      | ',' :: rest => do
        let (pairs, rest) ← readMembers? fuel (skipSpace rest)
        pure ((.text name, value) :: pairs, rest)
      | _ => none
    | _ => none
  | _, _ => none

end

def read? (s : String) : Option Value :=
  match readValue? (2 * s.length + 1) (skipSpace s.toList) with
  | some (value, rest) => if (skipSpace rest).isEmpty then some value else none
  | none => none

end Localization.Json
