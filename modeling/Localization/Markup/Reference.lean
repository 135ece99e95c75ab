import Localization.Failure
import Localization.Markup.ReferenceName

/-! # Character references

A text may name a character by number or by name after an ampersand. A semicolon ends a
reference; some names and all numbers may do without it. Numbers that name no character
give a replacement, and some control characters nothing. A number in base ten of too many
digits is not read, and the text cannot be resolved.
-/
namespace Localization.Markup

open Text

def named? (name : List Char) : Option (List Char) :=
  (namedReferences.lookup (String.ofList name)).map fun points => points.map Char.ofNat

def bareNamed? (name : List Char) : Option (List Char) :=
  if bareNames.contains (String.ofList name) then named? name else none

/-- The characters that the numbers from 0x80 to 0x9F stand for. -/
def windowsPoints : List Nat :=
  [0x20AC, 0x81, 0x201A, 0x192, 0x201E, 0x2026, 0x2020, 0x2021, 0x2C6, 0x2030, 0x160, 0x2039,
   0x152, 0x8D, 0x17D, 0x8F, 0x90, 0x2018, 0x2019, 0x201C, 0x201D, 0x2022, 0x2013, 0x2014, 0x2DC,
   0x2122, 0x161, 0x203A, 0x153, 0x9D, 0x17E, 0x178]

def replacement : Char := '\ufffd'

/-- Whether a number names a control character or no character and gives nothing. -/
def isVoid (n : Nat) : Bool :=
  (0x1 ≤ n && n ≤ 0x8) || n == 0xB || (0xE ≤ n && n ≤ 0x1F) || n == 0x7F ||
    (0xFDD0 ≤ n && n ≤ 0xFDEF) || n % 0x10000 == 0xFFFE || n % 0x10000 == 0xFFFF

/-- What a numeric reference stands for. -/
def numbered (n : Nat) : List Char :=
  if n = 0 then [replacement]
  else if 0x80 ≤ n && n ≤ 0x9F then [Char.ofNat (windowsPoints.getD (n - 0x80) 0)]
  else if (0xD800 ≤ n && n ≤ 0xDFFF) || 0x10FFFF < n then [replacement]
  else if isVoid n then []
  else [Char.ofNat n]

def isHexDigit (c : Char) : Bool :=
  c.isDigit || ('a' ≤ c && c ≤ 'f') || ('A' ≤ c && c ≤ 'F')

def hexValue (c : Char) : Nat :=
  if c.isDigit then c.toNat - '0'.toNat else c.toLower.toNat - 'a'.toNat + 10

def ofHexDigits (digits : List Char) : Nat := digits.foldl (fun n c => 16 * n + hexValue c) 0

/-- What a reference in base ten stands for. -/
def decimalMeaning (digits : List Char) : Except Failure (List Char) :=
  if maxWholeDigits < digits.length then .error (.digits digits.length)
  else .ok (numbered (ofDigits digits))

def skipSemicolon : List Char → List Char
  | ';' :: rest => rest
  | cs => cs

def readNumber? (cs : List Char) : Option (Except Failure (List Char) × List Char) :=
  let digits := cs.takeWhile Char.isDigit
  if !digits.isEmpty then
    some (decimalMeaning digits, skipSemicolon (cs.drop digits.length))
  else
    match cs with
    | x :: rest =>
      let digits := rest.takeWhile isHexDigit
      if (x == 'x' || x == 'X') && !digits.isEmpty then
        some (.ok (numbered (ofHexDigits digits)), skipSemicolon (rest.drop digits.length))
      else none
    | [] => none

def isReferenceChar (c : Char) : Bool :=
  !(c == '\t' || c == '\n' || c == '\x0c' || c == ' ' || c == '<' || c == '&' || c == '#' ||
    c == ';')

/-- The longest prefix of a name, of at most `n` characters and at least two, that is known
without a semicolon. -/
def longestBare? (name : List Char) : Nat → Option (List Char × Nat)
  | 0 => none
  | n + 1 =>
    if n + 1 < 2 then none
    else
      match bareNamed? (name.take (n + 1)) with
      | some meaning => some (meaning, n + 1)
      | none => longestBare? name n

def readName? (cs : List Char) : Option (List Char × List Char) :=
  let name := (cs.takeWhile isReferenceChar).take 32
  let rest := cs.drop name.length
  let closed := rest.head? == some ';'
  match (if closed then named? name else bareNamed? name) with
  | some meaning => some (meaning, skipSemicolon rest)
  | none =>
    match longestBare? name name.length with
    | some (meaning, n) => some (meaning, cs.drop n)
    | none => none

/-- What a reference stands for, from after the ampersand, and the text after it. -/
def readReference? : List Char → Option (Except Failure (List Char) × List Char)
  | '#' :: rest => readNumber? rest
  | cs => (readName? cs).map fun (meaning, after) => (.ok meaning, after)

/-- Resolves references from left to right; the first argument bounds their number. -/
def unescapeFrom : Nat → List Char → Except Failure (List Char)
  | _, [] => .ok []
  | 0, cs => .ok cs
  | fuel + 1, c :: rest =>
    match (if c = '&' then readReference? rest else none) with
    | some (meaning, after) => do
      let first ← meaning
      let others ← unescapeFrom fuel after
      pure (first ++ others)
    | none => (unescapeFrom fuel rest).map (c :: ·)

/-- A text with its character references resolved. -/
def unescape (cs : List Char) : Except Failure (List Char) := unescapeFrom cs.length cs

end Localization.Markup
