import Localization.Text.Digit
import Localization.Text.Printable

/-! # Quoted text

A text is quoted with apostrophes, or with double quotes when it holds an apostrophe and
no double quote. The quote in use, the backslash and the unprintable characters are
escaped; the escape of a character has two, four or eight hexadecimal digits.
-/
namespace Localization.Text

/-- The last `width` hexadecimal digits of a number, in lower case. -/
def hexDigits (width n : Nat) : List Char :=
  (List.range width).reverse.map fun k => digitChar (n / Nat.pow 16 k % 16)

def escapeByCode (c : Char) : List Char :=
  let n := c.toNat
  if n < 0x100 then '\\' :: 'x' :: hexDigits 2 n
  else if n < 0x10000 then '\\' :: 'u' :: hexDigits 4 n
  else '\\' :: 'U' :: hexDigits 8 n

def quoteMark (cs : List Char) : Char :=
  if cs.contains '\'' && !cs.contains '"' then '"' else '\''

def quoteChar (mark : Char) (c : Char) : List Char :=
  if c == mark || c == '\\' then ['\\', c]
  else if c == '\n' then ['\\', 'n']
  else if c == '\r' then ['\\', 'r']
  else if c == '\t' then ['\\', 't']
  else if isPrintable c then [c]
  else escapeByCode c

def quote (cs : List Char) : List Char :=
  let mark := quoteMark cs
  mark :: (cs.flatMap (quoteChar mark) ++ [mark])

def quoteString (s : String) : String := String.ofList (quote s.toList)

/-- Octets are quoted as the characters they number, each outside ASCII escaped. -/
def quoteOctet (mark : Char) (b : UInt8) : List Char :=
  let c := Char.ofNat b.toNat
  if 0x7F ≤ b.toNat then escapeByCode c else quoteChar mark c

def quoteOctets (bs : List UInt8) : List Char :=
  let mark := quoteMark (bs.map fun b => Char.ofNat b.toNat)
  'b' :: mark :: (bs.flatMap (quoteOctet mark) ++ [mark])

end Localization.Text
