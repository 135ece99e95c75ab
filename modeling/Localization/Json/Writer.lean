import Localization.Number.Shortest
import Localization.Text.Quoted
import Localization.Value.Display

/-! # Writing JSON

A value is written on one line, a space after each comma and colon. Texts are ASCII: other
characters, and the control characters, are written as UTF-16 units of four hexadecimal
digits. What JSON has no form for is written as a text that shows it.
-/
namespace Localization.Json

open Number Text

def unitText (n : Nat) : List Char := '\\' :: 'u' :: hexDigits 4 n

def unitsOf (c : Char) : List Nat :=
  if c.toNat < 0x10000 then [c.toNat]
  else
    let n := c.toNat - 0x10000
    [0xD800 + n / 0x400, 0xDC00 + n % 0x400]

def escape (c : Char) : List Char :=
  match c with
  | '"' => ['\\', '"']
  | '\\' => ['\\', '\\']
  | '\n' => ['\\', 'n']
  | '\r' => ['\\', 'r']
  | '\t' => ['\\', 't']
  | '\x08' => ['\\', 'b']
  | '\x0c' => ['\\', 'f']
  | c => if ' ' ≤ c ∧ c ≤ '~' then [c] else (unitsOf c).flatMap unitText

def textLiteral (s : String) : String :=
  String.ofList ('"' :: s.toList.flatMap escape ++ ['"'])

def realLiteral : Binary64 → String
  | .nan => "NaN"
  | .infinite negative => if negative then "-Infinity" else "Infinity"
  | x => String.ofList x.text

/-- The name that a key becomes; sequences, maps, dates and the like cannot be names. -/
def nameOf? : Value → Option String
  | .text s => some s
  | .null => some "null"
  | .bool b => some (if b then "true" else "false")
  | .int n => some (toString n)
  | .float x => some (realLiteral x)
  | _ => none

def scalarText : Value → String
  | .null => "null"
  | .bool b => if b then "true" else "false"
  | .int n => toString n
  | .float x => realLiteral x
  | .text s => textLiteral s
  | other => textLiteral other.quoted

mutual

def write? : Value → Option String
  | .list items => (writeItems? items).map fun parts => "[" ++ commaList parts ++ "]"
  | .tuple items => (writeItems? items).map fun parts => "[" ++ commaList parts ++ "]"
  | .map entries => (writeMembers? entries).map fun parts => "\x7b" ++ commaList parts ++ "\x7d"
  | scalar => some (scalarText scalar)

def writeItems? : List Value → Option (List String)
  | [] => some []
  | item :: rest => do
    let text ← write? item
    let texts ← writeItems? rest
    pure (text :: texts)

def writeMembers? : List (Value × Value) → Option (List String)
  | [] => some []
  | (key, value) :: rest => do
    let name ← nameOf? key
    let text ← write? value
    let texts ← writeMembers? rest
    pure ((textLiteral name ++ ": " ++ text) :: texts)

end

end Localization.Json
