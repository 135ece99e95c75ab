import Localization.Text.Alphanumeric
import Localization.Text.CaseTable

/-! # Upper and lower case

Case mappings of every script, including those that turn one character into several.
A capital sigma becomes a final sigma when a cased letter precedes it and none follows,
the ignorable characters between them not counting.
-/
namespace Localization.Text

def CaseRow.contains (row : CaseRow) (n : Nat) : Bool :=
  row.first ≤ n && n ≤ row.last && (n - row.first) % row.step == 0

def mapByRows (rows : List CaseRow) (expansions : List (Nat × List Nat)) (c : Char) : List Char :=
  match rows.find? (·.contains c.toNat) with
  | some row => [Char.ofNat (c.toNat + row.offset).toNat]
  | none =>
    match expansions.lookup c.toNat with
    | some points => points.map Char.ofNat
    | none => [c]

def isCased (c : Char) : Bool := inRanges casedRanges c.toNat

def isCaseIgnorable (c : Char) : Bool := inRanges ignorableRanges c.toNat

def startsCased (cs : List Char) : Bool :=
  match cs.dropWhile isCaseIgnorable with
  | [] => false
  | c :: _ => isCased c

/-- The lower-case form of a sigma between reversed and following text. -/
def lowerSigma (before after : List Char) : Char :=
  if startsCased before && !startsCased after then 'ς' else 'σ'

def lowerFrom (before : List Char) : List Char → List Char
  | [] => []
  | c :: rest =>
    let mapped :=
      if c.toNat < 0x80 then [c.toLower]
      else if c == 'Σ' then [lowerSigma before rest]
      else mapByRows lowerRows lowerExpansions c
    mapped ++ lowerFrom (c :: before) rest

def lower (cs : List Char) : List Char := lowerFrom [] cs

def upper (cs : List Char) : List Char :=
  cs.flatMap fun c =>
    if c.toNat < 0x80 then [c.toUpper] else mapByRows upperRows upperExpansions c

def lowerString (s : String) : String := String.ofList (lower s.toList)

def upperString (s : String) : String := String.ofList (upper s.toList)

end Localization.Text
