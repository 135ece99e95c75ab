import Localization.Text.Alphanumeric
import Localization.Text.Split

/-! # Placeholders

A placeholder stands between double braces: a name and, after commas, a kind of format and
its argument. Blanks around each of them do not count. A template is read once from left to
right into characters that stand for themselves and placeholders, each of which begins as
far left as it can.
-/
namespace Localization.Template

open Text

structure Placeholder where
  name : List Char
  kind : Option (List Char)
  argument : Option (List Char)
  deriving DecidableEq, Repr

/-- A placeholder keeps the text that it was read from. -/
inductive Piece where
  | literal (c : Char)
  | placeholder (p : Placeholder) (source : List Char)
  deriving DecidableEq, Repr

def Piece.source : Piece → List Char
  | literal c => [c]
  | placeholder _ source => source

def isNameChar (c : Char) : Bool := isWord c || c == '.' || c == '-'

/-- The longest word over a class of characters with the blanks around it. -/
def readField? (p : Char → Bool) (cs : List Char) : Option (List Char × List Char) :=
  let start := cs.dropWhile isBlank
  let word := start.takeWhile p
  if word.isEmpty then none else some (word, (start.dropWhile p).dropWhile isBlank)

def readClose? : List Char → Option (List Char)
  | '\x7d' :: '\x7d' :: rest => some rest
  | _ => none

def readArgument? (name kind : List Char) (cs : List Char) : Option (Placeholder × List Char) :=
  match cs with
  | ',' :: rest => do
    let (argument, rest) ← readField? isNameChar rest
    let rest ← readClose? rest
    some (⟨name, some kind, some argument⟩, rest)
  | rest => (readClose? rest).map fun rest => (⟨name, some kind, none⟩, rest)

def readKind? (name : List Char) (cs : List Char) : Option (Placeholder × List Char) :=
  match cs with
  | ',' :: rest => do
    let (kind, rest) ← readField? isWord rest
    readArgument? name kind rest
  | rest => (readClose? rest).map fun rest => (⟨name, none, none⟩, rest)

/-- The placeholder at the start of a text and the text after it. -/
def readPlaceholder? : List Char → Option (Placeholder × List Char)
  | '\x7b' :: '\x7b' :: rest => do
    let (name, rest) ← readField? isNameChar rest
    readKind? name rest
  | _ => none

/-- The pieces of a text; the first argument bounds their number. -/
def piecesFrom : Nat → List Char → List Piece
  | 0, _ => []
  | _, [] => []
  | fuel + 1, c :: rest =>
    match readPlaceholder? (c :: rest) with
    | some (p, after) =>
      .placeholder p ((c :: rest).take (rest.length + 1 - after.length)) :: piecesFrom fuel after
    | none => .literal c :: piecesFrom fuel rest

def pieces (cs : List Char) : List Piece := piecesFrom cs.length cs

def Piece.name? : Piece → Option (List Char)
  | literal _ => none
  | placeholder p _ => some p.name

/-- Each member once, in the order of first occurrence. -/
def distinct {α : Type} [BEq α] (items : List α) : List α :=
  items.foldl (fun seen item => if seen.contains item then seen else seen ++ [item]) []

def names (template : String) : List String :=
  distinct (((pieces template.toList).filterMap Piece.name?).map String.ofList)

end Localization.Template
