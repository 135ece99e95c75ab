import Localization.Yaml.Fault

/-! # Places in a document

A cursor is the text that is still to be read and its place: the number of characters
before it, the line and the column. The byte order mark has no column.
-/
namespace Localization.Yaml

structure Cursor where
  rest : List Char
  index : Nat
  line : Nat
  column : Nat

def isLineBreak (c : Char) : Bool :=
  c == '\n' || c == '\x85' || c == '\u2028' || c == '\u2029'

def isSpaceOrTab (c : Char) : Bool := c == ' ' || c == '\t'

/-- The characters that a document may hold. -/
def isAllowed (c : Char) : Bool :=
  let n := c.toNat
  n == 0x9 || n == 0xA || n == 0xD || (0x20 ≤ n && n ≤ 0x7E) || n == 0x85 ||
    (0xA0 ≤ n && n ≤ 0xFFFD) || 0x10000 ≤ n

def endsLine : Option Char → Bool
  | none => true
  | some c => isLineBreak c

/-- Whether nothing, a space or a line break comes next. -/
def endsWord : Option Char → Bool
  | none => true
  | some c => c == ' ' || isLineBreak c

def endsToken : Option Char → Bool
  | none => true
  | some c => isSpaceOrTab c || isLineBreak c

def isNameChar (c : Char) : Bool := c.isAlphanum || c == '-' || c == '_'

namespace Cursor

def ofText (cs : List Char) : Cursor := ⟨cs, 0, 0, 0⟩

def peek (c : Cursor) : Option Char := c.rest.head?

def peekAt (c : Cursor) (k : Nat) : Option Char := c.rest[k]?

def step (c : Cursor) : Cursor :=
  match c.rest with
  | [] => c
  | ch :: rest =>
    if isLineBreak ch then ⟨rest, c.index + 1, c.line + 1, 0⟩
    else if ch == '\ufeff' then ⟨rest, c.index + 1, c.line, c.column⟩
    else ⟨rest, c.index + 1, c.line, c.column + 1⟩

def advance : Nat → Cursor → Cursor
  | 0, c => c
  | n + 1, c => advance n c.step

/-- The characters before the first one outside a class, and the cursor there. -/
def span (p : Char → Bool) (c : Cursor) : List Char × Cursor :=
  let word := c.rest.takeWhile p
  (word, advance word.length c)

def skip (p : Char → Bool) (c : Cursor) : Cursor := (c.span p).2

/-- The line break that comes next, as it counts, and the cursor after it. -/
def takeBreak (c : Cursor) : List Char × Cursor :=
  match c.rest with
  | ch :: _ =>
    if ch == '\n' || ch == '\x85' then (['\n'], c.step)
    else if ch == '\u2028' || ch == '\u2029' then ([ch], c.step)
    else ([], c)
  | [] => ([], c)

/-- Whether a marker of the start or the end of a document comes next. -/
def atMarker (c : Cursor) (mark : Char) : Bool :=
  c.rest.take 3 == [mark, mark, mark] && endsToken (c.peekAt 3)

def atDocumentMarker (c : Cursor) : Bool := c.atMarker '-' || c.atMarker '.'

def skipComment (c : Cursor) : Cursor :=
  if c.peek == some '#' then c.skip (!isLineBreak ·) else c

/-- Passes blanks and a comment to the end of the line and over it. -/
def finishLine (c : Cursor) : Except Fault Cursor :=
  let c := (c.skip (· == ' ')).skipComment
  if endsLine c.peek then .ok c.takeBreak.2 else .error .malformed

end Cursor

end Localization.Yaml
