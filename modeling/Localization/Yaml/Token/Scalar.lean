import Localization.Yaml.Token.Basic

/-! # Texts of scalars

Quoted texts, block texts and plain texts. Line breaks within a quoted or plain text are
folded: a single one is a space, and of several the first does not count.
-/
namespace Localization.Yaml

def shortEscapes : List (Char × Char) :=
  [('0', '\x00'), ('a', '\x07'), ('b', '\x08'), ('t', '\t'), ('\t', '\t'), ('n', '\n'),
   ('v', '\x0b'), ('f', '\x0c'), ('r', '\x0d'), ('e', '\x1b'), (' ', ' '), ('"', '"'),
   ('\\', '\\'), ('/', '/'), ('N', '\x85'), ('_', '\u00a0'), ('L', '\u2028'), ('P', '\u2029')]

/-- The number of digits of escapes by number. -/
def numericEscapes : List (Char × Nat) := [('x', 2), ('u', 4), ('U', 8)]

def isQuotedStop (c : Char) : Bool :=
  c == '\'' || c == '"' || c == '\\' || isSpaceOrTab c || isLineBreak c

/-- The line breaks after a first one, with the blanks around them. -/
def readQuotedBreaks : Nat → Cursor → Except Fault (List Char × Cursor)
  | 0, c => .ok ([], c)
  | fuel + 1, c =>
    if c.atDocumentMarker then .error .malformed
    else
      let c := c.skip isSpaceOrTab
      if c.peek.any isLineBreak then do
        let (text, c) := c.takeBreak
        let (rest, c) ← readQuotedBreaks fuel c
        pure (text ++ rest, c)
      else .ok ([], c)

def foldBreaks (first breaks : List Char) : List Char :=
  (if first != ['\n'] then first else if breaks.isEmpty then [' '] else []) ++ breaks

def readEscape (c : Cursor) : Except Fault (List Char × Cursor) :=
  let c := c.step
  match c.peek with
  | none => .error .malformed
  | some letter =>
    match shortEscapes.lookup letter with
    | some meaning => .ok ([meaning], c.step)
    | none =>
      match numericEscapes.lookup letter with
      | some width =>
        match readHex? width c.step with
        | none => .error .malformed
        | some (n, c) =>
          if 0x7FFFFFFF < n then .error .characterSize
          else if 0x10FFFF < n then .error .character
          else .ok ([Char.ofNat n], c)
      | none =>
        if isLineBreak letter then
          let (_, c) := c.takeBreak
          readQuotedBreaks c.rest.length c
        else .error .malformed

/-- The text up to a blank, a line break or the closing quote. -/
def readQuotedWord (double : Bool) : Nat → Cursor → Except Fault (List Char × Cursor)
  | 0, c => .ok ([], c)
  | fuel + 1, c => do
    let (word, c) := c.span (!isQuotedStop ·)
    let continueWith (part : List Char) (c : Cursor) : Except Fault (List Char × Cursor) := do
      let (rest, c) ← readQuotedWord double fuel c
      pure (word ++ part ++ rest, c)
    match c.peek with
    | some '\'' =>
      if double then continueWith ['\''] c.step
      else if c.peekAt 1 == some '\'' then continueWith ['\''] (c.advance 2)
      else pure (word, c)
    | some '"' => if double then pure (word, c) else continueWith ['"'] c.step
    | some '\\' =>
      if double then do
        let (part, c) ← readEscape c
        continueWith part c
      else continueWith ['\\'] c.step
    | _ => pure (word, c)

/-- Blanks within a quoted text, folded when a line ends in them. -/
def readQuotedBlanks (c : Cursor) : Except Fault (List Char × Cursor) :=
  let (blanks, c) := c.span isSpaceOrTab
  match c.peek with
  | none => .error .malformed
  | some ch =>
    if isLineBreak ch then do
      let (first, c) := c.takeBreak
      let (breaks, c) ← readQuotedBreaks (c.rest.length + 1) c
      pure (foldBreaks first breaks, c)
    else .ok (blanks, c)

def readQuotedRest (double : Bool) (quote : Char) : Nat → Cursor → Except Fault (List Char × Cursor)
  | 0, _ => .error .malformed
  | fuel + 1, c => do
    let (word, c) ← readQuotedWord double (c.rest.length + 1) c
    if c.peek == some quote then pure (word, c.step)
    else do
      let (blanks, c) ← readQuotedBlanks c
      let (rest, c) ← readQuotedRest double quote fuel c
      pure (word ++ blanks ++ rest, c)

def readQuoted (double : Bool) (c : Cursor) : Except Fault (Token × Cursor) := do
  let (text, c) ← readQuotedRest double (if double then '"' else '\'') (c.rest.length + 1) c.step
  pure (.scalar text false, c)

/-- What becomes of the line breaks at the end of a block text. -/
inductive Chomping where
  | strip
  | clip
  | keep
  deriving DecidableEq, Repr

def readChomping? : Option Char → Option Chomping
  | some '+' => some .keep
  | some '-' => some .strip
  | _ => none

def readIncrement? : Option Char → Option Nat
  | some c => if c.isDigit then some (c.toNat - '0'.toNat) else none
  | none => none

/-- The indicators of a block text as they are written, in either order. -/
def indicatorsAt (c : Cursor) : Chomping × Option Nat × Cursor :=
  match readChomping? c.peek with
  | some chomping =>
    match readIncrement? c.step.peek with
    | some n => (chomping, some n, c.advance 2)
    | none => (chomping, none, c.step)
  | none =>
    match readIncrement? c.peek with
    | some n =>
      match readChomping? c.step.peek with
      | some chomping => (chomping, some n, c.advance 2)
      | none => (.clip, some n, c.step)
    | none => (.clip, none, c)

/-- The indicators of a block text: what becomes of its end, and its indentation. -/
def readIndicators (c : Cursor) : Except Fault (Chomping × Option Nat × Cursor) :=
  let (chomping, increment, c) := indicatorsAt c
  if increment == some 0 || !endsWord c.peek then .error .malformed
  else .ok (chomping, increment, c)

/-- The blank lines before a block text and the deepest indentation among them and of the
first line. -/
def readIndentation : Nat → Cursor → Nat → List Char × Nat × Cursor
  | 0, c, deepest => ([], deepest, c)
  | fuel + 1, c, deepest =>
    match c.peek with
    | some ' ' => readIndentation fuel c.step (max deepest c.step.column)
    | some ch =>
      if isLineBreak ch then
        let (text, c) := c.takeBreak
        let (rest, deepest, c) := readIndentation fuel c deepest
        (text ++ rest, deepest, c)
      else ([], deepest, c)
    | none => ([], deepest, c)

def skipIndent : Nat → Nat → Cursor → Cursor
  | 0, _, c => c
  | fuel + 1, column, c =>
    if c.column < column && c.peek == some ' ' then skipIndent fuel column c.step else c

def readBlankLines (column : Nat) : Nat → Cursor → List Char × Cursor
  | 0, c => ([], c)
  | fuel + 1, c =>
    let c := skipIndent column column c
    if c.peek.any isLineBreak then
      let (text, c) := c.takeBreak
      let (rest, c) := readBlankLines column fuel c
      (text ++ rest, c)
    else ([], c)

def joinLines (folded : Bool) (lineBreak breaks : List Char) (startsBlank nextBlank : Bool) :
    List Char :=
  if folded && lineBreak == ['\n'] && !startsBlank && !nextBlank then
    (if breaks.isEmpty then [' '] else [])
  else lineBreak

/-- The lines of a block text, the blank lines before them given: the text, the last line
break and the blank lines after it. -/
def readBlockLines (folded : Bool) (column : Nat) :
    Nat → List Char → List Char → Cursor → List Char × List Char × List Char × Cursor
  | 0, lineBreak, breaks, c => ([], lineBreak, breaks, c)
  | fuel + 1, lineBreak, breaks, c =>
    if c.column != column || c.peek.isNone then ([], lineBreak, breaks, c)
    else
      let startsBlank := c.peek.any isSpaceOrTab
      let (line, c) := c.span (!isLineBreak ·)
      let (lineBreak, c) := c.takeBreak
      let (next, c) := readBlankLines column (c.rest.length + 1) c
      let joint :=
        if c.column == column && c.peek.isSome then
          joinLines folded lineBreak next startsBlank (c.peek.any isSpaceOrTab)
        else []
      let (rest, lastBreak, last, c) := readBlockLines folded column fuel lineBreak next c
      (breaks ++ line ++ joint ++ rest, lastBreak, last, c)

/-- The column of a block text, which is given or that of its deepest line, the blank lines
before it, and the cursor at its first line. -/
def readBlockStart (least fuel : Nat) (increment : Option Nat) (c : Cursor) :
    Nat × List Char × Cursor :=
  match increment with
  | none =>
    let (breaks, deepest, c) := readIndentation fuel c 0
    (max least deepest, breaks, c)
  | some n =>
    let column := least + n - 1
    let (breaks, c) := readBlankLines column fuel c
    (column, breaks, c)

def Chomping.tail (lineBreak last : List Char) : Chomping → List Char
  | strip => []
  | clip => lineBreak
  | keep => lineBreak ++ last

/-- A block text, from its indicator, within a collection indented by `indent`. -/
def readBlock (folded : Bool) (indent : Int) (c : Cursor) : Except Fault (Token × Cursor) := do
  let (chomping, increment, c) ← readIndicators c.step
  let c ← c.finishLine
  let fuel := c.rest.length + 1
  let (column, breaks, c) := readBlockStart (max (indent + 1) 1).toNat fuel increment c
  let (text, lineBreak, last, c) := readBlockLines folded column fuel [] breaks c
  pure (.scalar (text ++ chomping.tail lineBreak last) false, c)

def endsPlain (inFlow : Bool) (ch : Char) (next : Option Char) : Bool :=
  endsToken (some ch) ||
    (ch == ':' && (endsToken next || (inFlow && next.any fun c => ",[]\x7b\x7d".toList.contains c))) ||
    (inFlow && ",?[]\x7b\x7d".toList.contains ch)

def plainLength (inFlow : Bool) : List Char → Nat
  | [] => 0
  | ch :: rest => if endsPlain inFlow ch rest.head? then 0 else plainLength inFlow rest + 1

/-- The lines between two lines of a plain text; none when a document marker comes. -/
def readPlainBreaks : Nat → Cursor → Option (List Char) × Cursor
  | 0, c => (some [], c)
  | fuel + 1, c =>
    match c.peek with
    | some ' ' => readPlainBreaks fuel c.step
    | some ch =>
      if isLineBreak ch then
        let (text, c) := c.takeBreak
        if c.atDocumentMarker then (none, c)
        else
          let (rest, c) := readPlainBreaks fuel c
          (rest.map (text ++ ·), c)
      else (some [], c)
    | none => (some [], c)

/-- The blanks after a stretch of plain text: as they count, whether a line ended, and the
cursor after them. -/
def readPlainBlanks (c : Cursor) : Option (List Char) × Bool × Cursor :=
  let (blanks, c) := c.span (· == ' ')
  if c.peek.any isLineBreak then
    let (first, c) := c.takeBreak
    if c.atDocumentMarker then (none, true, c)
    else
      let (breaks, c) := readPlainBreaks (c.rest.length + 1) c
      (breaks.map (foldBreaks first), true, c)
  else (some blanks, false, c)

/-- A plain text with the blanks before it, indented by at least `column`: the text, whether
a line ended after it, and the cursor after it. -/
def readPlainText (inFlow : Bool) (column : Int) :
    Nat → List Char → Bool → Cursor → List Char × Bool × Cursor
  | 0, _, lineEnded, c => ([], lineEnded, c)
  | fuel + 1, blanks, lineEnded, c =>
    let length := if c.peek == some '#' then 0 else plainLength inFlow c.rest
    if length = 0 then ([], lineEnded, c)
    else
      let word := c.rest.take length
      let (next, lineEnded, c) := readPlainBlanks (c.advance length)
      let after := next.getD []
      if after.isEmpty || c.peek == some '#' || (!inFlow && c.column < column) then
        (blanks ++ word, lineEnded, c)
      else
        let (rest, lineEnded, c) := readPlainText inFlow column fuel after lineEnded c
        (blanks ++ word ++ rest, lineEnded, c)

def readPlain (inFlow : Bool) (indent : Int) (c : Cursor) : Token × Bool × Cursor :=
  let (text, lineEnded, c) := readPlainText inFlow (indent + 1) (c.rest.length + 1) [] false c
  (.scalar text true, lineEnded, c)

end Localization.Yaml
