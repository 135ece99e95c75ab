import Localization.Yaml.Token.Scalar

/-! # The tokens of a document

Indentation opens and closes block collections. What could be a key is remembered until a
colon shows that it is one; the key token then goes before it. A key stands on one line and
is not longer than 1024 characters.
-/
namespace Localization.Yaml

/-- What could be a key: the number of tokens before it, whether it must be one, and its
place. -/
structure PendingKey where
  number : Nat
  required : Bool
  index : Nat
  line : Nat
  column : Nat

/-- The tokens read so far are in reverse; pending keys are kept for each flow level. -/
structure Lexer where
  cursor : Cursor
  tokens : List Token
  count : Nat
  flow : Nat
  indent : Int
  indents : List Int
  keyAllowed : Bool
  keys : List (Nat × PendingKey)

/-- The most characters from the start of a key to its colon. -/
def maxKeyLength : Nat := 1024

namespace Lexer

def ofText (cs : List Char) : Lexer := ⟨.ofText cs, [], 0, 0, -1, [], true, []⟩

def emit (l : Lexer) (t : Token) : Lexer := { l with tokens := t :: l.tokens, count := l.count + 1 }

def insert (l : Lexer) (number : Nat) (t : Token) : Lexer :=
  let later := l.count - number
  { l with tokens := l.tokens.take later ++ t :: l.tokens.drop later, count := l.count + 1 }

def moveTo (l : Lexer) (c : Cursor) : Lexer := { l with cursor := c }

def column (l : Lexer) : Int := l.cursor.column

/-- Passes blanks, comments and line breaks. A line break outside of flow collections lets a
key follow. -/
def skipBlanks : Nat → Lexer → Lexer
  | 0, l => l
  | fuel + 1, l =>
    let c := (l.cursor.skip (· == ' ')).skipComment
    if c.peek.any isLineBreak then
      skipBlanks fuel { l with cursor := c.takeBreak.2, keyAllowed := l.keyAllowed || l.flow == 0 }
    else l.moveTo c

def isStale (l : Lexer) (key : PendingKey) : Bool :=
  key.line != l.cursor.line || maxKeyLength < l.cursor.index - key.index

/-- Drops the pending keys that can be keys no more. -/
def dropStale (l : Lexer) : Except Fault Lexer :=
  if l.keys.any fun entry => l.isStale entry.2 && entry.2.required then .error .malformed
  else .ok { l with keys := l.keys.filter fun entry => !l.isStale entry.2 }

def dropKey (l : Lexer) : Except Fault Lexer :=
  match l.keys.lookup l.flow with
  | some key =>
    if key.required then .error .malformed
    else .ok { l with keys := l.keys.filter (·.1 != l.flow) }
  | none => .ok l

/-- Remembers that a key could begin here. -/
def saveKey (l : Lexer) : Except Fault Lexer :=
  if l.keyAllowed then do
    let required := l.flow == 0 && l.indent == l.column
    let l ← l.dropKey
    let c := l.cursor
    pure { l with keys := (l.flow, ⟨l.count, required, c.index, c.line, c.column⟩) :: l.keys }
  else .ok l

def unwindTo (column : Int) : Nat → Lexer → Lexer
  | 0, l => l
  | fuel + 1, l =>
    if column < l.indent then
      match l.indents with
      | outer :: rest =>
        unwindTo column fuel { l.emit .blockEnd with indent := outer, indents := rest }
      | [] => l
    else l

def unwind (l : Lexer) (column : Int) : Lexer :=
  if l.flow != 0 then l else unwindTo column (l.indents.length + 1) l

def openBlock (l : Lexer) (column : Int) (number : Nat) (t : Token) : Lexer :=
  if l.indent < column then
    { l.insert number t with indent := column, indents := l.indent :: l.indents }
  else l

def finishStream (l : Lexer) : Except Fault Lexer := do
  let l ← (l.unwind (-1)).dropKey
  pure ({ l with keyAllowed := false, keys := [] }.emit .streamEnd)

def lexDirective (l : Lexer) : Except Fault Lexer := do
  let l ← (l.unwind (-1)).dropKey
  let (token, c) ← readDirective l.cursor
  pure (({ l with keyAllowed := false }.emit token).moveTo c)

def lexMarker (l : Lexer) (t : Token) : Except Fault Lexer := do
  let l ← (l.unwind (-1)).dropKey
  pure (({ l with keyAllowed := false }.emit t).moveTo (l.cursor.advance 3))

def lexFlowStart (l : Lexer) (t : Token) : Except Fault Lexer := do
  let l ← l.saveKey
  pure (({ l with flow := l.flow + 1, keyAllowed := true }.emit t).moveTo l.cursor.step)

def lexFlowEnd (l : Lexer) (t : Token) : Except Fault Lexer := do
  let l ← l.dropKey
  pure (({ l with flow := l.flow - 1, keyAllowed := false }.emit t).moveTo l.cursor.step)

def lexFlowEntry (l : Lexer) : Except Fault Lexer := do
  let l ← l.dropKey
  pure (({ l with keyAllowed := true }.emit .flowEntry).moveTo l.cursor.step)

def lexBlockEntry (l : Lexer) : Except Fault Lexer := do
  if l.flow == 0 && !l.keyAllowed then .error .malformed
  let l := if l.flow == 0 then l.openBlock l.column l.count .blockSequence else l
  let l ← l.dropKey
  pure (({ l with keyAllowed := true }.emit .blockEntry).moveTo l.cursor.step)

def lexKey (l : Lexer) : Except Fault Lexer := do
  if l.flow == 0 && !l.keyAllowed then .error .malformed
  let l := if l.flow == 0 then l.openBlock l.column l.count .blockMapping else l
  let l ← l.dropKey
  pure (({ l with keyAllowed := l.flow == 0 }.emit .key).moveTo l.cursor.step)

/-- A colon after what could be a key makes it one. -/
def lexValue (l : Lexer) : Except Fault Lexer := do
  match l.keys.lookup l.flow with
  | some key =>
    let l := { l with keys := l.keys.filter (·.1 != l.flow) }.insert key.number .key
    let l := if l.flow == 0 then l.openBlock key.column key.number .blockMapping else l
    pure (({ l with keyAllowed := false }.emit .value).moveTo l.cursor.step)
  | none =>
    if l.flow == 0 && !l.keyAllowed then .error .malformed
    let l := if l.flow == 0 then l.openBlock l.column l.count .blockMapping else l
    let l ← { l with keyAllowed := l.flow == 0 }.dropKey
    pure ((l.emit .value).moveTo l.cursor.step)

/-- A token that could be a key or the start of one. -/
def lexWord (l : Lexer) (read : Cursor → Except Fault (Token × Cursor)) : Except Fault Lexer := do
  let l ← l.saveKey
  let (token, c) ← read l.cursor
  pure (({ l with keyAllowed := false }.emit token).moveTo c)

def lexBlockText (l : Lexer) (folded : Bool) : Except Fault Lexer := do
  let l ← l.dropKey
  let (token, c) ← readBlock folded l.indent l.cursor
  pure (({ l with keyAllowed := true }.emit token).moveTo c)

def lexPlain (l : Lexer) : Except Fault Lexer := do
  let l ← l.saveKey
  let (token, lineEnded, c) := readPlain (l.flow != 0) l.indent l.cursor
  pure (({ l with keyAllowed := lineEnded }.emit token).moveTo c)

/-- Whether a plain text may begin with a character, given the one after it. -/
def startsPlain (inFlow : Bool) (ch : Char) (next : Option Char) : Bool :=
  !(endsToken (some ch) || "-?:,[]\x7b\x7d#&*!|>'\"%@\x60".toList.contains ch) ||
    (!endsToken next && (ch == '-' || (!inFlow && (ch == '?' || ch == ':'))))

/-- Reads the token that begins with a character. -/
def lexAt (l : Lexer) (ch : Char) : Except Fault Lexer :=
  let c := l.cursor
  let inFlow := l.flow != 0
  let atIndicator := inFlow || endsToken (c.peekAt 1)
  if ch == '%' && c.column == 0 then l.lexDirective
  else if c.column == 0 && c.atMarker '-' then l.lexMarker .documentStart
  else if c.column == 0 && c.atMarker '.' then l.lexMarker .documentEnd
  else if ch == '[' then l.lexFlowStart .flowSequence
  else if ch == '\x7b' then l.lexFlowStart .flowMapping
  else if ch == ']' then l.lexFlowEnd .flowSequenceEnd
  else if ch == '\x7d' then l.lexFlowEnd .flowMappingEnd
  else if ch == ',' then l.lexFlowEntry
  else if ch == '-' && endsToken (c.peekAt 1) then l.lexBlockEntry
  else if ch == '?' && atIndicator then l.lexKey
  else if ch == ':' && atIndicator then l.lexValue
  else if ch == '*' then l.lexWord fun c => do
    let (name, c) ← readAnchor c
    pure (.alias name, c)
  else if ch == '&' then l.lexWord fun c => do
    let (name, c) ← readAnchor c
    pure (.anchor name, c)
  else if ch == '!' then l.lexWord readTag
  else if ch == '|' && !inFlow then l.lexBlockText false
  else if ch == '>' && !inFlow then l.lexBlockText true
  else if ch == '\'' then l.lexWord (readQuoted false)
  else if ch == '"' then l.lexWord (readQuoted true)
  else if startsPlain inFlow ch (c.peekAt 1) then l.lexPlain
  else .error .malformed

/-- Passes blanks and reads the next token. -/
def next (l : Lexer) : Except Fault Lexer := do
  let l ← (skipBlanks (l.cursor.rest.length + 1) l).dropStale
  let l := l.unwind l.column
  match l.cursor.peek with
  | none => l.finishStream
  | some ch => l.lexAt ch

/-- Reads tokens to the end of the text or to a fault. The first argument bounds their
number. -/
def run : Nat → Lexer → List Token × Option Fault
  | 0, l => (l.tokens.reverse, none)
  | fuel + 1, l =>
    match l.next with
    | .error fault => (l.tokens.reverse, some fault)
    | .ok l => if l.tokens.head? == some .streamEnd then (l.tokens.reverse, none) else run fuel l

end Lexer

/-- The tokens of a text, up to its end or to a fault. A byte order mark at its start does
not count. -/
def tokens (cs : List Char) : List Token × Option Fault :=
  let l := Lexer.ofText cs
  let l := if l.cursor.peek == some '\ufeff' then l.moveTo l.cursor.step else l
  l.run (cs.length + 2)

end Localization.Yaml
