import Localization.Text.Utf8
import Localization.Yaml.Cursor

/-! # Tokens

The tokens of a document, and those of them that are words: anchors, tags and directives.
-/
namespace Localization.Yaml

open Text

inductive Directive where
  | version (major : Nat)
  | handle (name replacement : List Char)
  | other
  deriving DecidableEq, Repr

inductive Token where
  | directive (d : Directive)
  | documentStart
  | documentEnd
  | blockSequence
  | blockMapping
  | blockEnd
  | flowSequence
  | flowSequenceEnd
  | flowMapping
  | flowMappingEnd
  | blockEntry
  | flowEntry
  | key
  | value
  | alias (name : List Char)
  | anchor (name : List Char)
  | tag (handle : Option (List Char)) (suffix : List Char)
  | scalar (text : List Char) (plain : Bool)
  | streamEnd
  deriving DecidableEq, Repr

def isHex (c : Char) : Bool := c.isDigit || ('a' ≤ c && c ≤ 'f') || ('A' ≤ c && c ≤ 'F')

def hexDigitValue (c : Char) : Nat :=
  if c.isDigit then c.toNat - '0'.toNat else c.toLower.toNat - 'a'.toNat + 10

/-- The number written by exactly `width` hexadecimal digits. -/
def readHex? (width : Nat) (c : Cursor) : Option (Nat × Cursor) :=
  let digits := c.rest.take width
  if digits.length == width && digits.all isHex then
    some (digits.foldl (fun n d => 16 * n + hexDigitValue d) 0, c.advance width)
  else none

def endsAnchor (next : Option Char) : Bool :=
  endsToken next || next.any fun c => "?:,]\x7d%@\x60".toList.contains c

/-- The name of an anchor or an alias, from its indicator. -/
def readAnchor (c : Cursor) : Except Fault (List Char × Cursor) :=
  let (name, c) := c.step.span isNameChar
  if name.isEmpty || !endsAnchor c.peek then .error .malformed else .ok (name, c)

def isUriChar (c : Char) : Bool :=
  c.isAlphanum || "-;/?:@&=+$,_.!~*'()[]".toList.contains c

def readOctets : Nat → Cursor → Except Fault (List UInt8 × Cursor)
  | 0, c => .ok ([], c)
  | fuel + 1, c =>
    if c.peek == some '%' then
      match readHex? 2 c.step with
      | none => .error .malformed
      | some (n, c) => do
        let (rest, c) ← readOctets fuel c
        pure (UInt8.ofNat n :: rest, c)
    else .ok ([], c)

/-- The parts of an address. The first argument bounds their number. -/
def readUriParts : Nat → Cursor → Except Fault (List Char × Cursor)
  | 0, c => .ok ([], c)
  | fuel + 1, c =>
    match c.peek with
    | some ch =>
      if ch == '%' then do
        let (octets, c) ← readOctets c.rest.length c
        match Utf8.decode octets with
        | .error _ => .error .malformed
        | .ok text => do
          let (rest, c) ← readUriParts fuel c
          pure (text ++ rest, c)
      else if isUriChar ch then do
        let (word, c) := c.span isUriChar
        let (rest, c) ← readUriParts fuel c
        pure (word ++ rest, c)
      else .ok ([], c)
    | none => .ok ([], c)

def readUri (c : Cursor) : Except Fault (List Char × Cursor) := do
  let (uri, after) ← readUriParts (c.rest.length + 1) c
  if after.index == c.index then .error .malformed else pure (uri, after)

/-- The handle of a tag: an exclamation mark, or a name between two. -/
def readHandle (c : Cursor) : Except Fault (List Char × Cursor) :=
  if c.peek != some '!' then .error .malformed
  else if c.peekAt 1 == some ' ' then .ok (['!'], c.step)
  else
    let (name, after) := c.step.span isNameChar
    if after.peek == some '!' then .ok ('!' :: name ++ ['!'], after.step) else .error .malformed

/-- Whether another exclamation mark comes before the end of the word. -/
def hasHandle (c : Cursor) : Bool :=
  match (c.step.rest.takeWhile fun ch => !endsWord (some ch)).find? (· == '!') with
  | some _ => true
  | none => false

/-- A tag without the check of what follows it. -/
def readTagBody (c : Cursor) : Except Fault (Token × Cursor) :=
  match c.peekAt 1 with
  | some '<' => do
    let (suffix, c) ← readUri (c.advance 2)
    if c.peek == some '>' then pure (.tag none suffix, c.step) else .error .malformed
  | next =>
    if endsToken next then .ok (.tag none ['!'], c.step)
    else do
      let (handle, c) ← if hasHandle c then readHandle c else pure (['!'], c.step)
      let (suffix, c) ← readUri c
      pure (.tag (some handle) suffix, c)

def readTag (c : Cursor) : Except Fault (Token × Cursor) := do
  let (token, c) ← readTagBody c
  if endsWord c.peek then pure (token, c) else .error .malformed

def readNumber (c : Cursor) : Except Fault (Nat × Cursor) :=
  let (digits, c) := c.span Char.isDigit
  if digits.isEmpty then .error .malformed
  else if maxWholeDigits < digits.length then .error (.digits digits.length)
  else .ok (ofDigits digits, c)

def readVersion (c : Cursor) : Except Fault (Directive × Cursor) := do
  let (major, c) ← readNumber (c.skip (· == ' '))
  if c.peek != some '.' then .error .malformed
  let (_, c) ← readNumber c.step
  if endsWord c.peek then pure (.version major, c) else .error .malformed

def readHandleDirective (c : Cursor) : Except Fault (Directive × Cursor) := do
  let (handle, c) ← readHandle (c.skip (· == ' '))
  if c.peek != some ' ' then .error .malformed
  let (replacement, c) ← readUri (c.skip (· == ' '))
  if endsWord c.peek then pure (.handle handle replacement, c) else .error .malformed

/-- A directive, from its percent sign to the end of its line. -/
def readDirective (c : Cursor) : Except Fault (Token × Cursor) := do
  let (name, c) := c.step.span isNameChar
  if name.isEmpty || !endsWord c.peek then .error .malformed
  let (directive, c) ←
    if name == "YAML".toList then readVersion c
    else if name == "TAG".toList then readHandleDirective c
    else pure (.other, c.skip (!isLineBreak ·))
  let c ← c.finishLine
  pure (.directive directive, c)

end Localization.Yaml
