import Localization.Markup.Attribute

/-! # Segments

A text is segmented into plain texts and slots. A slot begins with a tag, whose name starts
with a letter and is followed by `>`, a slash or a blank; the tag ends at the next `>`. The
slot goes on to the nearest closing tag of its name after that, whatever the case of its
letters. A tag that nothing closes is plain text.

The functions here search the text anew for each tag.
-/
namespace Localization.Markup

open Text

inductive Segment where
  | text (content : List Char)
  | slot (name : List Char) (attributes : Option Attributes) (content : List Char)
  deriving DecidableEq, Repr

def Segment.content : Segment → List Char
  | text content => content
  | slot _ _ content => content

def Segment.isSlot : Segment → Bool
  | text _ => false
  | slot .. => true

def isTagNameChar (c : Char) : Bool := c.isAlphanum || c == '-'

def lowerName (name : List Char) : List Char := name.map Char.toLower

/-- The longest name at the start of a text that starts with a letter. -/
def tagName? (cs : List Char) : Option (List Char) :=
  match cs with
  | c :: _ => if c.isAlpha then some (cs.takeWhile isTagNameChar) else none
  | [] => none

/-- Whether a name may end before a text. -/
def endsName (rest : List Char) : Bool :=
  match rest with
  | c :: _ => c == '>' || c == '/' || isBlank c
  | [] => true

/-- An opening tag from after its `<`: its name, the text of its attributes, and what follows
it. -/
def opening? (cs : List Char) : Option (List Char × List Char × List Char) := do
  let name ← tagName? cs
  let rest := cs.drop name.length
  if endsName rest then (cutAt? '>' rest).map fun (attributes, after) => (name, attributes, after)
  else none

/-- The name of a closing tag at the start of a text, as it is written. -/
def closing? (cs : List Char) : Option (List Char) :=
  match cs with
  | '<' :: '/' :: rest => do
    let name ← tagName? rest
    if (rest.drop name.length).head? == some '>' then some name else none
  | _ => none

def closes (name : List Char) (cs : List Char) : Bool :=
  match closing? cs with
  | some other => lowerName other == name
  | none => false

/-- The text before the nearest closing tag of a name and the text after that tag. -/
def cutAtClosing? (name : List Char) : List Char → Option (List Char × List Char)
  | [] => none
  | c :: rest =>
    if closes name (c :: rest) then some ([], rest.drop (name.length + 2))
    else (cutAtClosing? name rest).map fun (content, after) => (c :: content, after)

structure SlotText where
  name : List Char
  attributes : List Char
  content : List Char
  rest : List Char

def slotText? (cs : List Char) : Option SlotText := do
  let (name, attributes, after) ← opening? cs
  let (content, rest) ← cutAtClosing? (lowerName name) after
  some ⟨lowerName name, attributes, content, rest⟩

/-- The text read so far, given in reverse, as a segment unless it is empty. -/
def flush (pending : List Char) (segments : List Segment) : List Segment :=
  if pending.isEmpty then segments else .text pending.reverse :: segments

/-- The segments of a text by their definition. The first argument bounds the number of
steps; `pending` is the plain text before, in reverse. -/
def segmentsFrom : Nat → List Char → List Char → Attempt (List Segment)
  | 0, pending, _ => pure (flush pending [])
  | _, pending, [] => pure (flush pending [])
  | fuel + 1, pending, c :: rest =>
    match (if c = '<' then slotText? rest else none) with
    | some slot => do
      let attributes ← parseAttributes slot.attributes
      let others ← segmentsFrom fuel [] slot.rest
      pure (flush pending (.slot slot.name attributes slot.content :: others))
    | none => segmentsFrom fuel (c :: pending) rest

/-- The segments of a text, each search made anew. -/
def plainSegments (cs : List Char) : Attempt (List Segment) := segmentsFrom cs.length [] cs

end Localization.Markup
