import Localization.Markup.Segment

/-! # Segmentation in one pass

The closing tags are listed by name before the text is read, and the nearest one after a
place is found by bisection. The place of the next `>` is kept until it is passed, and
reading stops when there is none. The segments are those of `plainSegments`.
-/
namespace Localization.Markup

open Text

/-- The places of the closing tags of each name, in ascending order. -/
abbrev ClosingIndex := List (List Char × Array Nat)

def addClosing : ClosingIndex → List Char → Nat → ClosingIndex
  | [], name, place => [(name, #[place])]
  | (key, places) :: rest, name, place =>
    if key == name then (key, places.push place) :: rest
    else (key, places) :: addClosing rest name place

def closingTags : Nat → List Char → List (List Char × Nat)
  | _, [] => []
  | place, c :: rest =>
    match closing? (c :: rest) with
    | some name => (lowerName name, place) :: closingTags (place + 1) rest
    | none => closingTags (place + 1) rest

def closingIndex (cs : List Char) : ClosingIndex :=
  (closingTags 0 cs).foldl (fun index (name, place) => addClosing index name place) []

def ClosingIndex.places (index : ClosingIndex) (name : List Char) : Array Nat :=
  (List.lookup name index).getD #[]

/-- The number of members of an ascending array that are at most `x`, sought between `low`
and `high`. The first argument bounds the number of halvings. -/
def bisect (places : Array Nat) (x : Nat) : Nat → Nat → Nat → Nat
  | 0, low, _ => low
  | fuel + 1, low, high =>
    if low < high then
      let mid := (low + high) / 2
      if x < places.getD mid 0 then bisect places x fuel low mid
      else bisect places x fuel (mid + 1) high
    else low

def countUpTo (places : Array Nat) (x : Nat) : Nat := bisect places x places.size 0 places.size

def firstAfter? (places : Array Nat) (x : Nat) : Option Nat := places[countUpTo places x]?

def nextEnd? (place : Nat) (cs : List Char) : Option Nat :=
  (cs.findIdx? (· == '>')).map (place + ·)

/-- Where the reader stands: the place and the text from there, the plain text before it in
reverse, and the last place of a `>` that was found. -/
structure Position where
  place : Nat
  rest : List Char
  pending : List Char
  tagEnd : Nat

def openingName? (cs : List Char) : Option (List Char) := do
  let name ← tagName? cs
  if endsName (cs.drop name.length) then some name else none

/-- The place of the first `>` at or after `place`; the one that was found before is taken
when it is not passed. -/
def currentEnd? (found place : Nat) (cs : List Char) : Option Nat :=
  if found < place then nextEnd? place cs else some found

/-- The plain text that is left, given what is pending in reverse. -/
def finishText (pending rest : List Char) : List Segment := flush (rest.reverse ++ pending) []

/-- Reads on from a position. The first argument bounds the number of steps. -/
def scanFrom (index : ClosingIndex) : Nat → Position → Attempt (List Segment)
  | 0, p => pure (finishText p.pending p.rest)
  | fuel + 1, p =>
    match p.rest with
    | [] => pure (finishText p.pending [])
    | c :: rest =>
      let skip : Position := { p with place := p.place + 1, rest, pending := c :: p.pending }
      match (if c = '<' then openingName? rest else none) with
      | none => scanFrom index fuel skip
      | some name =>
        let nameEnd := p.place + 1 + name.length
        let afterName := rest.drop name.length
        match currentEnd? p.tagEnd nameEnd afterName with
        | none => pure (finishText p.pending p.rest)
        | some tagEnd =>
          match firstAfter? (index.places (lowerName name)) tagEnd with
          | none => scanFrom index fuel { skip with tagEnd }
          | some close => do
            let attributes ← parseAttributes (afterName.take (tagEnd - nameEnd))
            let body := afterName.drop (tagEnd + 1 - nameEnd)
            let content := body.take (close - (tagEnd + 1))
            let next := close + name.length + 3
            let others ← scanFrom index fuel
              ⟨next, body.drop (next - (tagEnd + 1)), [], tagEnd⟩
            pure (flush p.pending (.slot (lowerName name) attributes content :: others))

def scanSegments (cs : List Char) : Attempt (List Segment) :=
  scanFrom (closingIndex cs) (cs.length + 1) ⟨0, cs, [], 0⟩

end Localization.Markup
