import Localization.Markup.Cache
import Localization.Markup.Scan

/-! # Remembered segmentation

The segments of a text are remembered for the texts used last. A text that is too long is
one plain text, is reported and is not remembered. Each segmentation that is made has a
number, so that a remembered one can be told from a new one. Nothing is remembered of a text
whose segmentation fails.
-/
namespace Localization.Markup

/-- The most characters of a text that is segmented. -/
def maxTextLength : Nat := 10000

def parseCapacity : Nat := 100

structure Parsed where
  number : Nat
  segments : List Segment
  deriving Repr

abbrev ParseCache := Cache (List Char) (List Segment)

def ParseCache.ofCapacity? (capacity : Int) : Except Failure ParseCache :=
  if capacity < 1 then .error .cacheCapacity else .ok (.empty capacity.toNat)

structure Segmenter where
  cache : Cache (List Char) Parsed
  next : Nat

namespace Segmenter

def fresh (capacity : Nat) : Segmenter := ⟨.empty capacity, 0⟩

def isTooLong (cs : List Char) : Bool := maxTextLength < cs.length

def longText (s : Segmenter) (cs : List Char) : Traced (Except Failure Parsed × Segmenter) := do
  Traced.log .warning "parser" "markup_input_too_long"
    [("length", .int cs.length), ("max_length", .int maxTextLength)]
  pure (.ok ⟨s.next, [.text cs]⟩, { s with next := s.next + 1 })

def segment (s : Segmenter) (cs : List Char) : Traced (Except Failure Parsed × Segmenter) :=
  if isTooLong cs then s.longText cs
  else
    match s.cache.get cs with
    | (some parsed, cache) => pure (.ok parsed, { s with cache })
    | (none, _) => do
      match ← (scanSegments cs).run with
      | .error failure => pure (.error failure, s)
      | .ok segments =>
        let parsed : Parsed := ⟨s.next, segments⟩
        pure (.ok parsed, ⟨s.cache.put cs parsed, s.next + 1⟩)

/-- Whether the segments of a text have a slot. A text that is too long has none. -/
def hasSlots (s : Segmenter) (cs : List Char) : Traced (Except Failure Bool × Segmenter) :=
  if isTooLong cs then pure (.ok false, s)
  else do
    let (parsed, s) ← s.segment cs
    pure (parsed.map fun parsed => parsed.segments.any Segment.isSlot, s)

def clear (s : Segmenter) : Segmenter := { s with cache := s.cache.clear }

end Segmenter

end Localization.Markup
