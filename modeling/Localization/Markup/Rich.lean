import Localization.Markup.Allowlist
import Localization.Markup.Parse

/-! # Rich text

Segments are rendered in order. Plain texts are escaped. A slot is rendered by the caller's
renderer of its name, or as an allowed element, or as its escaped content.
-/
namespace Localization.Markup

open Text

/-- A caller's renderer of the content and the attributes of a slot. -/
abbrev Renderer := List Char → Option Attributes → Except Failure (List Char)

/-- Renderers by the lower-case name of a slot; of two for one name the later one counts. -/
abbrev Renderers := List (List Char × Renderer)

def Renderers.ofList (pairs : List (List Char × Renderer)) : Renderers :=
  pairs.foldl (fun renderers pair => (lower pair.1, pair.2) :: renderers) []

def Renderers.get? (renderers : Renderers) (name : List Char) : Option Renderer :=
  List.lookup name renderers

def renderSegment (renderers : Renderers) : Segment → Except Failure (List Char)
  | .text content => .ok (escape content)
  | .slot name attributes content =>
    match renderers.get? name with
    | some render => render content attributes
    | none =>
      if isSafeTag name then .ok (elementText name (attributes.getD []) content)
      else .ok (escape content)

def renderSegments (renderers : Renderers) : List Segment → Except Failure (List Char)
  | [] => .ok []
  | segment :: rest =>
    match renderSegment renderers segment with
    | .error failure => .error failure
    | .ok text =>
      match renderSegments renderers rest with
      | .error failure => .error failure
      | .ok others => .ok (text ++ others)

def Segmenter.render (s : Segmenter) (renderers : Renderers) (cs : List Char) :
    Traced (Except Failure (List Char) × Segmenter) := do
  let (parsed, s) ← s.segment cs
  pure (parsed.bind fun parsed => renderSegments renderers parsed.segments, s)

end Localization.Markup
