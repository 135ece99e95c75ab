import Localization.Markup.Rich
import Localization.Translation.Translator

/-! # Translation with markup

A service translates keys and splits or renders the translations as rich text. It remembers
the segments of the texts used last.
-/
namespace Localization.Translation

variable [Locale.Data] [Stack]

structure Service where
  translator : Translator
  segmenter : Markup.Segmenter

namespace Service

def ofTranslator (translator : Translator) : Service :=
  ⟨translator, .fresh Markup.parseCapacity⟩

def segment (s : Service) (key : String) (params : Option Entries) (locale : Option String) :
    Traced (Except Failure (List Markup.Segment) × Service) := do
  match ← (s.translator.translate key params locale).run with
  | .error failure => pure (.error failure, s)
  | .ok text => do
    let (parsed, segmenter) ← s.segmenter.segment text.toList
    pure (parsed.map Markup.Parsed.segments, { s with segmenter })

/-- A translation as markup in which nothing but safe elements and the work of the caller's
renderers is left unescaped. -/
def translateRich (s : Service) (key : String) (params : Option Entries)
    (renderers : Markup.Renderers) (locale : Option String) :
    Traced (Except Failure (List Char) × Service) := do
  let (segments, s) ← s.segment key params locale
  pure (segments.bind (Markup.renderSegments renderers), s)

end Service

end Localization.Translation
