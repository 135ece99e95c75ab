import Localization.Proofs.Markup.Unreadable
import Mathlib.Data.List.Forall2

/-! # Segments tile their text

A plain text stands for itself and a slot for its opening tag, its content and its closing tag.
The stretches that the segments of a text stand for make up the text, one after the other, and
no two plain texts meet.
-/
namespace Localization.Markup

open Text

/-- The stretches of a text that a segment can stand for. -/
inductive Segment.Spans : Segment → List Char → Prop where
  | text {content : List Char} (nonempty : content ≠ []) : Spans (.text content) content
  | slot {name attributes content closing : List Char}
      (isName : IsTagName name) (isClosing : IsTagName closing)
      (sameName : lowerName closing = lowerName name)
      (apart : ∀ c ∈ attributes.head?, c = '/' ∨ isBlank c = true) (noEnd : '>' ∉ attributes)
      (unclosed : ∀ before written after, lowerName written = lowerName name →
        content ≠ before ++ '<' :: '/' :: (written ++ '>' :: after))
      {kept : Option Attributes} (read : (parseAttributes attributes).outcome = .ok kept) :
      Spans (.slot (lowerName name) kept content)
        ('<' :: (name ++ attributes) ++ '>' :: content ++ '<' :: '/' :: (closing ++ ['>']))

/-- A text falls into stretches for the segments, in their order. -/
def Tiled (segments : List Segment) (cs : List Char) : Prop :=
  ∃ spans : List (List Char), spans.flatten = cs ∧ List.Forall₂ Segment.Spans segments spans

theorem tiled_nil : Tiled [] [] := ⟨[], rfl, .nil⟩

theorem Tiled.cons {segments : List Segment} {cs : List Char} (h : Tiled segments cs)
    {segment : Segment} {span : List Char} (first : segment.Spans span) :
    Tiled (segment :: segments) (span ++ cs) := by
  obtain ⟨spans, rfl, each⟩ := h
  exact ⟨span :: spans, rfl, .cons first each⟩

theorem Tiled.textThen {segments : List Segment} {cs : List Char} (h : Tiled segments cs)
    (text : List Char) : Tiled (textThen text segments) (text ++ cs) := by
  cases text with
  | nil => exact h
  | cons c text => exact h.cons (.text (List.cons_ne_nil c text))

/-- One of two neighbours is a slot. -/
def Alternating (segments : List Segment) : Prop :=
  segments.IsChain fun first second => first.isSlot = true ∨ second.isSlot = true

theorem Alternating.cons {segments : List Segment} (h : Alternating segments) (slot : Segment)
    (isSlot : slot.isSlot = true) : Alternating (slot :: segments) := by
  cases segments with
  | nil => exact .singleton slot
  | cons next rest => exact .cons_cons (.inl isSlot) h

theorem Alternating.tail {first : Segment} {segments : List Segment}
    (h : Alternating (first :: segments)) : Alternating segments := by
  cases h with
  | singleton => exact .nil
  | cons_cons _ rest => exact rest

theorem Alternating.textThen {segments : List Segment} (h : Alternating segments)
    (begins : ∀ next ∈ segments.head?, next.isSlot = true) (text : List Char) :
    Alternating (textThen text segments) := by
  cases text with
  | nil => exact h
  | cons c text =>
    cases segments with
    | nil => exact .singleton _
    | cons next rest => exact .cons_cons (.inr (begins next rfl)) h

theorem WrittenSlot.spans {slot : WrittenSlot} (unclosed : slot.Unclosed)
    {kept : Option Attributes} (read : attributesOf slot.attributes = .ok kept) :
    Segment.Spans (.slot (lowerName slot.name) kept slot.content) ('<' :: slot.inner []) := by
  have apart : ∀ c ∈ slot.attributes.head?, c = '/' ∨ isBlank c = true := by
    intro c first
    obtain ⟨rest, same⟩ := List.head?_eq_some_iff.mp first
    have ends := slot.ends
    have noEnd : c ≠ '>' := fun mark => slot.noEnd (by simp [same, mark])
    rw [same, List.cons_append, endsName] at ends
    simpa [noEnd] using ends
  have whole : '<' :: slot.inner [] = '<' :: (slot.name ++ slot.attributes) ++ '>' :: slot.content ++
      '<' :: '/' :: (slot.closing ++ ['>']) := by
    simp [inner]
  rw [whole]
  exact .slot slot.isName slot.isClosing slot.sameName apart slot.noEnd
    ((cutAtClosing?_eq_none_iff slot.isName).mp unclosed) ((outcome_parseAttributes _).trans read)

theorem Layout.tiled {l : Layout} (intact : l.Intact) {segments : List Segment}
    (own : l.segments = .ok segments) : Tiled segments l.source := by
  induction l generalizing segments with
  | last text =>
    obtain rfl := Except.ok.inj own
    have alone := tiled_nil.textThen text
    rwa [List.append_nil] at alone
  | next text slot rest ih =>
    obtain ⟨-, unclosed, others⟩ := intact
    obtain ⟨kept, found, read, ownRest, rfl⟩ := segments_next_eq_ok_iff.mp own
    have whole : '<' :: slot.inner rest.source = '<' :: slot.inner [] ++ rest.source := by
      simp [WrittenSlot.inner]
    rw [source, whole]
    exact ((ih others ownRest).cons (WrittenSlot.spans unclosed read)).textThen text

theorem Layout.alternating {l : Layout} {segments : List Segment}
    (own : l.segments = .ok segments) : Alternating segments := by
  induction l generalizing segments with
  | last text =>
    obtain rfl := Except.ok.inj own
    refine Alternating.textThen .nil ?_ text
    intro next none
    cases none
  | next text slot rest ih =>
    obtain ⟨kept, found, -, ownRest, rfl⟩ := segments_next_eq_ok_iff.mp own
    refine ((ih ownRest).cons _ rfl).textThen ?_ text
    intro next first
    cases first
    rfl

namespace Segmenter

/-- However a segmenter was used before, the segments of a text that is not too long tile it, and no
two plain texts are neighbours. It has none exactly when the attributes of a slot cannot be read. -/
theorem segments_tile (capacity : Nat) (uses : List Use) {cs : List Char}
    (short : cs.length ≤ maxTextLength) :
    let result := (((fresh capacity).afterUses uses).segment cs).value.1
    (∀ parsed, result = .ok parsed → Tiled parsed.segments cs ∧ Alternating parsed.segments) ∧
      (result.isOk ↔ ¬ HasUnreadable cs) := by
  intro result
  have read : result.map Parsed.segments = segmentsOf cs := segments_segment capacity uses cs
  refine ⟨fun parsed given => ?_, ?_⟩
  · obtain ⟨l, rfl, intact⟩ := Layout.exists_intact cs
    rw [given, segmentsOf_of_le short, Layout.plainSegments_source intact] at read
    exact ⟨Layout.tiled intact read.symm, Layout.alternating read.symm⟩
  · rw [← segmentsOf_isOk_iff short, ← read, isOk_map]

/-- A slot behind an unclosed tag, a closing tag of another name in its content, and a second
closing tag of its own name behind it. -/
def strayClosings : List Char := "<b <I x=1>1</ib></i>2</I>".toList

theorem strayClosings_tile :
    strayClosings.length ≤ maxTextLength ∧
      Tiled [.text "<b ".toList, .slot ['i'] (some [(['x'], ['1'])]) "1</ib>".toList,
        .text "2</I>".toList] strayClosings ∧
      Alternating [.text "<b ".toList, .slot ['i'] (some [(['x'], ['1'])]) "1</ib>".toList,
        .text "2</I>".toList] := by
  have short : strayClosings.length ≤ maxTextLength := by decide
  have own : (((fresh 2).afterUses [.segment [], .hasSlots strayClosings]).segment
      strayClosings).value.1.map Parsed.segments =
      .ok [.text "<b ".toList, .slot ['i'] (some [(['x'], ['1'])]) "1</ib>".toList,
        .text "2</I>".toList] := by
    rw [segments_segment, segmentsOf_of_le short]
    rfl
  obtain ⟨parsed, given, whole⟩ := map_eq_ok_iff.mp own
  have tiles := (segments_tile 2 [.segment [], .hasSlots strayClosings] short).1 parsed given
  exact ⟨short, whole ▸ tiles⟩

/-- A link to a number is not tiled by segments, as it has none. -/
theorem longLink_untiled :
    longLink.length ≤ maxTextLength ∧ ¬ ∃ parsed : Parsed,
      (((fresh parseCapacity).afterUses []).segment longLink).value.1 = .ok parsed ∧
        Tiled parsed.segments longLink := by
  refine ⟨length_longLink, ?_⟩
  rintro ⟨parsed, given, -⟩
  exact not_isOk_segment_longLink parseCapacity [] (by rw [given]; rfl)

end Segmenter

end Localization.Markup
