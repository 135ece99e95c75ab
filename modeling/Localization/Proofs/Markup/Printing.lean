import Localization.Proofs.Markup.Quotation
import Localization.Proofs.Markup.Tiling

/-! # Printed segments read back

A text is printed as it is, a slot as its tags around its content, and an attribute behind a
space with its value in double quotation marks. The segments of what is printed are those that
were printed, in their order and with their attributes in order.
-/
namespace Localization.Markup

open Text

def printAttribute (item : List Char × List Char) : List Char :=
  ' ' :: (item.1 ++ '=' :: '"' :: (item.2 ++ ['"']))

def printAttributes (attributes : Attributes) : List Char := attributes.flatMap printAttribute

/-- Attributes that keep to double quotation marks and that a tag does not refuse. -/
structure PrintableAttributes (attributes : Attributes) : Prop where
  nonempty : attributes ≠ []
  distinct : (attributes.map Prod.fst).Nodup
  names : ∀ item ∈ attributes, IsAttributeName item.1
  noEvent : ∀ item ∈ attributes, ¬ "on".toList <+: item.1.map Char.toLower
  values : ∀ item ∈ attributes, '"' ∉ item.2 ∧ '>' ∉ item.2
  addresses : ∀ item ∈ attributes, isUrlName item.1 = true → isSafeUrl item.2 = .ok true

theorem IsAttributeName.not_mem {name : List Char} (h : IsAttributeName name) {c : Char}
    (other : isAttributeNameChar c = false) : c ∉ name := by
  intro inside
  have allowed := h.2 c inside
  rw [other] at allowed
  cases allowed

theorem writes_print {attributes : Attributes} (names : ∀ item ∈ attributes, IsAttributeName item.1)
    (values : ∀ item ∈ attributes, '"' ∉ item.2) : Writes attributes (printAttributes attributes) := by
  induction attributes with
  | nil => exact .nil
  | cons item rest ih =>
    have more := ih (fun other inside => names other (List.mem_cons_of_mem item inside))
      (fun other inside => values other (List.mem_cons_of_mem item inside))
    have noBlank : Blank [] := fun c inside => by cases inside
    have printed : printAttributes (item :: rest) = [' '] ++ (item.1 ++
        (([] ++ '=' :: ([] ++ '"' :: (item.2 ++ ['"']))) ++ printAttributes rest)) := by
      simp [printAttributes, printAttribute]
    rw [printed]
    exact .cons (List.forall_mem_singleton.mpr (by decide)) (List.cons_ne_nil _ _)
      (names item List.mem_cons_self)
      (.quoted noBlank noBlank (by decide) (values item List.mem_cons_self)) more

theorem PrintableAttributes.attributesOf_print {attributes : Attributes}
    (h : PrintableAttributes attributes) :
    attributesOf (printAttributes attributes) = .ok (some attributes) := by
  refine attributesOf_eq_ok_some_iff.mpr ⟨?_, ?_, ?_, h.nonempty⟩
  · obtain ⟨item, rest, rfl⟩ := List.exists_cons_of_ne_nil h.nonempty
    refine Bool.eq_false_iff.mpr fun blank => ?_
    have mark := List.all_eq_true.mp blank '=' (by simp [printAttributes, printAttribute])
    exact absurd mark (by decide)
  · exact scanAttributes_of_writes
      (writes_print h.names fun item inside => (h.values item inside).1) h.distinct
  · refine refusal?_eq_ok_none_iff.mpr fun item inside => ⟨?_, h.addresses item inside⟩
    rw [isEventName, (h.names item inside).lower, ← Bool.not_eq_true, List.isPrefixOf_iff_prefix]
    exact h.noEvent item inside

def Segment.print : Segment → List Char
  | .text content => content
  | .slot name attributes content =>
    '<' :: (name ++ (printAttributes (attributes.getD []) ++ '>' ::
      (content ++ '<' :: '/' :: (name ++ ['>']))))

def printSegments (segments : List Segment) : List Char := segments.flatMap Segment.print

/-- A text that begins no tag, or a slot that its own closing tag ends. -/
inductive Segment.Printable : Segment → Prop where
  | text {content : List Char} (nonempty : content ≠ []) (noTag : '<' ∉ content) :
      Printable (.text content)
  | slot {name content : List Char} {attributes : Option Attributes} (isName : IsTagName name)
      (isLower : lowerName name = name)
      (printable : ∀ items ∈ attributes, PrintableAttributes items)
      (unclosed : ∀ before written after, lowerName written = name →
        content ≠ before ++ '<' :: '/' :: (written ++ '>' :: after)) :
      Printable (.slot name attributes content)

theorem endsName_printAttributes (attributes : Attributes) :
    endsName (printAttributes attributes ++ ['>']) = true := by
  cases attributes with
  | nil => rfl
  | cons item rest => rfl

theorem end_not_mem_printAttributes {attributes : Attributes} (h : PrintableAttributes attributes) :
    '>' ∉ printAttributes attributes := by
  intro inside
  obtain ⟨item, there, inside⟩ := List.mem_flatMap.mp inside
  have inName := (h.names item there).not_mem (c := '>') (by decide)
  have inValue := (h.values item there).2
  simp [printAttribute, inName, inValue] at inside

theorem Segment.Printable.written {segment : Segment} (h : segment.Printable)
    (isSlot : segment.isSlot = true) : ∃ slot : WrittenSlot, slot.segment = .ok segment ∧
      slot.Unclosed ∧ ∀ after, '<' :: slot.inner after = segment.print ++ after := by
  cases h with
  | text => cases isSlot
  | @slot name content attributes isName isLower printable unclosed =>
    have noEnd : '>' ∉ printAttributes (attributes.getD []) := by
      cases attributes with
      | none => exact List.not_mem_nil
      | some items => exact end_not_mem_printAttributes (printable items rfl)
    have kept : attributesOf (printAttributes (attributes.getD [])) = .ok attributes := by
      cases attributes with
      | none => rfl
      | some items => exact (printable items rfl).attributesOf_print
    let slot : WrittenSlot := ⟨name, printAttributes (attributes.getD []), content, name, isName,
      endsName_printAttributes _, noEnd, isName, rfl⟩
    refine ⟨slot, ?_, ?_, fun after => ?_⟩
    · rw [WrittenSlot.segment, isLower, kept]
      rfl
    · refine (cutAtClosing?_eq_none_iff isName).mpr ?_
      rw [isLower]
      exact unclosed
    · simp [slot, WrittenSlot.inner, print]

/-- What is printed is a layout of the segments, in which nothing begins or ends a slot but the
tags that were printed. -/
theorem exists_layout : ∀ {segments : List Segment}, (∀ segment ∈ segments, segment.Printable) →
    Alternating segments →
    ∃ l : Layout, l.source = printSegments segments ∧ l.segments = .ok segments ∧ l.Intact
  | [], _, _ => ⟨.last [], rfl, rfl, trivial⟩
  | .slot name attributes content :: rest, each, neighbours => by
    obtain ⟨slot, same, unclosed, printed⟩ := (each _ List.mem_cons_self).written rfl
    have others : ∀ segment ∈ rest, segment.Printable := fun segment inside =>
      each segment (List.mem_cons_of_mem _ inside)
    obtain ⟨l, source, segments, intact⟩ := exists_layout others neighbours.tail
    refine ⟨.next [] slot l, ?_, ?_, trivial, unclosed, intact⟩
    · rw [Layout.source, source, List.nil_append, printed]
      rfl
    · rw [Layout.segments, segments, same]
      rfl
  | [.text content], each, _ => by
    cases each _ List.mem_cons_self with
    | text nonempty noTag =>
      refine ⟨.last content, ?_, ?_, quietBefore_of_not_mem [] noTag⟩
      · simp [Layout.source, printSegments, Segment.print]
      · simp [Layout.segments, textThen, nonempty]
  | .text content :: .slot name attributes inner :: rest, each, neighbours => by
    obtain ⟨slot, same, unclosed, printed⟩ :=
      (each (.slot name attributes inner) (by simp)).written rfl
    have others : ∀ segment ∈ rest, segment.Printable := fun segment inside =>
      each segment (List.mem_cons_of_mem _ (List.mem_cons_of_mem _ inside))
    obtain ⟨l, source, segments, intact⟩ := exists_layout others neighbours.tail.tail
    cases each _ List.mem_cons_self with
    | text nonempty noTag =>
      refine ⟨.next content slot l, ?_, ?_, quietBefore_of_not_mem _ noTag, unclosed, intact⟩
      · rw [Layout.source, source, printed]
        rfl
      · rw [Layout.segments, segments, same]
        simp [textThen, nonempty, bind, Except.bind, pure, Except.pure]
  | .text _ :: .text _ :: _, _, neighbours => by
    cases neighbours with
    | cons_cons meet _ => simp [Segment.isSlot] at meet

namespace Segmenter

/-- However a segmenter was used before, it gives printed segments back. -/
theorem segment_printSegments (capacity : Nat) (uses : List Use) {segments : List Segment}
    (each : ∀ segment ∈ segments, segment.Printable) (neighbours : Alternating segments)
    (short : (printSegments segments).length ≤ maxTextLength) :
    (((fresh capacity).afterUses uses).segment (printSegments segments)).value.1.map
      Parsed.segments = .ok segments := by
  obtain ⟨l, source, same, intact⟩ := exists_layout each neighbours
  rw [segments_segment, segmentsOf_of_le short, ← source, Layout.plainSegments_source intact, same]

/-- Values and contents that look like tags, quotations and closing tags. -/
def thornySegments : List Segment :=
  [.text "a > b".toList,
    .slot "b-1".toList (some [("href".toList, "?<b-1 x='".toList), ("Title".toList, [])])
      "</b></b-1 ><b-1></b-1".toList,
    .slot ['i'] none []]

theorem segment_thornySegments :
    (∀ segment ∈ thornySegments, segment.Printable) ∧ Alternating thornySegments ∧
      (((fresh 2).afterUses [.hasSlots "<i>".toList]).segment
        (printSegments thornySegments)).value.1.map Parsed.segments = .ok thornySegments := by
  have isName : IsTagName "b-1".toList :=
    ⟨⟨'b', "-1".toList, rfl, by decide⟩, List.all_eq_true.mp (by decide)⟩
  have isShort : IsTagName ['i'] := ⟨⟨'i', [], rfl, by decide⟩, List.all_eq_true.mp (by decide)⟩
  have printable :
      PrintableAttributes [("href".toList, "?<b-1 x='".toList), ("Title".toList, [])] := by
    refine ⟨by decide, by decide, ?_, by decide, by decide, ?_⟩
    · rintro item (_ | ⟨_, _ | ⟨_, ⟨⟩⟩⟩)
      · exact ⟨by decide, List.all_eq_true.mp (by decide)⟩
      · exact ⟨by decide, List.all_eq_true.mp (by decide)⟩
    · rintro item (_ | ⟨_, _ | ⟨_, ⟨⟩⟩⟩) isUrl
      · rfl
      · exact absurd isUrl (by decide)
  have each : ∀ segment ∈ thornySegments, segment.Printable := by
    simp only [thornySegments, List.forall_mem_cons]
    refine ⟨.text (by decide) (by decide), .slot isName rfl ?_ ?_, .slot isShort rfl ?_ ?_, ?_⟩
    · intro items same
      cases same
      exact printable
    · exact (cutAtClosing?_eq_none_iff isName).mp (by decide)
    · intro items none
      cases none
    · exact (cutAtClosing?_eq_none_iff isShort).mp rfl
    · intro segment none
      cases none
  have neighbours : Alternating thornySegments := by
    unfold Alternating
    decide
  have short : (printSegments thornySegments).length ≤ maxTextLength := by decide
  exact ⟨each, neighbours, segment_printSegments 2 [.hasSlots "<i>".toList] each neighbours short⟩

end Segmenter

end Localization.Markup
