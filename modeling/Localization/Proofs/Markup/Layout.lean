import Localization.Proofs.Markup.Segmenter
import Localization.Proofs.Markup.Tag

/-! # The layout of a text

A text consists of plain texts and slots by turns. Written out, such a layout has its own
segments exactly when no slot begins in one of its plain texts and no slot is closed within
its content. Every text has a layout of this kind.
-/
namespace Localization.Markup

structure WrittenSlot where
  name : List Char
  /-- What stands between the name and the `>` of the opening tag. -/
  attributes : List Char
  content : List Char
  closing : List Char
  isName : IsTagName name
  ends : endsName (attributes ++ ['>']) = true
  noEnd : '>' ∉ attributes
  isClosing : IsTagName closing
  sameName : lowerName closing = lowerName name

namespace WrittenSlot

def inner (slot : WrittenSlot) (after : List Char) : List Char :=
  slot.name ++ (slot.attributes ++ '>' ::
    (slot.content ++ '<' :: '/' :: (slot.closing ++ '>' :: after)))

def segment (slot : WrittenSlot) : Except Failure Segment :=
  (attributesOf slot.attributes).map fun attributes =>
    .slot (lowerName slot.name) attributes slot.content

def Unclosed (slot : WrittenSlot) : Prop :=
  cutAtClosing? (lowerName slot.name) slot.content = none

theorem cutAtClosing?_closing (slot : WrittenSlot) (after : List Char) :
    cutAtClosing? (lowerName slot.name) ('<' :: '/' :: (slot.closing ++ '>' :: after)) =
      some ([], after) := by
  rw [← slot.sameName]
  exact Markup.cutAtClosing?_closing slot.isClosing after

theorem slotText?_inner (slot : WrittenSlot) (after : List Char) :
    slotText? (slot.inner after) =
      match cutAtClosing? (lowerName slot.name) slot.content with
      | some (content, rest) => some ⟨lowerName slot.name, slot.attributes, content,
          rest ++ '<' :: '/' :: (slot.closing ++ '>' :: after)⟩
      | none => some ⟨lowerName slot.name, slot.attributes, slot.content, after⟩ := by
  rw [slotText?, inner, opening?_append slot.isName slot.ends slot.noEnd]
  simp only [Option.bind_eq_bind, Option.bind_some]
  rw [cutAtClosing?_append, cutAtClosing?_closing]
  cases cutAtClosing? (lowerName slot.name) slot.content with
  | some found => rfl
  | none =>
    simp only [Option.map_some, List.append_nil]
    rfl

theorem slotText?_of_unclosed {slot : WrittenSlot} (unclosed : slot.Unclosed) (after : List Char) :
    slotText? (slot.inner after) =
      some ⟨lowerName slot.name, slot.attributes, slot.content, after⟩ := by
  rw [Unclosed] at unclosed
  rw [slotText?_inner, unclosed]

theorem slotText?_of_closed {slot : WrittenSlot} (closed : ¬ slot.Unclosed) (after : List Char) :
    ∃ read, slotText? (slot.inner after) = some read ∧ read.content ≠ slot.content := by
  have read := slot.slotText?_inner after
  cases cut : cutAtClosing? (lowerName slot.name) slot.content with
  | none => exact absurd cut closed
  | some found =>
    obtain ⟨content, others⟩ := found
    rw [cut] at read
    refine ⟨_, read, fun same => ?_⟩
    obtain ⟨-, closing, -, -, longer⟩ := cutAtClosing?_eq_some cut
    have early : content = slot.content := same
    have size := congrArg List.length (early.trans longer)
    rw [List.length_append, List.length_cons] at size
    omega

theorem exists_of_slotText? {cs : List Char} {read : SlotText} (h : slotText? cs = some read) :
    ∃ slot : WrittenSlot, cs = slot.inner read.rest ∧ slot.Unclosed ∧
      read = ⟨lowerName slot.name, slot.attributes, slot.content, read.rest⟩ := by
  rw [slotText?] at h
  obtain ⟨⟨name, attributes, after⟩, opened, h⟩ := Option.bind_eq_some_iff.mp h
  obtain ⟨⟨content, rest⟩, cut, h⟩ := Option.bind_eq_some_iff.mp h
  cases h
  obtain ⟨isName, ends, noEnd, rfl⟩ := opening?_eq_some opened
  obtain ⟨unclosed, closing, isClosing, sameName, rfl⟩ := cutAtClosing?_eq_some cut
  exact ⟨⟨name, attributes, content, closing, isName, ends, noEnd, isClosing, sameName⟩, rfl,
    unclosed, rfl⟩

theorem length_lt_inner (slot : WrittenSlot) (after : List Char) :
    after.length < (slot.inner after).length := by
  simp only [inner, List.length_append, List.length_cons]
  omega

end WrittenSlot

def QuietBefore (after : List Char) : List Char → Prop
  | [] => True
  | c :: rest => (c = '<' → slotText? (rest ++ after) = none) ∧ QuietBefore after rest

theorem quietBefore_of_not_mem (after : List Char) {text : List Char} (h : '<' ∉ text) :
    QuietBefore after text := by
  induction text with
  | nil => trivial
  | cons c text ih =>
    refine ⟨?_, ih fun inside => h (List.mem_cons_of_mem c inside)⟩
    rintro rfl
    exact absurd List.mem_cons_self h

theorem quietBefore_or_slot (after text : List Char) :
    QuietBefore after text ∨ ∃ before rest read, text = before ++ '<' :: rest ∧
      QuietBefore ('<' :: (rest ++ after)) before ∧ slotText? (rest ++ after) = some read := by
  induction text with
  | nil => exact .inl trivial
  | cons c text ih =>
    by_cases begins : c = '<' ∧ ∃ read, slotText? (text ++ after) = some read
    · obtain ⟨rfl, read, found⟩ := begins
      exact .inr ⟨[], text, read, rfl, trivial, found⟩
    · have quiet (more : List Char) (same : more = text ++ after) :
          c = '<' → slotText? more = none := by
        rintro rfl
        cases found : slotText? more with
        | none => rfl
        | some read => exact absurd ⟨rfl, read, same ▸ found⟩ begins
      rcases ih with still | ⟨before, rest, read, rfl, still, found⟩
      · exact .inl ⟨quiet _ rfl, still⟩
      · exact .inr ⟨c :: before, rest, read, rfl, ⟨quiet _ (by simp), still⟩, found⟩

def textThen (text : List Char) (segments : List Segment) : List Segment :=
  if text.isEmpty then segments else .text text :: segments

theorem flush_reverse (text : List Char) (segments : List Segment) :
    flush text.reverse segments = textThen text segments := by
  rw [flush, textThen, List.reverse_reverse, List.isEmpty_reverse]

theorem textThen_inj {text : List Char} {segments others : List Segment} :
    textThen text segments = textThen text others ↔ segments = others := by
  cases text with
  | nil => exact Iff.rfl
  | cons c text =>
    show Segment.text (c :: text) :: segments = Segment.text (c :: text) :: others ↔ _
    exact List.cons_inj_right _

theorem textThen_ne (before : List Char) (c : Char) (rest : List Char) {slot : Segment}
    (isSlot : slot.isSlot = true) (segments others : List Segment) :
    textThen before (slot :: segments) ≠ textThen (before ++ c :: rest) others := by
  intro same
  cases before with
  | nil =>
    obtain ⟨rfl, -⟩ := List.cons.inj (same : slot :: segments = .text (c :: rest) :: others)
    cases isSlot
  | cons d before =>
    have first := (List.cons.inj (same : Segment.text (d :: before) :: slot :: segments =
      .text (d :: before ++ c :: rest) :: others)).1
    have size := congrArg List.length (Segment.text.inj first)
    rw [List.length_append, List.length_cons (a := c)] at size
    omega

/-- The name and the attributes of a slot. -/
def Segment.head? : Segment → Option (List Char × Option Attributes)
  | .text _ => none
  | .slot name attributes _ => some (name, attributes)

theorem heads_textThen (text : List Char) (segments : List Segment) :
    (textThen text segments).filterMap Segment.head? = segments.filterMap Segment.head? := by
  rw [textThen]
  split <;> rfl

theorem outcome_parseAttributes (cs : List Char) :
    (parseAttributes cs).outcome = attributesOf cs := by
  rw [parseAttributes, attributesOf, Attempt.outcome_bind, Attempt.outcome_ofExcept]
  cases readAttributes cs with
  | error failure => rfl
  | ok verdict => cases verdict <;> rfl

theorem segmentsFrom_quiet {after text : List Char} (h : QuietBefore after text)
    (pending : List Char) (steps : Nat) :
    segmentsFrom (text.length + steps) pending (text ++ after) =
      segmentsFrom steps (text.reverse ++ pending) after := by
  induction text generalizing pending with
  | nil => rw [List.length_nil, Nat.zero_add]; rfl
  | cons c text ih =>
    have none : (if c = '<' then slotText? (text ++ after) else none) = none := by
      split
      · next here => exact h.1 here
      · rfl
    rw [List.length_cons, Nat.add_right_comm, List.cons_append, segmentsFrom, none]
    dsimp only
    rw [ih h.2, List.reverse_cons, List.append_assoc]
    rfl

theorem segmentsFrom_slot {rest : List Char} {read : SlotText} (h : slotText? rest = some read)
    (text : List Char) (steps : Nat) :
    (segmentsFrom (steps + 1) text.reverse ('<' :: rest)).outcome =
      (attributesOf read.attributes).bind fun attributes =>
        (segmentsFrom steps [] read.rest).outcome.map fun others =>
          textThen text (.slot read.name attributes read.content :: others) := by
  rw [segmentsFrom, if_pos rfl, h]
  simp only [Attempt.outcome_bind, outcome_parseAttributes, flush_reverse]
  rfl

theorem segmentsFrom_last {text : List Char} (quiet : QuietBefore [] text) {steps : Nat}
    (le : text.length ≤ steps) : (segmentsFrom steps [] text).outcome = .ok (textThen text []) := by
  obtain ⟨more, rfl⟩ : ∃ n, steps = text.length + n := ⟨steps - text.length, by omega⟩
  have passed := segmentsFrom_quiet quiet [] more
  rw [List.append_nil, List.append_nil] at passed
  have ended : segmentsFrom more text.reverse [] = pure (flush text.reverse []) := by
    cases more <;> rfl
  rw [passed, ended, Attempt.outcome_pure, flush_reverse]

theorem segmentsFrom_first {before rest : List Char} {read : SlotText}
    (quiet : QuietBefore ('<' :: rest) before) (found : slotText? rest = some read) {steps : Nat}
    (le : (before ++ '<' :: rest).length ≤ steps) {segments : List Segment}
    (h : (segmentsFrom steps [] (before ++ '<' :: rest)).outcome = .ok segments) :
    ∃ attributes others,
      segments = textThen before (.slot read.name attributes read.content :: others) := by
  rw [List.length_append, List.length_cons] at le
  obtain ⟨more, rfl⟩ : ∃ n, steps = before.length + (n + 1) := ⟨steps - before.length - 1, by omega⟩
  rw [segmentsFrom_quiet quiet, List.append_nil, segmentsFrom_slot found] at h
  obtain ⟨attributes, -, behind⟩ := bind_eq_ok_iff.mp h
  obtain ⟨others, -, rfl⟩ := map_eq_ok_iff.mp behind
  exact ⟨attributes, others, rfl⟩

theorem segmentsFrom_ne {text after : List Char} (loud : ¬ QuietBefore after text) {steps : Nat}
    (le : (text ++ after).length ≤ steps) (others : List Segment) :
    (segmentsFrom steps [] (text ++ after)).outcome ≠ .ok (textThen text others) := by
  intro same
  rcases quietBefore_or_slot after text with quiet | ⟨before, rest, read, rfl, quiet, found⟩
  · exact absurd quiet loud
  · rw [List.append_assoc, List.cons_append] at le same
    obtain ⟨attributes, segments, whole⟩ := segmentsFrom_first quiet found le same
    exact textThen_ne before '<' rest rfl segments others whole.symm

/-- Plain texts, which may be empty, and slots by turns. -/
inductive Layout where
  | last (text : List Char)
  | next (text : List Char) (slot : WrittenSlot) (rest : Layout)

namespace Layout

def source : Layout → List Char
  | last text => text
  | next text slot rest => text ++ '<' :: slot.inner rest.source

def segments : Layout → Except Failure (List Segment)
  | last text => .ok (textThen text [])
  | next text slot rest => do
    let first ← slot.segment
    let others ← rest.segments
    pure (textThen text (first :: others))

def slots : Layout → List WrittenSlot
  | last _ => []
  | next _ slot rest => slot :: rest.slots

/-- No slot begins in a plain text, and none is closed within its content. -/
def Intact : Layout → Prop
  | last text => QuietBefore [] text
  | next text slot rest =>
    QuietBefore ('<' :: slot.inner rest.source) text ∧ slot.Unclosed ∧ rest.Intact

/-- The plain texts and the contents of the slots. -/
def parts : Layout → List (List Char)
  | last text => [text]
  | next text slot rest => text :: slot.content :: rest.parts

/-- Other plain texts and contents between the same tags. -/
def map (f : List Char → List Char) : Layout → Layout
  | last text => last (f text)
  | next text slot rest => next (f text) { slot with content := f slot.content } (rest.map f)

theorem segments_next_eq_ok_iff {text : List Char} {slot : WrittenSlot} {rest : Layout}
    {segments : List Segment} : (next text slot rest).segments = .ok segments ↔
      ∃ attributes others, attributesOf slot.attributes = .ok attributes ∧
        rest.segments = .ok others ∧ segments =
          textThen text (.slot (lowerName slot.name) attributes slot.content :: others) := by
  rw [Layout.segments, WrittenSlot.segment]
  cases attributesOf slot.attributes with
  | error failure => simp [Except.map, bind, Except.bind]
  | ok attributes =>
    cases rest.segments <;> simp [Except.map, bind, Except.bind, pure, Except.pure, eq_comm]

theorem segmentsFrom_source {l : Layout} (intact : l.Intact) {steps : Nat}
    (le : l.source.length ≤ steps) : (segmentsFrom steps [] l.source).outcome = l.segments := by
  induction l generalizing steps with
  | last text => exact segmentsFrom_last intact le
  | next text slot rest ih =>
    obtain ⟨quiet, unclosed, others⟩ := intact
    have shorter := slot.length_lt_inner rest.source
    rw [source, List.length_append, List.length_cons] at le
    obtain ⟨more, rfl⟩ : ∃ n, steps = text.length + (n + 1) :=
      ⟨steps - text.length - 1, by omega⟩
    rw [source, segmentsFrom_quiet quiet, List.append_nil,
      segmentsFrom_slot (WrittenSlot.slotText?_of_unclosed unclosed rest.source),
      ih others (by omega), segments, WrittenSlot.segment]
    cases attributesOf slot.attributes with
    | error failure => rfl
    | ok attributes => cases rest.segments <;> rfl

theorem intact_of_segmentsFrom {l : Layout} {steps : Nat} (le : l.source.length ≤ steps)
    {segments : List Segment} (own : l.segments = .ok segments)
    (same : (segmentsFrom steps [] l.source).outcome = .ok segments) : l.Intact := by
  induction l generalizing steps segments with
  | last text =>
    obtain rfl := Except.ok.inj own
    by_cases quiet : QuietBefore [] text
    · exact quiet
    · have whole : (text ++ []).length ≤ steps := by
        rw [List.append_nil]
        exact le
      have differs := segmentsFrom_ne quiet whole []
      rw [List.append_nil] at differs
      exact absurd same differs
  | next text slot rest ih =>
    obtain ⟨attributes, others, kept, ownRest, rfl⟩ := segments_next_eq_ok_iff.mp own
    rw [source] at le same
    by_cases quiet : QuietBefore ('<' :: slot.inner rest.source) text
    · have shorter := slot.length_lt_inner rest.source
      rw [List.length_append, List.length_cons] at le
      obtain ⟨more, rfl⟩ : ∃ n, steps = text.length + (n + 1) :=
        ⟨steps - text.length - 1, by omega⟩
      rw [segmentsFrom_quiet quiet, List.append_nil] at same
      by_cases unclosed : slot.Unclosed
      · rw [segmentsFrom_slot (WrittenSlot.slotText?_of_unclosed unclosed rest.source)] at same
        obtain ⟨_, -, read⟩ := bind_eq_ok_iff.mp same
        obtain ⟨found, readRest, whole⟩ := map_eq_ok_iff.mp read
        obtain ⟨-, rfl⟩ := List.cons.inj (textThen_inj.mp whole)
        exact ⟨quiet, unclosed, ih (by omega) ownRest readRest⟩
      · obtain ⟨read, found, early⟩ := WrittenSlot.slotText?_of_closed unclosed rest.source
        rw [segmentsFrom_slot found] at same
        obtain ⟨_, -, more⟩ := bind_eq_ok_iff.mp same
        obtain ⟨_, -, whole⟩ := map_eq_ok_iff.mp more
        exact absurd (Segment.slot.inj (List.cons.inj (textThen_inj.mp whole)).1).2.2 early
    · exact absurd same (segmentsFrom_ne quiet le _)

theorem plainSegments_source {l : Layout} (intact : l.Intact) :
    (plainSegments l.source).outcome = l.segments :=
  segmentsFrom_source intact (Nat.le_refl _)

theorem plainSegments_source_iff {l : Layout} {segments : List Segment}
    (own : l.segments = .ok segments) :
    (plainSegments l.source).outcome = .ok segments ↔ l.Intact := by
  refine ⟨intact_of_segmentsFrom (Nat.le_refl _) own, fun intact => ?_⟩
  rw [plainSegments_source intact, own]

theorem intact_of_parts {l : Layout} (h : ∀ part ∈ l.parts, '<' ∉ part) : l.Intact := by
  induction l with
  | last text => exact quietBefore_of_not_mem [] (h text List.mem_cons_self)
  | next text slot rest ih =>
    obtain ⟨inText, inContent, inRest⟩ := by
      simpa only [parts, List.forall_mem_cons] using h
    exact ⟨quietBefore_of_not_mem _ inText, cutAtClosing?_of_not_mem _ inContent, ih inRest⟩

/-- The names and the attributes of the slots do not depend on what stands between the tags. -/
theorem heads_map (l : Layout) (f : List Char → List Char) :
    (l.map f).segments.map (List.filterMap Segment.head?) =
      l.segments.map (List.filterMap Segment.head?) := by
  induction l with
  | last text =>
    exact congrArg Except.ok ((heads_textThen (f text) []).trans (heads_textThen text []).symm)
  | next text slot rest ih =>
    rw [map, segments, segments, WrittenSlot.segment, WrittenSlot.segment]
    cases attributesOf slot.attributes with
    | error failure => rfl
    | ok attributes =>
      cases filled : (rest.map f).segments with
      | error failure =>
        rw [filled] at ih
        rw [map_eq_error_iff.mp ih.symm]
        rfl
      | ok others =>
        rw [filled] at ih
        obtain ⟨plain, own, heads⟩ := map_eq_ok_iff.mp ih.symm
        rw [own]
        refine congrArg Except.ok ?_
        rw [heads_textThen, heads_textThen]
        exact congrArg (_ :: ·) heads.symm

theorem exists_intact (cs : List Char) : ∃ l : Layout, l.source = cs ∧ l.Intact := by
  rcases quietBefore_or_slot [] cs with quiet | ⟨before, rest, read, whole, quiet, found⟩
  · exact ⟨last cs, rfl, quiet⟩
  · rw [List.append_nil] at quiet found
    obtain ⟨slot, written, unclosed, -⟩ := WrittenSlot.exists_of_slotText? found
    have shorter : read.rest.length < cs.length := by
      rw [whole, written, List.length_append, List.length_cons]
      have inside := slot.length_lt_inner read.rest
      omega
    obtain ⟨l, same, intact⟩ := exists_intact read.rest
    rw [written] at whole quiet
    refine ⟨next before slot l, ?_, ?_, unclosed, intact⟩
    · rw [source, same, whole]
    · rw [same]
      exact quiet
termination_by cs.length

theorem mem_segments {l : Layout} {segments : List Segment} (own : l.segments = .ok segments)
    {segment : Segment} (h : segment ∈ segments) (isSlot : segment.isSlot = true) :
    ∃ slot ∈ l.slots, slot.segment = .ok segment := by
  have inRest {text : List Char} {segments : List Segment} (h : segment ∈ textThen text segments) :
      segment ∈ segments := by
    rw [textThen] at h
    split at h
    · exact h
    · rcases List.mem_cons.mp h with rfl | later
      · cases isSlot
      · exact later
  induction l generalizing segments with
  | last text =>
    obtain rfl := Except.ok.inj own
    cases inRest h
  | next text slot rest ih =>
    obtain ⟨attributes, others, kept, ownRest, rfl⟩ := segments_next_eq_ok_iff.mp own
    rcases List.mem_cons.mp (inRest h) with rfl | later
    · exact ⟨slot, List.mem_cons_self, by rw [WrittenSlot.segment, kept]; rfl⟩
    · obtain ⟨other, inside, same⟩ := ih ownRest later
      exact ⟨other, List.mem_cons_of_mem slot inside, same⟩

end Layout

theorem exists_writtenSlot {cs : List Char} {segments : List Segment}
    (read : Segmenter.segmentsOf cs = .ok segments) {segment : Segment} (h : segment ∈ segments)
    (isSlot : segment.isSlot = true) : ∃ slot : WrittenSlot, slot.segment = .ok segment := by
  rw [Segmenter.segmentsOf] at read
  split at read
  · obtain rfl := Except.ok.inj read
    rw [List.mem_singleton.mp h] at isSlot
    cases isSlot
  · obtain ⟨l, rfl, intact⟩ := Layout.exists_intact cs
    rw [Layout.plainSegments_source intact] at read
    obtain ⟨slot, -, same⟩ := Layout.mem_segments read h isSlot
    exact ⟨slot, same⟩

end Localization.Markup
