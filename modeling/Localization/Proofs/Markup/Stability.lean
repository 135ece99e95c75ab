import Localization.Proofs.Markup.Transparency
import Localization.Proofs.Markup.Unreadable

/-! # Plain texts hold no slots

Where a slot begins in a piece of a text, one begins at the same place of the whole text. So a plain
text between two slots is one plain text when it is segmented by itself, and the first opening tag
that a closing tag of its name follows is never missed.
-/
namespace Localization.Markup

open Text

/-- Somewhere in a text a name begins behind a `<` and is followed by `>`, a slash or a blank, a `>`
comes at or after the end of the name, and behind that `>` a closing tag of the name. -/
inductive HasPair (cs : List Char) : Prop
  | mk (before name middle content closing after : List Char) (isName : IsTagName name)
      (ends : ∀ c ∈ (middle ++ ['>']).head?, c = '>' ∨ c = '/' ∨ isBlank c = true)
      (sameName : lowerName closing = lowerName name)
      (here : cs = before ++ '<' :: (name ++ (middle ++ '>' ::
        (content ++ '<' :: '/' :: (closing ++ '>' :: after)))))

theorem endsName_iff {cs : List Char} :
    endsName cs = true ↔ ∀ c ∈ cs.head?, c = '>' ∨ c = '/' ∨ isBlank c = true := by
  cases cs with
  | nil => simp [endsName]
  | cons c rest => simp [endsName, or_assoc]

theorem WrittenSlot.hasPair (slot : WrittenSlot) (before after : List Char) :
    HasPair (before ++ '<' :: slot.inner after) :=
  ⟨before, slot.name, slot.attributes, slot.content, slot.closing, after, slot.isName,
    endsName_iff.mp slot.ends, slot.sameName, rfl⟩

theorem HasPair.exists_slot {cs : List Char} (h : HasPair cs) :
    ∃ before, ∃ slot : WrittenSlot, ∃ after, cs = before ++ '<' :: slot.inner after := by
  obtain ⟨before, name, middle, content, closing, after, isName, ends, sameName, here⟩ := h
  obtain ⟨attributes, rest, cut, noEnd⟩ : ∃ attributes rest,
      middle ++ ['>'] = attributes ++ '>' :: rest ∧ '>' ∉ attributes :=
    List.eq_append_cons_of_mem (by simp)
  have first : endsName (attributes ++ ['>']) = true := by
    rw [cut, ← endsName_iff, endsName_append] at ends
    exact ends
  refine ⟨before, ⟨name, attributes, rest ++ content, closing, isName, first, noEnd,
    isName.of_lowerName sameName, sameName⟩, after, ?_⟩
  have whole (more : List Char) : middle ++ '>' :: more = attributes ++ '>' :: (rest ++ more) := by
    simpa using congrArg (· ++ more) cut
  rw [here, whole, WrittenSlot.inner]
  simp

theorem slotText?_append {cs : List Char} {read : SlotText} (h : slotText? cs = some read)
    (after : List Char) : ∃ longer, slotText? (cs ++ after) = some longer := by
  obtain ⟨slot, written, unclosed, -⟩ := WrittenSlot.exists_of_slotText? h
  have whole : cs ++ after = slot.inner (read.rest ++ after) := by
    rw [written]
    simp [WrittenSlot.inner]
  rw [whole]
  exact ⟨_, WrittenSlot.slotText?_of_unclosed unclosed _⟩

theorem QuietBefore.alone {after text : List Char} (h : QuietBefore after text) :
    QuietBefore [] text := by
  induction text with
  | nil => trivial
  | cons c rest ih =>
    constructor
    · intro begins
      cases found : slotText? (rest ++ []) with
      | none => rfl
      | some read =>
        rw [List.append_nil] at found
        obtain ⟨longer, still⟩ := slotText?_append found after
        simp [h.1 begins] at still
    · exact ih h.2

theorem QuietBefore.slotText?_eq_none {after before rest : List Char}
    (h : QuietBefore after (before ++ '<' :: rest)) : slotText? (rest ++ after) = none := by
  induction before with
  | nil => exact h.1 rfl
  | cons c before ih => exact ih h.2

theorem not_quiet_of_hasPair {cs : List Char} (h : HasPair cs) : ¬ QuietBefore [] cs := by
  intro quiet
  obtain ⟨before, slot, after, rfl⟩ := h.exists_slot
  have none := quiet.slotText?_eq_none
  rw [List.append_nil, slot.slotText?_inner] at none
  split at none <;> cases none

theorem mem_textThen {text : List Char} {segments : List Segment} {segment : Segment} :
    segment ∈ textThen text segments ↔
      (text ≠ [] ∧ segment = .text text) ∨ segment ∈ segments := by
  cases text <;> simp [textThen]

namespace Layout

theorem quiet_of_mem {l : Layout} (intact : l.Intact) {segments : List Segment}
    (own : l.segments = .ok segments) {content : List Char} (h : .text content ∈ segments) :
    content ≠ [] ∧ QuietBefore [] content := by
  induction l generalizing segments with
  | last text =>
    obtain rfl := Except.ok.inj own
    rcases mem_textThen.mp h with ⟨nonempty, same⟩ | none
    · cases same
      exact ⟨nonempty, intact⟩
    · cases none
  | next text slot rest ih =>
    obtain ⟨quiet, -, others⟩ := intact
    obtain ⟨kept, found, -, ownRest, rfl⟩ := segments_next_eq_ok_iff.mp own
    rcases mem_textThen.mp h with ⟨nonempty, same⟩ | later
    · cases same
      exact ⟨nonempty, quiet.alone⟩
    · rcases List.mem_cons.mp later with isSlot | behind
      · cases isSlot
      · exact ih others ownRest behind

theorem exists_slot_iff {l : Layout} (intact : l.Intact) {segments : List Segment}
    (own : l.segments = .ok segments) :
    (∃ segment ∈ segments, segment.isSlot = true) ↔ HasPair l.source := by
  cases l with
  | last text =>
    obtain rfl := Except.ok.inj own
    constructor
    · rintro ⟨segment, inside, isSlot⟩
      rcases mem_textThen.mp inside with ⟨-, rfl⟩ | none
      · cases isSlot
      · cases none
    · intro pair
      exact absurd intact (not_quiet_of_hasPair pair)
  | next text slot rest =>
    obtain ⟨kept, found, -, -, rfl⟩ := segments_next_eq_ok_iff.mp own
    exact iff_of_true ⟨_, mem_textThen.mpr (.inr List.mem_cons_self), rfl⟩
      (slot.hasPair text rest.source)

theorem hasPair_of_mem {l : Layout} {slot : WrittenSlot} (h : slot ∈ l.slots) :
    HasPair l.source := by
  cases l with
  | last text => cases h
  | next text first rest => exact first.hasPair text rest.source

end Layout

namespace Segmenter

theorem segmentsOf_quiet {content : List Char} (nonempty : content ≠ [])
    (quiet : QuietBefore [] content) : segmentsOf content = .ok [.text content] := by
  unfold segmentsOf
  split
  · rfl
  · rw [plainSegments, segmentsFrom_last quiet (Nat.le_refl _)]
    simp [textThen, nonempty]

theorem value_hasSlots (capacity : Nat) (uses : List Use) (cs : List Char) :
    (((fresh capacity).afterUses uses).hasSlots cs).value.1 =
      (segmentsOf cs).map fun segments => segments.any Segment.isSlot := by
  have exact : Exact ((fresh capacity).afterUses uses) := all_afterUses ofScans_exact capacity uses
  rw [segmentsOf_eq_scanned]
  exact Reply.slots.inj (exact.reply (.hasSlots cs))

/-- However a segmenter was used before, a plain segment of a text that is not too long is the only
segment of its own content, in which no slot is found. The text has a slot exactly when a tag pair
stands in it. It has no segments at all exactly when the attributes of a slot cannot be read. -/
theorem texts_hold_no_slots (capacity : Nat) (uses : List Use) {cs : List Char}
    (short : cs.length ≤ maxTextLength) :
    let result := (((fresh capacity).afterUses uses).segment cs).value.1
    (∀ parsed, result = .ok parsed →
      (∀ content, .text content ∈ parsed.segments → ∀ again : List Use,
        (((fresh capacity).afterUses again).segment content).value.1.map Parsed.segments =
            .ok [.text content] ∧
          (((fresh capacity).afterUses again).hasSlots content).value.1 = .ok false) ∧
      ((∃ segment ∈ parsed.segments, segment.isSlot = true) ↔ HasPair cs)) ∧
      (result.isOk ↔ ¬ HasUnreadable cs) ∧ (HasUnreadable cs → HasPair cs) := by
  intro result
  have read : result.map Parsed.segments = segmentsOf cs := segments_segment capacity uses cs
  refine ⟨fun parsed given => ?_, ?_, ?_⟩
  · obtain ⟨l, rfl, intact⟩ := Layout.exists_intact cs
    rw [given, segmentsOf_of_le short, Layout.plainSegments_source intact] at read
    refine ⟨fun content inside again => ?_, Layout.exists_slot_iff intact read.symm⟩
    obtain ⟨nonempty, quiet⟩ := Layout.quiet_of_mem intact read.symm inside
    have alone := segmentsOf_quiet nonempty quiet
    exact ⟨(segments_segment ..).trans alone, by rw [value_hasSlots, alone]; rfl⟩
  · rw [← segmentsOf_isOk_iff short, ← read, isOk_map]
  · rintro ⟨l, rfl, -, slot, inside, -⟩
    exact Layout.hasPair_of_mem inside

/-- A tag that gets its `>` only from the slot behind it, and a closing tag that is none. -/
def tornTag : List Char := "1 < <b <i>2</i></ b>".toList

theorem tornTag_stable :
    tornTag.length ≤ maxTextLength ∧
      (∃ parsed : Parsed, (((fresh 2).afterUses [.segment []]).segment tornTag).value.1 = .ok parsed ∧
        .text "1 < <b ".toList ∈ parsed.segments) ∧
      (((fresh 2).afterUses [.segment tornTag]).segment "1 < <b ".toList).value.1.map
        Parsed.segments = .ok [.text "1 < <b ".toList] ∧
      HasPair tornTag := by
  have short : tornTag.length ≤ maxTextLength := by decide
  have own : (((fresh 2).afterUses [.segment []]).segment tornTag).value.1.map Parsed.segments =
      .ok [.text "1 < <b ".toList, .slot ['i'] none ['2'], .text "</ b>".toList] := by
    rw [segments_segment, segmentsOf_of_le short]
    rfl
  obtain ⟨parsed, given, whole⟩ := map_eq_ok_iff.mp own
  obtain ⟨stable, slots⟩ := (texts_hold_no_slots 2 [.segment []] short).1 parsed given
  have inside : .text "1 < <b ".toList ∈ parsed.segments := by simp [whole]
  refine ⟨short, ⟨parsed, given, inside⟩, (stable _ inside [.segment tornTag]).1, slots.mp ?_⟩
  exact ⟨.slot ['i'] none ['2'], by simp [whole], rfl⟩

/-- A tag pair stands in a link to a number, but no slot is found there. -/
theorem longLink_without_slot :
    longLink.length ≤ maxTextLength ∧ HasPair longLink ∧ ¬ ∃ parsed : Parsed,
      (((fresh parseCapacity).afterUses []).segment longLink).value.1 = .ok parsed ∧
        ∃ segment ∈ parsed.segments, segment.isSlot = true := by
  refine ⟨length_longLink, numberLink.hasPair [] [], ?_⟩
  rintro ⟨parsed, given, -⟩
  exact not_isOk_segment_longLink parseCapacity [] (by rw [given]; rfl)

end Segmenter

end Localization.Markup
