import Localization.Proofs.Markup.Quotation

/-! # Texts that cannot be segmented

An address is judged once its references are resolved, and a reference with too long a number cannot
be. The attributes of its tag are not read then, unless one before it is refused. No text with such
a slot is segmented, and every other one gets the segments of the definition.
-/
namespace Localization.Markup

open Text

/-- An address that cannot be judged stands among the attributes, and none before it is refused. -/
def Unreadable (cs : List Char) : Prop :=
  ∃ before name address after, scanAttributes cs = some (before ++ (name, address) :: after) ∧
    (∀ item ∈ before, refusalOf? item.1 item.2 = .ok none) ∧
    isEventName name = false ∧ isUrlName name = true ∧ HasLongReference address

/-- What ends in an error because of a number that is too long to be read. -/
def OfLongNumber (failure : Failure) : Prop :=
  ∃ count, failure = .digits count ∧ maxWholeDigits < count

theorem scanAttributes_of_blank {cs : List Char} (blank : cs.all isBlank = true) :
    scanAttributes cs = some [] := by
  rw [scanAttributes, occurrencesFrom_of_blank (List.all_eq_true.mp blank)]
  rfl

theorem refusalOf?_eq_error_iff {name value : List Char} {failure : Failure} :
    refusalOf? name value = .error failure ↔
      isEventName name = false ∧ isUrlName name = true ∧ unescape value = .error failure := by
  rw [refusalOf?]
  cases isEventName name with
  | true => simp
  | false =>
    cases isUrlName name with
    | false => simp
    | true => simp [isSafeUrl, cleanUrl, map_eq_error_iff]

/-- Whether one item is found after others of a kind is told by the first item, then by the rest. -/
theorem exists_first_cons {α : Type} {P Q : α → Prop} {first : α} {rest : List α} :
    (∃ before item after, first :: rest = before ++ item :: after ∧
      (∀ other ∈ before, P other) ∧ Q item) ↔
      Q first ∨ P first ∧ ∃ before item after, rest = before ++ item :: after ∧
        (∀ other ∈ before, P other) ∧ Q item := by
  constructor
  · rintro ⟨before, item, after, split, passed, found⟩
    cases before with
    | nil =>
      obtain ⟨rfl, -⟩ := List.cons.inj split
      exact .inl found
    | cons earlier before =>
      obtain ⟨rfl, rfl⟩ := List.cons.inj split
      obtain ⟨here, others⟩ := List.forall_mem_cons.mp passed
      exact .inr ⟨here, before, item, after, rfl, others, found⟩
  · rintro (found | ⟨here, before, item, after, rfl, others, found⟩)
    · exact ⟨[], first, rest, rfl, List.forall_mem_nil _, found⟩
    · exact ⟨first :: before, item, after, rfl, List.forall_mem_cons.mpr ⟨here, others⟩, found⟩

theorem refusal?_eq_error_iff {attributes : Attributes} {failure : Failure} :
    refusal? attributes = .error failure ↔ ∃ before item after,
      attributes = before ++ item :: after ∧
        (∀ other ∈ before, refusalOf? other.1 other.2 = .ok none) ∧
        refusalOf? item.1 item.2 = .error failure := by
  induction attributes with
  | nil => simp [refusal?]
  | cons first rest ih =>
    rw [exists_first_cons, ← ih, refusal?_cons]
    cases refusalOf? first.1 first.2 with
    | error other => simp [Except.bind]
    | ok verdict => cases verdict <;> simp [Except.bind]

theorem attributesOf_eq_error_iff {cs : List Char} {failure : Failure} :
    attributesOf cs = .error failure ↔
      ∃ attributes, scanAttributes cs = some attributes ∧ refusal? attributes = .error failure := by
  rw [attributesOf, map_eq_error_iff]
  cases blank : cs.all isBlank with
  | true => simp [readAttributes, blank, scanAttributes_of_blank blank, refusal?]
  | false =>
    cases scanned : scanAttributes cs <;> simp [readAttributes, blank, scanned, map_eq_error_iff]

theorem attributesOf_isOk_iff (cs : List Char) : (attributesOf cs).isOk ↔ ¬ Unreadable cs := by
  constructor
  · rintro done ⟨before, name, address, after, scanned, allowed, noEvent, isUrl, long⟩
    cases resolved : unescape address with
    | ok text => exact not_isOk_unescape long (by rw [resolved]; rfl)
    | error failure =>
      have failed := refusalOf?_eq_error_iff.mpr ⟨noEvent, isUrl, resolved⟩
      have first := refusal?_eq_error_iff.mpr ⟨before, (name, address), after, rfl, allowed, failed⟩
      rw [attributesOf_eq_error_iff.mpr ⟨_, scanned, first⟩] at done
      cases done
  · intro readable
    cases read : attributesOf cs with
    | ok attributes => rfl
    | error failure =>
      obtain ⟨attributes, scanned, failed⟩ := attributesOf_eq_error_iff.mp read
      obtain ⟨before, ⟨name, address⟩, after, rfl, allowed, failed⟩ :=
        refusal?_eq_error_iff.mp failed
      obtain ⟨noEvent, isUrl, unresolved⟩ := refusalOf?_eq_error_iff.mp failed
      exact absurd ⟨before, name, address, after, scanned, allowed, noEvent, isUrl,
        (unescape_error unresolved).1⟩ readable

theorem attributesOf_error {cs : List Char} {failure : Failure}
    (h : attributesOf cs = .error failure) : OfLongNumber failure := by
  obtain ⟨attributes, -, failed⟩ := attributesOf_eq_error_iff.mp h
  obtain ⟨before, item, after, -, -, failed⟩ := refusal?_eq_error_iff.mp failed
  exact (unescape_error (refusalOf?_eq_error_iff.mp failed).2.2).2

/-- A slot of a text has attributes that cannot be read. -/
def HasUnreadable (cs : List Char) : Prop :=
  ∃ l : Layout, l.source = cs ∧ l.Intact ∧ ∃ slot ∈ l.slots, Unreadable slot.attributes

namespace Layout

theorem segments_isOk_iff (l : Layout) :
    l.segments.isOk ↔ ∀ slot ∈ l.slots, ¬ Unreadable slot.attributes := by
  induction l with
  | last text => exact iff_of_true rfl (List.forall_mem_nil _)
  | next text slot rest ih =>
    rw [slots, List.forall_mem_cons, ← attributesOf_isOk_iff, ← ih, segments, WrittenSlot.segment]
    cases attributesOf slot.attributes with
    | error failure => exact iff_of_false Bool.false_ne_true fun both => Bool.false_ne_true both.1
    | ok attributes => cases rest.segments <;> simp [Except.map, bind, Except.bind, Except.isOk,
        Except.toBool, pure, Except.pure]

theorem segments_error {l : Layout} {failure : Failure} (h : l.segments = .error failure) :
    OfLongNumber failure := by
  induction l with
  | last text => cases h
  | next text slot rest ih =>
    rw [segments, WrittenSlot.segment] at h
    cases read : attributesOf slot.attributes with
    | error fault =>
      rw [read] at h
      cases h
      exact attributesOf_error read
    | ok attributes =>
      rw [read] at h
      cases others : rest.segments with
      | error fault =>
        rw [others] at h
        cases h
        exact ih others
      | ok found =>
        rw [others] at h
        cases h

end Layout

namespace Segmenter

theorem segmentsOf_isOk_iff {cs : List Char} (short : cs.length ≤ maxTextLength) :
    (segmentsOf cs).isOk ↔ ¬ HasUnreadable cs := by
  rw [segmentsOf_of_le short]
  have laid (l : Layout) (source : l.source = cs) (intact : l.Intact) :
      (plainSegments cs).outcome.isOk ↔ ∀ slot ∈ l.slots, ¬ Unreadable slot.attributes := by
    rw [← source, Layout.plainSegments_source intact, l.segments_isOk_iff]
  constructor
  · rintro done ⟨l, source, intact, slot, inside, unread⟩
    exact (laid l source intact).mp done slot inside unread
  · intro readable
    obtain ⟨l, source, intact⟩ := Layout.exists_intact cs
    exact (laid l source intact).mpr fun slot inside unread =>
      readable ⟨l, source, intact, slot, inside, unread⟩

theorem segmentsOf_error {cs : List Char} {failure : Failure}
    (h : segmentsOf cs = .error failure) : OfLongNumber failure := by
  rw [segmentsOf] at h
  split at h
  · cases h
  · obtain ⟨l, rfl, intact⟩ := Layout.exists_intact cs
    rw [Layout.plainSegments_source intact] at h
    exact Layout.segments_error h

/-- However a segmenter was used before, a text that is not too long gets the segments of the
definition, for which any number of steps will do that is not less than its length. It gets none
exactly when the attributes of a slot cannot be read, and then because of a number. -/
theorem segment_eq_plainSegments (capacity : Nat) (uses : List Use) (cs : List Char)
    (short : cs.length ≤ maxTextLength) :
    let result := (((fresh capacity).afterUses uses).segment cs).value.1
    result.map Parsed.segments = (plainSegments cs).outcome ∧
      (∀ steps, cs.length ≤ steps → segmentsFrom steps [] cs = plainSegments cs) ∧
      (result.isOk ↔ ¬ HasUnreadable cs) ∧
      ∀ failure, result = .error failure → OfLongNumber failure := by
  intro result
  have read : result.map Parsed.segments = segmentsOf cs := segments_segment capacity uses cs
  refine ⟨?_, ?_, ?_, ?_⟩
  · rw [read, segmentsOf_of_le short]
  · intro steps le
    rw [← scanSegments_eq cs le]
    exact scanSegments_eq cs (Nat.le_refl _)
  · rw [← segmentsOf_isOk_iff short, ← read, isOk_map]
  · intro failure unread
    rw [unread] at read
    exact segmentsOf_error read.symm

theorem segment_crossedTags :
    crossedTags.length ≤ maxTextLength ∧
      (((fresh 2).afterUses [.hasSlots crossedTags, .segment []]).segment
        crossedTags).value.1.map Parsed.segments =
        .ok [.text "<i>".toList, .slot ['b'] (some [(['x'], ['1'])]) "1<a>2".toList,
          .text "</a>".toList] := by
  have short : crossedTags.length ≤ maxTextLength := by decide
  refine ⟨short, (segment_eq_plainSegments 2 _ crossedTags short).1.trans ?_⟩
  rfl

end Segmenter

def hrefText (address : List Char) : List Char :=
  [' '] ++ ("href".toList ++ (([] ++ '=' :: ([] ++ '"' :: (address ++ ['"']))) ++ []))

theorem unreadable_hrefText {address : List Char} (noMark : '"' ∉ address)
    (long : HasLongReference address) : Unreadable (hrefText address) := by
  have noBlank : Blank [] := fun c inside => by cases inside
  have isName : IsAttributeName "href".toList :=
    ⟨by decide, List.all_eq_true.mp (by decide)⟩
  have written : Writes [("href".toList, address)] (hrefText address) :=
    .cons (List.forall_mem_singleton.mpr (by decide)) (List.cons_ne_nil _ _) isName
      (.quoted noBlank noBlank (by decide) noMark) .nil
  exact ⟨[], "href".toList, address, [], scanAttributes_of_writes written (by simp),
    fun _ => (nomatch ·), by decide, by decide, long⟩

def numberLink : WrittenSlot where
  name := ['a']
  attributes := hrefText longNumber
  content := ['x']
  closing := ['a']
  isName := ⟨⟨'a', [], rfl, by decide⟩, List.forall_mem_singleton.mpr (by decide)⟩
  ends := rfl
  noEnd := by simp [hrefText, not_mem_longNumber]
  isClosing := ⟨⟨'a', [], rfl, by decide⟩, List.forall_mem_singleton.mpr (by decide)⟩
  sameName := rfl

def longLink : List Char := '<' :: numberLink.inner []

theorem length_longLink : longLink.length ≤ maxTextLength := by
  simp [longLink, WrittenSlot.inner, numberLink, hrefText, longNumber, maxTextLength,
    -List.reduceReplicate]

theorem hasUnreadable_longLink : HasUnreadable longLink := by
  refine ⟨.next [] numberLink (.last []), rfl, ?_, numberLink, List.mem_cons_self,
    unreadable_hrefText (not_mem_longNumber (by decide)) (hasLongReference_longNumber [])⟩
  refine Layout.intact_of_parts ?_
  simp [Layout.parts, numberLink]

namespace Segmenter

theorem segmentsOf_longLink : ∃ failure, segmentsOf longLink = .error failure := by
  cases read : segmentsOf longLink with
  | error failure => exact ⟨failure, rfl⟩
  | ok segments =>
    have done : (segmentsOf longLink).isOk := by rw [read]; rfl
    exact absurd hasUnreadable_longLink ((segmentsOf_isOk_iff length_longLink).mp done)

theorem not_isOk_segment_longLink (capacity : Nat) (uses : List Use) :
    ¬ (((fresh capacity).afterUses uses).segment longLink).value.1.isOk := by
  rw [← isOk_map Parsed.segments, segments_segment, segmentsOf_isOk_iff length_longLink]
  exact not_not_intro hasUnreadable_longLink

/-- A link to a number has no segments, though it is not too long. -/
theorem longLink_unsegmented :
    longLink.length ≤ maxTextLength ∧
      ¬ (((fresh parseCapacity).afterUses []).segment longLink).value.1.isOk :=
  ⟨length_longLink, not_isOk_segment_longLink parseCapacity []⟩

end Segmenter

end Localization.Markup
