import Localization.Proofs.Markup.Layout
import Localization.Proofs.Markup.Url

/-! # The attributes of a slot are safe

A slot has no attributes, or it has some with distinct names, none of them that of an event
handler and no address among them with a scheme that is not safe. So whatever is written in
a tag, a renderer gets safe attributes or none.
-/
namespace Localization.Markup

open Text

/-- Attributes that do no harm in an element. -/
structure SafeAttributes (attributes : Attributes) : Prop where
  nonempty : attributes ≠ []
  distinct : (attributes.map Prod.fst).Nodup
  words : ∀ item ∈ attributes, item.1 ≠ [] ∧ ∀ c ∈ item.1, isAttributeNameChar c = true
  noEvent : ∀ item ∈ attributes, ¬ "on".toList <+: item.1.map Char.toLower
  addresses : ∀ item ∈ attributes, String.ofList (item.1.map Char.toLower) ∈ urlNames →
    ∃ resolved, unescape item.2 = .ok resolved ∧ ∀ reading ∈ [item.2, resolved], ∀ scheme,
      browserScheme? reading = some scheme → String.ofList (scheme.map Char.toLower) ∈ safeSchemes

def IsAttributeName (name : List Char) : Prop :=
  name ≠ [] ∧ ∀ c ∈ name, isAttributeNameChar c = true

theorem IsAttributeName.lower {name : List Char} (h : IsAttributeName name) :
    lower name = name.map Char.toLower := by
  refine lower_of_ascii fun c inside => ?_
  have allowed := h.2 c inside
  simp only [isAttributeNameChar, Bool.or_eq_true, beq_iff_eq] at allowed
  rcases allowed with (((word | rfl) | rfl) | rfl) | rfl
  · exact toNat_lt_of_isAlphanum word
  all_goals decide

theorem readAttribute?_name {c : Char} {cs rest : List Char} {item : List Char × List Char}
    (begins : isAttributeNameChar c = true) (h : readAttribute? (c :: cs) = some (item, rest)) :
    IsAttributeName item.1 := by
  have name : IsAttributeName ((c :: cs).takeWhile isAttributeNameChar) := by
    refine ⟨?_, List.all_eq_true.mp List.all_takeWhile⟩
    rw [List.takeWhile_cons, if_pos begins]
    exact List.cons_ne_nil _ _
  rw [readAttribute?] at h
  split at h
  · obtain ⟨_, _, same⟩ := Option.map_eq_some_iff.mp h
    obtain ⟨rfl, -⟩ := Prod.mk.inj same
    exact name
  · obtain ⟨rfl, -⟩ := Prod.mk.inj (Option.some.inj h)
    exact name

theorem occurrencesFrom_names {steps : Nat} {cs : List Char} {occurrences : Attributes}
    (h : occurrencesFrom steps cs = some occurrences) :
    ∀ item ∈ occurrences, IsAttributeName item.1 := by
  induction steps generalizing cs occurrences with
  | zero =>
    obtain rfl := Option.some.inj h
    exact fun item inside => by cases inside
  | succ steps ih =>
    cases cs with
    | nil =>
      obtain rfl := Option.some.inj h
      exact fun item inside => by cases inside
    | cons c rest =>
      rw [occurrencesFrom] at h
      split at h
      · next begins =>
        split at h
        · next first after read =>
          obtain ⟨more, found, rfl⟩ := Option.map_eq_some_iff.mp h
          intro item inside
          rcases List.mem_cons.mp inside with rfl | later
          · exact readAttribute?_name begins read
          · exact ih found item later
        · cases h
      · exact ih h

theorem keepFirst_spec (occurrences : Attributes) :
    ((keepFirst occurrences).map Prod.fst).Nodup ∧
      ∀ item ∈ keepFirst occurrences, item ∈ occurrences := by
  suffices run : ∀ (items kept : Attributes), (kept.map Prod.fst).Nodup →
      (∀ item ∈ kept, item ∈ occurrences) → (∀ item ∈ items, item ∈ occurrences) →
      let result := items.foldl (fun kept item =>
        if kept.any (fun other => other.1 == item.1) then kept else kept ++ [item]) kept
      (result.map Prod.fst).Nodup ∧ ∀ item ∈ result, item ∈ occurrences from
    run occurrences [] List.nodup_nil (fun item inside => by cases inside) fun _ => id
  intro items
  induction items with
  | nil => exact fun kept distinct old _ => ⟨distinct, old⟩
  | cons item items ih =>
    intro kept distinct old new
    have others : ∀ other ∈ items, other ∈ occurrences :=
      fun other inside => new other (List.mem_cons_of_mem item inside)
    rw [List.foldl_cons]
    split
    · exact ih kept distinct old others
    · next unseen =>
      refine ih (kept ++ [item]) ?_ ?_ others
      · rw [List.map_append, List.nodup_append]
        refine ⟨distinct, List.nodup_cons.mpr ⟨List.not_mem_nil, List.nodup_nil⟩, ?_⟩
        intro name before last inside same
        obtain ⟨other, there, rfl⟩ := List.mem_map.mp before
        have isLast : last = item.1 := List.mem_singleton.mp inside
        have seen : kept.any (fun other => other.1 == item.1) = true :=
          List.any_eq_true.mpr ⟨other, there, beq_iff_eq.mpr (same.trans isLast)⟩
        exact unseen seen
      · intro other inside
        rcases List.mem_append.mp inside with before | last
        · exact old other before
        · rw [List.mem_singleton.mp last]
          exact new item List.mem_cons_self

theorem refusalOf?_eq_ok_none_iff {name value : List Char} :
    refusalOf? name value = .ok none ↔
      isEventName name = false ∧ (isUrlName name = true → isSafeUrl value = .ok true) := by
  rw [refusalOf?]
  cases isEventName name with
  | true => simp
  | false =>
    cases isUrlName name with
    | false => simp
    | true =>
      cases judged : isSafeUrl value with
      | error failure => simp [Except.map]
      | ok safe => cases safe <;> simp [Except.map]

theorem refusal?_cons (item : List Char × List Char) (rest : Attributes) :
    refusal? (item :: rest) = (refusalOf? item.1 item.2).bind fun first =>
      if first = none then refusal? rest else .ok first := by
  rw [refusal?]
  cases refusalOf? item.1 item.2 with
  | error failure => rfl
  | ok first => cases first <;> rfl

theorem refusal?_eq_ok_none_iff {attributes : Attributes} :
    refusal? attributes = .ok none ↔ ∀ item ∈ attributes, isEventName item.1 = false ∧
      (isUrlName item.1 = true → isSafeUrl item.2 = .ok true) := by
  induction attributes with
  | nil => simp [refusal?]
  | cons item rest ih =>
    rw [refusal?_cons, List.forall_mem_cons, ← ih, ← refusalOf?_eq_ok_none_iff]
    cases refusalOf? item.1 item.2 with
    | error failure => simp [Except.bind]
    | ok first => cases first <;> simp [Except.bind]

theorem attributesOf_eq_ok_some_iff {cs : List Char} {attributes : Attributes} :
    attributesOf cs = .ok (some attributes) ↔ cs.all isBlank = false ∧
      scanAttributes cs = some attributes ∧ refusal? attributes = .ok none ∧ attributes ≠ [] := by
  rw [attributesOf, map_eq_ok_iff]
  constructor
  · rintro ⟨verdict, read, kept⟩
    rw [readAttributes] at read
    split at read
    · obtain rfl := Except.ok.inj read
      cases kept
    · next notBlank =>
      split at read
      · obtain rfl := Except.ok.inj read
        cases kept
      · next scanned found =>
        obtain ⟨judged, allowed, rfl⟩ := map_eq_ok_iff.mp read
        cases judged with
        | some refusal => cases kept
        | none =>
          cases scanned with
          | nil => cases kept
          | cons item rest =>
            obtain rfl := Option.some.inj kept
            exact ⟨Bool.eq_false_iff.mpr notBlank, found, allowed, List.cons_ne_nil _ _⟩
  · rintro ⟨notBlank, scanned, allowed, nonempty⟩
    refine ⟨.kept (some attributes), ?_, rfl⟩
    have some : attributes.isEmpty = false := List.isEmpty_eq_false_iff.mpr nonempty
    rw [readAttributes, notBlank, if_neg Bool.false_ne_true, scanned]
    simp only [allowed, some]
    rfl

theorem attributesOf_safe {cs : List Char} {attributes : Attributes}
    (h : attributesOf cs = .ok (some attributes)) : SafeAttributes attributes := by
  obtain ⟨-, scanned, allowed, nonempty⟩ := attributesOf_eq_ok_some_iff.mp h
  obtain ⟨occurrences, listed, rfl⟩ := Option.map_eq_some_iff.mp scanned
  obtain ⟨distinct, old⟩ := keepFirst_spec occurrences
  have names : ∀ item ∈ keepFirst occurrences, IsAttributeName item.1 :=
    fun item inside => occurrencesFrom_names listed item (old item inside)
  have judged := refusal?_eq_ok_none_iff.mp allowed
  refine ⟨nonempty, distinct, names, ?_, ?_⟩
  · intro item inside event
    have refused := (judged item inside).1
    rw [isEventName, (names item inside).lower, List.isPrefixOf_iff_prefix.mpr event] at refused
    cases refused
  · intro item inside address
    refine safe_of_browserScheme? ((judged item inside).2 ?_)
    rw [isUrlName, (names item inside).lower]
    exact List.contains_iff_mem.mpr address

namespace Segmenter

/-- The attributes of the slots of a text are safe, however the segmenter was used before. -/
theorem slot_attributes_safe (capacity : Nat) (uses : List Use) {cs name content : List Char}
    {attributes : Attributes} {parsed : Parsed}
    (given : (((fresh capacity).afterUses uses).segment cs).value.1 = .ok parsed)
    (h : Segment.slot name (some attributes) content ∈ parsed.segments) :
    SafeAttributes attributes := by
  have read := segments_segment capacity uses cs
  rw [given] at read
  obtain ⟨slot, same⟩ := exists_writtenSlot read.symm h rfl
  obtain ⟨kept, own, whole⟩ := map_eq_ok_iff.mp same
  obtain ⟨-, rfl, -⟩ := Segment.slot.inj whole
  exact attributesOf_safe own

/-- An address whose scheme is hidden by a control character, a line end and its case. -/
def hiddenScheme : List Char := "<a Title=x HREF='\x01 ht\ntPs:y' href=#>z</a>".toList

theorem hiddenScheme_safe :
    let attributes : Attributes := [("Title".toList, ['x']),
      ("HREF".toList, "\x01 ht\ntPs:y".toList), ("href".toList, ['#'])]
    (∃ parsed : Parsed, (((fresh 2).afterUses [.hasSlots hiddenScheme]).segment
        hiddenScheme).value.1 = .ok parsed ∧
      Segment.slot ['a'] (some attributes) ['z'] ∈ parsed.segments) ∧
      SafeAttributes attributes := by
  intro attributes
  have read : (((fresh 2).afterUses [.hasSlots hiddenScheme]).segment hiddenScheme).value.1.map
      Parsed.segments = .ok [.slot ['a'] (some attributes) ['z']] := by
    rw [segments_segment, segmentsOf_of_le (by decide)]
    rfl
  obtain ⟨parsed, given, whole⟩ := map_eq_ok_iff.mp read
  have inside : Segment.slot ['a'] (some attributes) ['z'] ∈ parsed.segments := by
    rw [whole]
    exact List.mem_singleton_self _
  exact ⟨⟨parsed, given, inside⟩, slot_attributes_safe 2 [.hasSlots hiddenScheme] given inside⟩

end Segmenter

end Localization.Markup
