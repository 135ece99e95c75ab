import Localization.Negotiation.Resolver

/-! # The locale for one tag

A supported locale meets a tag that it spells, case aside, and a tag of its language. A tag is met
exactly where one is chosen for it: the one that it spells and, of several spellings, the last; or
else the first of its language.
-/
namespace Localization.Negotiation.Resolver

open Text

variable {r : Resolver} {tag locale : String}

/-- A supported locale that a tag spells, case aside, or that has the language of the tag. -/
def Meets (r : Resolver) (tag locale : String) : Prop :=
  locale ∈ r.supported ∧
    (lowerString locale = lowerString tag ∨ Locale.languageOf locale = Locale.languageOf tag)

structure Spells (r : Resolver) (lowered locale : String) : Prop where
  same : lowerString locale = lowered
  place : ∃ before after, r.supported = before ++ locale :: after ∧
    ∀ other ∈ after, lowerString other ≠ lowered

/-- The first supported locale of a language. -/
structure Speaks (r : Resolver) (language locale : String) : Prop where
  same : Locale.languageOf locale = language
  place : ∃ before after, r.supported = before ++ locale :: after ∧
    ∀ other ∈ before, Locale.languageOf other ≠ language

/-- The supported locale that is chosen for a tag. -/
inductive Chooses (r : Resolver) (tag locale : String) : Prop
  | spelled (h : r.Spells (lowerString tag) locale)
  | spoken (unspelled : ∀ other ∈ r.supported, lowerString other ≠ lowerString tag)
      (h : r.Speaks (Locale.languageOf tag) locale)

theorem Spells.mem {lowered : String} (h : r.Spells lowered locale) : locale ∈ r.supported := by
  obtain ⟨before, after, list, -⟩ := h.place
  rw [list]
  exact List.mem_append_right before List.mem_cons_self

theorem Speaks.mem {language : String} (h : r.Speaks language locale) : locale ∈ r.supported := by
  obtain ⟨before, after, list, -⟩ := h.place
  rw [list]
  exact List.mem_append_right before List.mem_cons_self

theorem Chooses.meets (h : r.Chooses tag locale) : r.Meets tag locale := by
  cases h with
  | spelled h => exact ⟨h.mem, .inl h.same⟩
  | spoken _ h => exact ⟨h.mem, .inr h.same⟩

theorem canonical?_eq_some_iff {lowered : String} :
    r.canonical? lowered = some locale ↔ r.Spells lowered locale := by
  unfold canonical?
  rw [List.find?_eq_some_iff_append]
  constructor
  · rintro ⟨same, after, before, list, others⟩
    refine ⟨eq_of_beq same, before.reverse, after.reverse, ?_, fun other inside => ?_⟩
    · rw [← List.reverse_reverse r.supported, list]
      simp
    · simpa using others other (List.mem_reverse.mp inside)
  · rintro ⟨same, before, after, list, others⟩
    refine ⟨beq_iff_eq.mpr same, after.reverse, before.reverse, ?_, fun other inside => ?_⟩
    · rw [list]
      simp
    · simpa using others other (List.mem_reverse.mp inside)

theorem canonical?_eq_none_iff {lowered : String} :
    r.canonical? lowered = none ↔ ∀ other ∈ r.supported, lowerString other ≠ lowered := by
  simp [canonical?]

theorem find_language_eq_some_iff {language : String} :
    (r.supported.find? fun other => Locale.languageOf other == language) = some locale ↔
      r.Speaks language locale := by
  rw [List.find?_eq_some_iff_append]
  constructor
  · rintro ⟨same, before, after, list, others⟩
    refine ⟨eq_of_beq same, before, after, list, fun other inside => ?_⟩
    simpa using others other inside
  · rintro ⟨same, before, after, list, others⟩
    refine ⟨beq_iff_eq.mpr same, before, after, list, fun other inside => ?_⟩
    simpa using others other inside

theorem match?_eq_some_iff : r.match? tag = some locale ↔ r.Chooses tag locale := by
  unfold match?
  cases known : r.canonical? (lowerString tag) with
  | some found =>
    have spelled := canonical?_eq_some_iff.mp known
    constructor
    · intro same
      exact .spelled (Option.some.inj same ▸ spelled)
    · rintro (h | ⟨unspelled, -⟩)
      · exact known.symm.trans (canonical?_eq_some_iff.mpr h)
      · exact absurd spelled.same (unspelled found spelled.mem)
  | none =>
    have unspelled := canonical?_eq_none_iff.mp known
    rw [find_language_eq_some_iff]
    constructor
    · exact .spoken unspelled
    · rintro (h | ⟨-, h⟩)
      · exact absurd h.same (unspelled locale h.mem)
      · exact h

theorem match?_eq_none_iff : r.match? tag = none ↔ ∀ locale, ¬ r.Meets tag locale := by
  unfold match?
  cases known : r.canonical? (lowerString tag) with
  | some found =>
    have spelled := canonical?_eq_some_iff.mp known
    refine iff_of_false (Option.some_ne_none found) fun unmet => ?_
    exact unmet found ⟨spelled.mem, .inl spelled.same⟩
  | none =>
    have unspelled := canonical?_eq_none_iff.mp known
    rw [List.find?_eq_none]
    constructor
    · rintro foreign locale ⟨inside, same | same⟩
      · exact unspelled locale inside same
      · exact foreign locale inside (beq_iff_eq.mpr same)
    · intro unmet locale inside same
      exact unmet locale ⟨inside, .inr (eq_of_beq same)⟩

end Localization.Negotiation.Resolver
