import Localization.Proofs.Negotiation.Matching
import Localization.Proofs.Negotiation.Preference

/-! # The locale for a header

The locale for a header is chosen for one of its ranges. Where all qualities are numbers it is the
best of those that a supported locale meets, and the first of the best; where none is met, the
default. A range of quality zero counts like any other, only after all that are wanted more: it
decides where no range of a greater quality is met.
-/
namespace Localization.Negotiation

open Number Text

/-- The range of a preference as a tag. -/
def Preference.tag (p : Preference) : String := String.ofList p.range

/-- The range is wanted at all: its quality is greater than zero. -/
def Preference.Wanted (p : Preference) : Prop := Binary64.zero.lt p.quality = true

instance (p : Preference) : Decidable p.Wanted := inferInstanceAs (Decidable (_ = true))

/-- The preferences of a header, in the order of its parts. -/
def asked (header : Option String) : List Preference := preferencesIn (header.getD "").toList

/-- The parts of a header that name a range. -/
def rangesOf (header : Option String) : List (List Char) :=
  (splitAt ',' (header.getD "").toList).filter namesRange

namespace Resolver

variable {r : Resolver}

/-- Some supported locale meets the range. -/
def IsMet (r : Resolver) (p : Preference) : Prop := ∃ locale, r.Meets p.tag locale

/-- A preference that is met while none that is better is, and none before it of the same
quality. -/
structure Decides (r : Resolver) (all : List Preference) (best : Preference) : Prop where
  met : r.IsMet best
  better : ∀ p ∈ all, best.quality.lt p.quality = true → ¬ r.IsMet p
  earlier : ∃ before after, all = before ++ best :: after ∧
    ∀ p ∈ before, p.quality.beq best.quality = true → ¬ r.IsMet p

theorem Decides.mem {all : List Preference} {best : Preference} (h : r.Decides all best) :
    best ∈ all := by
  obtain ⟨before, after, list, -⟩ := h.earlier
  rw [list]
  exact List.mem_append_right before List.mem_cons_self

/-- The locale of a header was found, and is not the default for want of one. -/
def Found (r : Resolver) (header : Option String) : Prop :=
  ∃ entry ∈ (r.resolve header).trace.log, entry.event = "resolved_from_header"

instance (header : Option String) : Decidable (r.Found header) :=
  inferInstanceAs (Decidable (∃ entry ∈ _, _))

/-- The supported locale for the first preference, from the best to the worst, that has one. -/
def bestFor? (r : Resolver) (header : Option String) : Option String :=
  (preferences (header.getD "").toList).findSome? fun p => r.match? p.tag

theorem bestMatch_eq (header : Option String) :
    r.bestMatch ((preferences (header.getD "").toList).map fun p => String.ofList p.range) =
      r.bestFor? header := by
  rw [bestMatch, List.findSome?_map]
  rfl

theorem value_resolve (header : Option String) :
    (r.resolve header).value = (r.bestFor? header).getD r.default := by
  rw [resolve, bestMatch_eq]
  cases r.bestFor? header <;> rfl

theorem found_iff {header : Option String} :
    r.Found header ↔ r.bestFor? header = some (r.resolve header).value := by
  rw [value_resolve, Found, resolve, bestMatch_eq]
  cases r.bestFor? header with
  | none => simp [log, Traced.log, Trace.empty]
  | some found => simp [log, Traced.log]

theorem exists_chosen {header : Option String} {locale : String}
    (h : r.bestFor? header = some locale) : ∃ p ∈ asked header, r.Chooses p.tag locale := by
  obtain ⟨p, inside, chosen⟩ := List.exists_of_findSome?_eq_some h
  exact ⟨p, (ranked_perm (asked header)).mem_iff.mp inside, match?_eq_some_iff.mp chosen⟩

theorem bestFor?_eq_none_iff {header : Option String} :
    r.bestFor? header = none ↔ ∀ p ∈ asked header, ¬ r.IsMet p := by
  rw [bestFor?, List.findSome?_eq_none_iff]
  refine forall_congr' fun p => imp_congr (ranked_perm (asked header)).mem_iff ?_
  rw [match?_eq_none_iff, IsMet, not_exists]

/-- A list of preferences up to one that is level with it: what is level with it and comes before
it in a ranking comes before it in the list. -/
theorem exists_split_of_filter {all front back : List Preference} {best : Preference}
    (number : best.quality.isNaN = false)
    (ties : (front ++ best :: back).filter (·.quality.beq best.quality) =
      all.filter (·.quality.beq best.quality)) :
    ∃ before after, all = before ++ best :: after ∧
      ∀ p ∈ before, p.quality.beq best.quality = true → p ∈ front := by
  have self : best.quality.beq best.quality = true := Binary64.beq_self number
  rw [List.filter_append, List.filter_cons, if_pos self] at ties
  obtain ⟨first, rest, rfl, level, others⟩ := List.filter_eq_append_iff.mp ties.symm
  obtain ⟨skipped, after, rfl, apart, -, -⟩ := List.filter_eq_cons_iff.mp others
  refine ⟨first ++ skipped, after, by simp, fun p inside same => ?_⟩
  rcases List.mem_append.mp inside with early | late
  · have listed : p ∈ first.filter (·.quality.beq best.quality) :=
      List.mem_filter.mpr ⟨early, same⟩
    rw [level] at listed
    exact (List.mem_filter.mp listed).1
  · exact absurd same (apart p late)

theorem exists_decides {header : Option String} (numeric : Numeric (header.getD "").toList)
    {locale : String} (h : r.bestFor? header = some locale) :
    ∃ best, r.Decides (asked header) best ∧ r.Chooses best.tag locale := by
  have order := numeric.inOrder
  obtain ⟨front, best, back, list, chosen, unmet⟩ := List.findSome?_eq_some_iff.mp h
  have inFront : ∀ p ∈ front, ¬ r.IsMet p := fun p early ⟨other, meets⟩ =>
    match?_eq_none_iff.mp (unmet p early) other meets
  have members : ∀ p, p ∈ front ++ best :: back ↔ p ∈ asked header := fun p =>
    list ▸ (ranked_perm (asked header)).mem_iff
  have number : best.quality.isNaN = false := numeric best ((members best).mp (by simp))
  refine ⟨best, ⟨⟨locale, (match?_eq_some_iff.mp chosen).meets⟩, fun p inside less => ?_, ?_⟩,
    match?_eq_some_iff.mp chosen⟩
  · rcases List.mem_append.mp ((members p).mpr inside) with early | late
    · exact inFront p early
    · -- What follows in the ranking is not better.
      have ordered := order.best
      rw [list] at ordered
      have notLess : best.quality.lt p.quality = false := by
        rcases List.mem_cons.mp late with rfl | after
        · exact Bool.eq_false_iff.mpr fun self =>
            Bool.false_ne_true ((Binary64.lt_asymm self).symm.trans self)
        · exact (List.pairwise_cons.mp (List.pairwise_append.mp ordered).2.1).1 p after
      exact absurd (notLess.symm.trans less) Bool.false_ne_true
  · have ties := order.ties best.quality
    rw [list] at ties
    obtain ⟨before, after, whole, level⟩ := exists_split_of_filter number ties
    exact ⟨before, after, whole, fun p early same => inFront p (level p early same)⟩

/-- Where all qualities are numbers, the locale for a header is chosen for the first of the best
ranges that a supported locale meets, and it is the default where no range is met. -/
theorem resolve_best (r : Resolver) (header : Option String)
    (numeric : Numeric (header.getD "").toList) :
    ((∀ p ∈ asked header, ¬ r.IsMet p) → (r.resolve header).value = r.default) ∧
      ((∃ p ∈ asked header, r.IsMet p) → ∃ best, r.Decides (asked header) best ∧
        r.Chooses best.tag (r.resolve header).value) ∧
      List.Forall₂ IsOf (rangesOf header) (asked header) ∧
      ∀ p ∈ asked header, p.tag ≠ "" ∧ p.tag ≠ "*" := by
  refine ⟨fun unmet => ?_, ?_, forall₂_preferencesIn _, fun p inside => ?_⟩
  · rw [value_resolve, bestFor?_eq_none_iff.mpr unmet]
    rfl
  · rintro ⟨p, inside, met⟩
    cases found : r.bestFor? header with
    | none => exact absurd met (bestFor?_eq_none_iff.mp found p inside)
    | some locale =>
      rw [value_resolve, found]
      exact exists_decides numeric found
  · obtain ⟨filled, other⟩ := range_counts inside
    constructor
    · intro same
      exact filled (by simpa [Preference.tag] using congrArg String.toList same)
    · intro same
      exact other (by simpa [Preference.tag] using congrArg String.toList same)

/-- Three supported locales, one of them also the default. -/
def three : Resolver := ⟨["en-US", "fr", "pl"], "en-US"⟩

/-- The best range is not supported, the next one is by its language, and the first one in the header
is the worst. -/
def polishFirst : String := "pl;q=0.3, de;q=0.9, fr-FR;q= 0.8"

theorem three_french : Numeric polishFirst.toList ∧
    ∃ best, three.Decides (asked (some polishFirst)) best ∧ three.Chooses best.tag "fr" := by
  have numeric : Numeric polishFirst.toList := by
    unfold Numeric
    decide +kernel
  have found : three.bestFor? (some polishFirst) = some "fr" := by decide +kernel
  obtain ⟨p, inside, chosen⟩ := exists_chosen found
  have best := (resolve_best three (some polishFirst) numeric).2.1
    ⟨p, inside, "fr", chosen.meets⟩
  rw [value_resolve, found] at best
  exact ⟨numeric, best⟩

/-- A locale that is found is met by some range of the header. Where all qualities are numbers,
the range that decides is wanted whenever any range is that is wanted and met. Each part is asked for
with the quality that it writes. -/
theorem found_wanted (r : Resolver) (header : Option String) (found : r.Found header) :
    (∃ p ∈ asked header, r.Meets p.tag (r.resolve header).value) ∧
      List.Forall₂ IsOf (rangesOf header) (asked header) ∧
      (Numeric (header.getD "").toList → ∃ best, r.Decides (asked header) best ∧
        r.Chooses best.tag (r.resolve header).value ∧
        (best.Wanted ∨ ∀ p ∈ asked header, p.Wanted → ¬ r.IsMet p)) := by
  have best := found_iff.mp found
  refine ⟨?_, forall₂_preferencesIn _, fun numeric => ?_⟩
  · obtain ⟨p, inside, chosen⟩ := exists_chosen best
    exact ⟨p, inside, chosen.meets⟩
  · obtain ⟨p, decides, chosen⟩ := exists_decides numeric best
    refine ⟨p, decides, chosen, ?_⟩
    by_cases wanted : p.Wanted
    · exact .inl wanted
    · have number : p.quality.isNaN = false := numeric p decides.mem
      refine .inr fun q inside also => decides.better q inside ?_
      exact (Binary64.lt_or_lt also number).resolve_left wanted

/-- English, which is also the default, and French. -/
def englishAndFrench : Resolver := ⟨["en", "fr"], "en"⟩

/-- A range that is wanted decides before one that is not. -/
theorem wanted_english : englishAndFrench.Found (some "fr;q=0,en;q=0.1") ∧
    Numeric "fr;q=0,en;q=0.1".toList ∧
    ∃ best, englishAndFrench.Decides (asked (some "fr;q=0,en;q=0.1")) best ∧
      englishAndFrench.Chooses best.tag "en" ∧
      (best.Wanted ∨
        ∀ p ∈ asked (some "fr;q=0,en;q=0.1"), p.Wanted → ¬ englishAndFrench.IsMet p) := by
  have found : englishAndFrench.Found (some "fr;q=0,en;q=0.1") := by decide +kernel
  have numeric : Numeric "fr;q=0,en;q=0.1".toList := by
    unfold Numeric
    decide +kernel
  have value : (englishAndFrench.resolve (some "fr;q=0,en;q=0.1")).value = "en" := by
    decide +kernel
  have best := (found_wanted englishAndFrench (some "fr;q=0,en;q=0.1") found).2.2 numeric
  rw [value] at best
  exact ⟨found, numeric, best⟩

/-- Where no range is wanted, French is found for a header that refuses it. -/
theorem refused_french_found : englishAndFrench.Found (some "fr;q=0") ∧
    (englishAndFrench.resolve (some "fr;q=0")).value = "fr" ∧
    ∀ p ∈ asked (some "fr;q=0"), ¬ p.Wanted := by
  decide +kernel

end Resolver

end Localization.Negotiation
