import Localization.Plural.Rule
import Localization.Proofs.Trace

/-! # Plural categories and magnitudes

The rules of all families but one go by the magnitude of a count. The family with one and other
compares the count itself with one, so that minus one counts as other there. No other sign changes
a category, and neither does the way in which a whole number is written.
-/
namespace Localization.Plural

open Number

namespace Count

theorem ofFloat_of_isIntegral {x : Binary64} (integral : x.isIntegral = true) :
    ∃ n, x.truncate? = some n ∧ ofFloat x = whole n := by
  cases x with
  | finite negative m e => exact ⟨_, rfl, by simp [ofFloat, integral, Binary64.truncate?]⟩
  | infinite negative => cases integral
  | nan => cases integral

theorem ofFloat_of_not_isIntegral {x : Binary64} (fractional : x.isIntegral = false) :
    ofFloat x = uncounted := by
  simp [ofFloat, fractional]

theorem isIntegral_negate (x : Binary64) : x.negate.isIntegral = x.isIntegral := by
  cases x <;> rfl

theorem isOne_whole {n : Int} : (whole n).isOne = true ↔ n = 1 :=
  beq_iff_eq

end Count

namespace Family

theorem category_congr {family : Family} {a b : Count} (alike : a.magnitude? = b.magnitude?)
    (ones : family = oneOther → a.isOne = b.isOne) : family.category a = family.category b := by
  cases family with
  | oneOther => rw [category, category, ones rfl]
  | otherOnly => rfl
  | _ => simp only [category, byMagnitude, alike]

theorem category_oneOther_eq_iff {a b : Count} :
    oneOther.category a = oneOther.category b ↔ a.isOne = b.isOne := by
  cases first : a.isOne <;> cases second : b.isOne <;> simp [category, first, second]

theorem category_neg_iff (family : Family) (n : Int) :
    family.category (.whole (-n)) = family.category (.whole n) ↔
      (family = oneOther → n.natAbs ≠ 1) := by
  have alike : (Count.whole (-n)).magnitude? = (Count.whole n).magnitude? :=
    congrArg some (Int.natAbs_neg n)
  have ones : (Count.whole (-n)).isOne = (Count.whole n).isOne ↔ n.natAbs ≠ 1 := by
    rw [Bool.eq_iff_iff, Count.isOne_whole, Count.isOne_whole]
    omega
  constructor
  · rintro same rfl
    exact ones.mp (category_oneOther_eq_iff.mp same)
  · exact fun apart => category_congr alike fun one => ones.mpr (apart one)

theorem refusal?_int (family : Family) (n : Int) : family.refusal? (.int n) = none := by
  cases family <;> rfl

theorem refusal?_float (family : Family) (x : Binary64) : family.refusal? (.float x) = none := by
  cases family <;> rfl

end Family

theorem value_category (locale : Option String) (count : Count) :
    (category locale count).value = (family locale).value.category count := by
  rw [category, Traced.value_bind, Traced.value_pure]

theorem trace_category (locale : Option String) (count : Count) :
    (category locale count).trace = (family locale).trace := by
  rw [category, Traced.trace_bind, Traced.trace_pure, Trace.append_empty]

/-- A value that is not refused has the category of its count, and nothing else is left behind
than what the look-up of the family leaves. -/
theorem categoryOfValue_of_count {locale : Option String} {value : Value} {count : Count}
    (counts : Count.ofValue? value = some count)
    (welcome : (family locale).value.refusal? value = none) :
    categoryOfValue locale value = liftM (category locale count) := by
  have outcome : (categoryOfValue locale value).outcome = .ok (category locale count).value := by
    rw [categoryOfValue, Attempt.outcome_bind, Attempt.outcome_liftM]
    simp only [Except.bind, welcome, counts, Option.getD_some, Attempt.outcome_pure,
      value_category]
  have trace : (categoryOfValue locale value).trace = (category locale count).trace := by
    rw [categoryOfValue, Attempt.trace_bind, Attempt.outcome_liftM, Attempt.trace_liftM,
      trace_category]
    simp only [welcome]
    exact Trace.append_empty _
  refine Attempt.ext ?_ ?_
  · rw [outcome, Attempt.outcome_liftM]
  · rw [trace, Attempt.trace_liftM]

theorem categoryOfValue_int (locale : Option String) (n : Int) :
    categoryOfValue locale (.int n) = liftM (category locale (.whole n)) :=
  categoryOfValue_of_count rfl (Family.refusal?_int _ n)

theorem categoryOfValue_float (locale : Option String) (x : Binary64) :
    categoryOfValue locale (.float x) = liftM (category locale (.ofFloat x)) :=
  categoryOfValue_of_count rfl (Family.refusal?_float _ x)

theorem liftM_category_eq_iff {locale : Option String} {a b : Count} :
    (liftM (category locale a) : Attempt Category) = liftM (category locale b) ↔
      (family locale).value.category a = (family locale).value.category b := by
  constructor
  · intro same
    have outcomes := congrArg Attempt.outcome same
    rw [Attempt.outcome_liftM, Attempt.outcome_liftM, value_category, value_category] at outcomes
    exact Except.ok.inj outcomes
  · intro same
    refine Attempt.ext ?_ ?_
    · rw [Attempt.outcome_liftM, Attempt.outcome_liftM, value_category, value_category, same]
    · rw [Attempt.trace_liftM, Attempt.trace_liftM, trace_category, trace_category]

/-- A whole number and its opposite have the same category, except that families with one and
other tell one from minus one. Numbers with a fraction have it always, and so has a whole number
however it is written. -/
theorem category_by_magnitude_iff (locale : Option String) :
    (∀ n : Int, categoryOfValue locale (.int (-n)) = categoryOfValue locale (.int n) ↔
      ((family locale).value = .oneOther → n.natAbs ≠ 1)) ∧
    (∀ x : Binary64, x.isIntegral = true → ∃ n, x.truncate? = some n ∧
      categoryOfValue locale (.float x) = categoryOfValue locale (.int n)) ∧
    ∀ x : Binary64, x.isIntegral = false →
      categoryOfValue locale (.float x.negate) = categoryOfValue locale (.float x) := by
  refine ⟨fun n => ?_, fun x integral => ?_, fun x fractional => ?_⟩
  · rw [categoryOfValue_int, categoryOfValue_int, liftM_category_eq_iff, Family.category_neg_iff]
  · obtain ⟨n, truncated, counts⟩ := Count.ofFloat_of_isIntegral integral
    refine ⟨n, truncated, ?_⟩
    rw [categoryOfValue_float, categoryOfValue_int, counts]
  · have opposite : x.negate.isIntegral = false := (Count.isIntegral_negate x).trans fractional
    rw [categoryOfValue_float, categoryOfValue_float, Count.ofFloat_of_not_isIntegral fractional,
      Count.ofFloat_of_not_isIntegral opposite]

theorem minusOne_by_magnitude :
    categoryOfValue (some "pl-PL") (.int (-1)) = categoryOfValue (some "pl-PL") (.int 1) ∧
      (Binary64.ofInt (-1)).isIntegral = true ∧
      (∃ n, (Binary64.ofInt (-1)).truncate? = some n ∧
        categoryOfValue (some "en") (.float (.ofInt (-1))) = categoryOfValue (some "en") (.int n)) ∧
      (Binary64.ofRatio true 3 2).isIntegral = false ∧
      categoryOfValue (some "cs") (.float (Binary64.ofRatio true 3 2).negate) =
        categoryOfValue (some "cs") (.float (.ofRatio true 3 2)) := by
  have polish : (family (some "pl-PL")).value = .polish := by decide +kernel
  have integral : (Binary64.ofInt (-1)).isIntegral = true := by decide +kernel
  have fractional : (Binary64.ofRatio true 3 2).isIntegral = false := by decide +kernel
  refine ⟨?_, integral, (category_by_magnitude_iff (some "en")).2.1 _ integral, fractional,
    (category_by_magnitude_iff (some "cs")).2.2 _ fractional⟩
  refine ((category_by_magnitude_iff (some "pl-PL")).1 1).mpr fun oneOther => ?_
  rw [polish] at oneOther
  cases oneOther

/-- In English one and minus one have two categories. -/
theorem minusOne_in_english :
    (categoryOfValue (some "en") (.int 1)).outcome = .ok .one ∧
      (categoryOfValue (some "en") (.int (-1))).outcome = .ok .other ∧
      categoryOfValue (some "en") (.int (-1)) ≠ categoryOfValue (some "en") (.int 1) := by
  have one : (categoryOfValue (some "en") (.int 1)).outcome = .ok .one :=
    ok_of_toOption (by decide +kernel)
  have other : (categoryOfValue (some "en") (.int (-1))).outcome = .ok .other :=
    ok_of_toOption (by decide +kernel)
  refine ⟨one, other, fun same => ?_⟩
  rw [same, one] at other
  cases other

end Localization.Plural
