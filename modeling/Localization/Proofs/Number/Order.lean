import Localization.Number.Binary64

/-! # The order of binary numbers

Numbers are compared by their values. Of two numbers at most one is less, and a number in between
is on one side of two that differ. What is not a number compares with nothing, and that is why it
has no place in this order.
-/
namespace Localization.Number.Binary64

theorem lt_asymm {x y : Binary64} (h : x.lt y = true) : y.lt x = false := by
  cases x with
  | finite s m e =>
    cases y with
    | finite t n f =>
      simp only [lt, decide_eq_true_eq, decide_eq_false_iff_not] at h ⊢
      omega
    | infinite t => simp_all [lt]
    | nan => rfl
  | infinite s =>
    cases y with
    | finite t n f => simp_all [lt]
    | infinite t => simp_all [lt]
    | nan => rfl
  | nan => cases h

/-- A number that is put between two others is greater than the one or less than the other. -/
theorem lt_or_lt {x z : Binary64} (h : x.lt z = true) {y : Binary64} (number : y.isNaN = false) :
    x.lt y = true ∨ y.lt z = true := by
  cases y with
  | nan => cases number
  | finite t n f =>
    cases x with
    | nan => cases h
    | finite s m e =>
      cases z with
      | nan => cases h
      | finite u k g =>
        simp only [lt, decide_eq_true_eq] at h ⊢
        omega
      | infinite u => exact .inr h
    | infinite s => cases z <;> simp_all [lt]
  | infinite t =>
    cases x <;> cases z <;> cases t <;> simp_all [lt]

theorem beq_self {x : Binary64} (number : x.isNaN = false) : x.beq x = true := by
  cases x with
  | nan => cases number
  | _ => simp [beq]

/-- Numbers that are equal to one number are not less than each other. -/
theorem not_lt_of_beq {x y z : Binary64} (h : x.beq z = true) (also : y.beq z = true) :
    x.lt y = false := by
  cases x <;> cases z <;> cases y <;> simp_all [lt, beq]

end Localization.Number.Binary64
