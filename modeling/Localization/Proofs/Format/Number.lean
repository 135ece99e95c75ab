import Localization.Format.Number
import Localization.Proofs.Number.Precision

/-! # Numbers that a format can show

A form rounds a number to twenty-eight digits and then to its last place, and has no text for a
number that needs more digits there. A form without a limit keeps all digits of a fraction; where
it can do without a fraction it reads these digits as one whole number, and a text of too many
digits is none. A short form reduces the number by a power of ten first, so that it reaches
further than the others.
-/
namespace Localization.Locale

def Conventions.compactPlaces (conventions : Conventions) : Int :=
  match conventions.compact with
  | [] => conventions.decimal.maxFraction
  | row :: _ => row.places

end Localization.Locale

namespace Localization.Format

open Number Text Localization.Locale

theorem fixedText_length (n places : Nat) : (Decimal.fixedText n (-places)).2.length = places := by
  rw [Decimal.fixedText]
  split_ifs with whole
  · simp only [List.length_nil]
    omega
  · simp only [List.length_drop, List.length_append, List.length_replicate]
    omega

theorem fractionText_isOk (form : NumberForm) (places : Nat) (point digits : List Char) :
    (fractionText form places point digits).isOk ↔
      (places ≠ 0 → form.minFraction = 0 → max 1 digits.length ≤ maxWholeDigits) := by
  obtain ⟨shown, count, text⟩ : ∃ shown : List Char, shown.length = max 1 digits.length ∧
      (if digits.isEmpty then ['0'] else digits) = shown := by
    cases digits with
    | nil => exact ⟨['0'], rfl, rfl⟩
    | cons first rest => exact ⟨first :: rest, by simp, rfl⟩
  rw [fractionText, text]
  by_cases none : places = 0
  · rw [if_pos none]
    exact iff_of_true rfl fun some => absurd none some
  · rw [if_neg none]
    by_cases free : form.minFraction = 0
    · have padded : shown ++ List.replicate (form.minFraction - shown.length) '0' = shown := by
        simp [free]
      rw [padded]
      by_cases long : maxWholeDigits < shown.length
      · rw [if_pos (by simp [free, long])]
        exact iff_of_false nofun fun fits => absurd (count ▸ fits none free) (not_le.mpr long)
      · rw [if_neg (by simp [long])]
        refine iff_of_true ?_ fun _ _ => count ▸ not_lt.mp long
        split <;> rfl
    · rw [if_neg (by simp [free])]
      refine iff_of_true ?_ fun _ zero => absurd zero free
      split <;> rfl

def NumberForm.places (form : NumberForm) (e : Int) : Nat :=
  if form.limited then form.maxFraction else max form.maxFraction (-e).toNat

theorem digitsText_isOk (form : NumberForm) (conventions : Conventions) (negative : Bool) {c : Nat}
    {g : Int} (short : c < 10 ^ 28) :
    (digitsText form conventions (.finite negative c g)).isOk ↔
      amount c (g + form.places g) < 10 ^ 28 ∧
        (form.minFraction = 0 → form.places g ≤ maxWholeDigits) := by
  have room : (Decimal.quantize c g (-(form.places g : Int))).isOk ↔
      amount c (g + form.places g) < 10 ^ 28 := by
    rw [Decimal.quantize_isOk short, sub_neg_eq_add]
  rw [← room]
  cases rounded : Decimal.quantize c g (-(form.places g : Int)) with
  | error fault =>
    have failed : digitsText form conventions (.finite negative c g) = .error fault := by
      rw [digitsText, ← NumberForm.places, rounded]
    rw [failed]
    exact iff_of_false nofun fun both => nomatch both.1
  | ok q =>
    have done : digitsText form conventions (.finite negative c g) =
        (fractionText form (form.places g) conventions.decimalPoint.toList
          (Decimal.fixedText q (-(form.places g : Int))).2).map
            (wholeText form conventions.groupMark.toList
              (Decimal.fixedText q (-(form.places g : Int))).1 ++ ·) := by
      rw [digitsText, ← NumberForm.places, rounded]
    rw [done, isOk_map, fractionText_isOk, fixedText_length]
    refine Iff.trans ?_ (and_iff_right rfl).symm
    constructor
    · intro fits free
      by_cases none : form.places g = 0
      · exact none ▸ Nat.zero_le _
      · exact (le_max_right _ _).trans (fits none free)
    · intro fits none free
      exact max_le (by decide) (fits free)

section Form

variable (form : NumberForm) (conventions : Conventions)

theorem apply_eq_error {d : Decimal} {fault : ArithmeticFault}
    (failed : d.shift form.scale = .error fault) : form.apply conventions d = .error fault := by
  rw [NumberForm.apply, failed]

/-- Affixes are put around whatever digits there are. -/
theorem apply_isOk {d shifted size : Decimal} (moved : d.shift form.scale = .ok shifted)
    (sized : shifted.magnitude = .ok size) :
    (form.apply conventions d).isOk = (digitsText form conventions size).isOk := by
  rw [NumberForm.apply, moved]
  dsimp only
  rw [sized]
  dsimp only
  cases digitsText form conventions size <;> rfl

theorem apply_infinite_isOk (negative : Bool) :
    (form.apply conventions (.infinite negative)).isOk := by
  rw [apply_isOk form conventions rfl rfl]
  rfl

theorem apply_nan_isOk (negative signaling : Bool) (payload : Nat) :
    (form.apply conventions (.nan negative signaling payload)).isOk ↔ signaling = false := by
  cases signaling with
  | true => exact iff_of_false (by rw [apply_eq_error form conventions rfl]; nofun) nofun
  | false =>
    refine iff_of_true ?_ rfl
    rw [apply_isOk form conventions rfl rfl, digitsText, isOk_map, fractionText_isOk]
    intro _ _
    decide

theorem amount_places_iff {c : Nat} {g : Int} (short : c < 10 ^ 28) :
    amount c (g + form.places g) < 10 ^ 28 ↔ amount c (g + form.maxFraction) < 10 ^ 28 := by
  rw [NumberForm.places]
  split
  · rfl
  · rcases le_or_gt (-g).toNat form.maxFraction with fewer | more
    · rw [max_eq_left fewer]
    · -- All digits stand after the point or nearer to it, and there are few enough of them.
      have all : ∀ places : Int, places ≤ -g → amount c (g + places) < 10 ^ 28 := by
        intro places le
        have less : amount c (g + places) < 10 ^ (28 : Int) := amount_lt_of_le short (by omega)
        exact_mod_cast less
      exact iff_of_true (all _ (by omega)) (all _ (by omega))

/-- A form has a text for a finite number that fits at the last place, unless a fraction that it
can do without is too long. -/
theorem apply_finite_isOk (negative : Bool) (n : Nat) (e : Int) :
    (form.apply conventions (.finite negative n e)).isOk ↔
      (Decimal.finite negative n e).Fits (form.scale + form.maxFraction) ∧
        ∀ c g, (Decimal.finite negative n (e + form.scale)).magnitude = .ok (.finite false c g) →
          form.minFraction = 0 → form.places g ≤ maxWholeDigits := by
  have few := form.few
  obtain ⟨fault, failed, large⟩ | ⟨c, g, moved, done, fits⟩ :=
    Decimal.shift_finite negative n e form.scale
  · rw [apply_eq_error form conventions failed]
    exact iff_of_false nofun fun both => large _ (by omega) both.1
  · obtain ⟨c', g', size, sized, short, same, -⟩ := Decimal.magnitude_finish done
    rw [apply_isOk form conventions moved sized, digitsText_isOk form conventions false short,
      amount_places_iff form short, amount_add_congr same, fits _ (by omega), size]
    refine and_congr_right fun _ => ?_
    constructor
    · rintro fits _ _ ⟨⟩
      exact fits
    · intro fits
      exact fits c' g' rfl

/-- A form with a limit has a text for exactly the numbers that fit at its last place. -/
theorem apply_limited_isOk (limited : form.limited = true) (d : Decimal) :
    (form.apply conventions d).isOk ↔ d.Fits (form.scale + form.maxFraction) := by
  cases d with
  | finite negative n e =>
    rw [apply_finite_isOk form conventions]
    refine and_iff_left fun c g _ _ => ?_
    rw [NumberForm.places, if_pos limited]
    exact form.few.trans (by decide)
  | infinite negative => exact iff_of_true (apply_infinite_isOk form conventions negative) trivial
  | nan negative signaling payload =>
    exact apply_nan_isOk form conventions negative signaling payload

theorem apply_unlimited_isOk (unlimited : form.limited = false) (free : form.minFraction = 0)
    (unscaled : form.scale = 0) (d : Decimal) :
    (form.apply conventions d).isOk ↔ d.Fits form.maxFraction ∧ d.ShortFraction := by
  cases d with
  | finite negative n e =>
    rw [apply_finite_isOk form conventions, unscaled, zero_add, add_zero]
    refine and_congr_right fun _ => forall_congr' fun c => forall_congr' fun g =>
      forall_congr' fun _ => ?_
    have places : form.places g = max form.maxFraction (-g).toNat := by
      rw [NumberForm.places, unlimited]
      rfl
    have most : 100 ≤ maxWholeDigits := by decide
    have few := form.few
    rw [places]
    omega
  | infinite negative =>
    exact iff_of_true (apply_infinite_isOk form conventions negative) ⟨trivial, nofun⟩
  | nan negative signaling payload =>
    rw [apply_nan_isOk form conventions]
    refine (and_iff_left fun c g sized => ?_).symm
    cases signaling <;> cases sized

end Form

section Compact

variable {conventions : Conventions}

theorem compactPlaces_cons {row : CompactRow} {rest : List CompactRow}
    (rows : conventions.compact = row :: rest) : conventions.compactPlaces = row.places := by
  rw [Conventions.compactPlaces, rows]

theorem exponent_le {row : CompactRow} (inside : row ∈ conventions.compact) :
    row.exponent ≤ 28 := by
  have small := (conventions.moderate row inside).1
  omega

theorem compactPlaces_bounds (conventions : Conventions) :
    -100 ≤ conventions.compactPlaces ∧
      conventions.compactPlaces ≤ conventions.decimal.maxFraction := by
  cases rows : conventions.compact with
  | nil =>
    rw [Conventions.compactPlaces, rows]
    dsimp only
    omega
  | cons row rest =>
    have inside : row ∈ conventions.compact := rows ▸ List.mem_cons_self
    have few := (conventions.moderate row inside).2
    have small := exponent_le inside
    rw [compactPlaces_cons rows]
    refine ⟨?_, by omega⟩
    rw [CompactRow.places]
    split <;> omega

theorem fits_of_unreached {d : Decimal} {row : CompactRow} (inside : row ∈ conventions.compact)
    (reach : d.atLeast (tenTo row.exponent) ↔ ¬ d.Fits (28 - row.exponent))
    (unreached : d.atLeast (tenTo row.exponent) = false) :
    d.Fits conventions.decimal.maxFraction := by
  have fits : d.Fits (28 - row.exponent) := by
    by_contra large
    exact absurd (reach.mpr large) (by rw [unreached]; exact Bool.false_ne_true)
  exact fits.mono (by have small := (conventions.moderate row inside).1; omega)

section Rows

variable {d : Decimal} (reach : ∀ row ∈ conventions.compact,
  d.atLeast (tenTo row.exponent) ↔ ¬ d.Fits (28 - row.exponent))

include reach

/-- Of the rows that are reached, only the first of all can be too small for a number. -/
theorem fits_row_iff {row : CompactRow}
    (found : conventions.compact.find? (fun row => d.atLeast (tenTo row.exponent)) = some row) :
    d.Fits conventions.compactPlaces ↔ d.Fits row.places := by
  obtain ⟨-, before, after, rows, unreached⟩ := List.find?_eq_some_iff_append.mp found
  cases before with
  | nil => rw [compactPlaces_cons rows]
  | cons first others =>
    have inside : first ∈ conventions.compact := by simp [rows]
    have fits : d.Fits conventions.decimal.maxFraction := by
      apply fits_of_unreached inside (reach first inside)
      simpa using unreached first List.mem_cons_self
    have few := (conventions.moderate row (by simp [rows])).2
    exact iff_of_true (fits.mono (compactPlaces_bounds conventions).2) (fits.mono (by omega))

theorem fits_plain_iff
    (none : conventions.compact.find? (fun row => d.atLeast (tenTo row.exponent)) = none) :
    d.Fits conventions.compactPlaces ↔ d.Fits conventions.decimal.maxFraction := by
  cases rows : conventions.compact with
  | nil => rw [Conventions.compactPlaces, rows]
  | cons first others =>
    have inside : first ∈ conventions.compact := by simp [rows]
    have fits : d.Fits conventions.decimal.maxFraction := by
      apply fits_of_unreached inside (reach first inside)
      simpa using List.find?_eq_none.mp none first inside
    exact iff_of_true (fits.mono (compactPlaces_bounds conventions).2) fits

end Rows

theorem compactForm_isOk {q : Nat} (short : q < 10 ^ 28) (conventions : Conventions)
    (pattern : CompactPattern) (negative : Bool) :
    ((compactForm pattern).apply conventions (.finite negative q 0)).isOk := by
  rw [apply_unlimited_isOk _ conventions rfl rfl rfl]
  constructor
  · have below : (q : ℚ) < 10 ^ 28 := by exact_mod_cast short
    rw [Decimal.natCast_lt_iff, ← amount_zero] at below
    exact below
  · intro c g sized
    have digits := (digitCount_le_iff (by decide)).mpr short
    have low : Decimal.minExponent = -1000026 := rfl
    have high : Decimal.maxExponent = 999999 := rfl
    have held : Decimal.Held q 0 := ⟨short, fun _ => by omega, fun _ => by omega⟩
    obtain ⟨c', g', size, -, -, -, whole⟩ :=
      Decimal.magnitude_finish (Decimal.finish_of_held held negative)
    cases size.symm.trans sized
    have nonneg : 0 ≤ g := whole le_rfl
    omega

section Finite

variable {negative : Bool} {n : Nat} {e : Int} {size : Decimal}

/-- A number below all rows is shown as it is. -/
theorem compact_plain_isOk (sized : (Decimal.finite negative n e).magnitude = .ok size)
    (none : conventions.compact.find?
      (fun row => (Decimal.finite negative n e).atLeast (tenTo row.exponent)) = none) :
    (compact conventions (.finite negative n e)).isOk ↔
      (Decimal.finite negative n e).Fits conventions.decimal.maxFraction ∧
        (Decimal.finite negative n e).ShortFraction := by
  unfold compact
  dsimp only
  rw [sized, none]
  exact apply_unlimited_isOk _ conventions rfl conventions.free rfl _

theorem compact_whole_isOk (sized : (Decimal.finite negative n e).magnitude = .ok size)
    {exponent : Nat} (found : conventions.compact.find?
      (fun row => (Decimal.finite negative n e).atLeast (tenTo row.exponent)) =
        some ⟨exponent, .whole⟩) :
    (compact conventions (.finite negative n e)).isOk ↔
      (Decimal.finite negative n e).Fits 0 ∧ (Decimal.finite negative n e).ShortFraction := by
  unfold compact
  dsimp only
  rw [sized, found]
  exact apply_unlimited_isOk _ conventions rfl rfl rfl _

/-- A quotient is rounded to a whole number, and that is all that can go wrong. -/
theorem compact_scaled_isOk (sized : (Decimal.finite negative n e).magnitude = .ok size)
    {exponent digits : Nat} {pattern : Decimal → CompactPattern}
    (found : conventions.compact.find?
      (fun row => (Decimal.finite negative n e).atLeast (tenTo row.exponent)) =
        some ⟨exponent, .scaled digits pattern⟩) :
    (compact conventions (.finite negative n e)).isOk ↔
      (Decimal.finite negative n e).Fits (digits - 1 - exponent) := by
  have reduced : (digits : Int) - 1 - exponent ≤ 0 :=
    (conventions.moderate _ (List.mem_of_find?_eq_some found)).2
  have places : (digits : Int) - 1 - exponent = -(exponent + 1 - digits : Nat) := by omega
  unfold compact
  dsimp only
  rw [sized, found, places]
  dsimp only
  obtain ⟨fault, failed, beyond⟩ | ⟨c, g, done, short, fits⟩ :=
    Decimal.divide_finite negative n e (exponent + 1 - digits)
  · rw [failed]
    exact iff_of_false nofun beyond
  · have room : (Decimal.quantize c g 0).isOk ↔ amount c g < 10 ^ 28 := by
      have whole : (Decimal.quantize c g 0).isOk ↔ amount c (g - 0) < 10 ^ 28 :=
        Decimal.quantize_isOk short
      rwa [Int.sub_zero] at whole
    rw [done, fits, ← room]
    dsimp only
    cases quotient : Decimal.quantize c g 0 with
    | error fault => exact iff_of_false nofun nofun
    | ok q => exact iff_of_true (compactForm_isOk (Decimal.quantize_short quotient) _ _ _) rfl

end Finite

/-- A short form has a text for the numbers that the first row has one for, unless all digits of a
long fraction are to be shown. -/
theorem compact_isOk (conventions : Conventions) (d : Decimal) :
    (compact conventions d).isOk ↔ d.Fits conventions.compactPlaces ∧ d.ShortFraction := by
  cases d with
  | infinite negative =>
    exact iff_of_true (apply_infinite_isOk _ conventions negative) ⟨trivial, nofun⟩
  | nan negative signaling payload =>
    refine (apply_nan_isOk _ conventions negative signaling payload).trans ?_
    refine (and_iff_left fun c g sized => ?_).symm
    cases signaling <;> cases sized
  | finite negative n e =>
    obtain ⟨lower, -⟩ := compactPlaces_bounds conventions
    obtain ⟨fault, failed, large⟩ | ⟨c, g, sized, -, -⟩ := Decimal.magnitude_finite negative n e
    · have refused : compact conventions (.finite negative n e) = .error fault := by
        unfold compact
        dsimp only
        rw [failed]
      rw [refused]
      exact iff_of_false nofun fun both => large _ lower both.1
    · have usual : ∀ row ∈ conventions.compact, row.exponent ≤ 64 := fun row inside =>
        (exponent_le inside).trans (by decide)
      have reach : ∀ row ∈ conventions.compact,
          (Decimal.finite negative n e).atLeast (tenTo row.exponent) ↔
            ¬ (Decimal.finite negative n e).Fits (28 - row.exponent) := fun row inside =>
        (Decimal.atLeast_finite sized (usual row inside)).1
      cases found : conventions.compact.find? fun row =>
          (Decimal.finite negative n e).atLeast (tenTo row.exponent) with
      | none => rw [compact_plain_isOk sized found, fits_plain_iff reach found]
      | some row =>
        have inside : row ∈ conventions.compact := List.mem_of_find?_eq_some found
        have readable : (Decimal.finite negative n e).ShortFraction :=
          (Decimal.atLeast_finite sized (usual row inside)).2
            (List.find?_eq_some_iff_append.mp found).1
        rw [fits_row_iff reach found]
        obtain ⟨exponent, form⟩ := row
        cases form with
        | whole => exact compact_whole_isOk sized found
        | scaled digits pattern =>
          rw [and_iff_left readable]
          exact compact_scaled_isOk sized found

end Compact

def NumberStyle.Accepts (style : NumberStyle) (conventions : Conventions) (d : Decimal) : Prop :=
  match style with
  | decimal => d.Fits conventions.decimal.maxFraction
  | percent => d.Fits (2 + conventions.percent.maxFraction)
  | integer => d.Fits 0
  | compact => d.Fits conventions.compactPlaces ∧ d.ShortFraction

theorem NumberStyle.apply_isOk (style : NumberStyle) (conventions : Conventions) (d : Decimal) :
    (style.apply conventions d).isOk ↔ style.Accepts conventions d := by
  cases style with
  | decimal =>
    rw [Accepts, ← zero_add (conventions.decimal.maxFraction : Int)]
    exact apply_limited_isOk (decimalForm conventions) conventions rfl d
  | percent => exact apply_limited_isOk (percentForm conventions) conventions rfl d
  | integer => exact apply_limited_isOk integerForm conventions rfl d
  | compact => exact compact_isOk conventions d

end Localization.Format
