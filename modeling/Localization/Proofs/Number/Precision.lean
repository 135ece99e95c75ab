import Localization.Number.Decimal
import Mathlib.Algebra.Order.Field.Power
import Mathlib.Algebra.Order.Ring.Rat
import Mathlib.Tactic.Linarith
import Mathlib.Tactic.NormNum
import Mathlib.Tactic.Positivity
import Mathlib.Tactic.Ring

/-! # What the precision of arithmetic lets through

A number that is rounded to a last place has a coefficient of at most twenty-eight digits exactly
when it lies more than half a unit of that place below the twenty-eighth power of ten. A first
rounding to twenty-eight digits at another place does not move this bound: from half a unit below
a power of ten on, it gives the power itself.
-/
namespace Localization.Number

theorem digitCount_pos (n : Nat) : 0 < digitCount n := Nat.length_toDigits_pos

theorem digitCount_le_iff {n k : Nat} (pos : 0 < k) : digitCount n ≤ k ↔ n < 10 ^ k :=
  Nat.length_toDigits_le_iff (by decide) pos

theorem lt_pow_digitCount (n : Nat) : n < 10 ^ digitCount n :=
  (digitCount_le_iff (digitCount_pos n)).mp le_rfl

theorem pow_le_of_ne_zero {n : Nat} (nonzero : n ≠ 0) : 10 ^ (digitCount n - 1) ≤ n := by
  by_cases single : digitCount n = 1
  · rw [single]
    exact Nat.pos_of_ne_zero nonzero
  · have pos := digitCount_pos n
    by_contra less
    have fewer := (digitCount_le_iff (by omega)).mpr (not_le.mp less)
    omega

/-- A quotient stays below an even number exactly when it lies more than half a unit below it. -/
theorem roundDiv_lt_iff {num den m : Nat} (pos : 0 < den) (even : m % 2 = 0) :
    roundDiv num den < m ↔ 2 * num + den < 2 * (den * m) := by
  have parts : den * (num / den) + num % den = num := Nat.div_add_mod num den
  have small : num % den < den := Nat.mod_lt num pos
  have next : den * (num / den + 1) = den * (num / den) + den := rfl
  unfold roundDiv
  dsimp only
  rcases lt_trichotomy (num / den + 1) m with below | last | above
  · have bound : den * (num / den + 2) ≤ den * m := Nat.mul_le_mul_left den below
    have afterNext : den * (num / den + 2) = den * (num / den) + 2 * den := by ring
    split_ifs <;> omega
  · -- Only here can the quotient reach `m`, and the floor is odd.
    rw [← last, next]
    split_ifs <;> omega
  · have bound : den * m ≤ den * (num / den) := Nat.mul_le_mul_left den (by omega)
    split_ifs <;> omega

theorem roundDiv_le (num den : Nat) : roundDiv num den ≤ num / den + 1 := by
  unfold roundDiv
  dsimp only
  split_ifs <;> omega

theorem tenTo_eq (k : Nat) : tenTo k = 10 ^ k := rfl

def amount (n : Nat) (e : Int) : ℚ := n * 10 ^ e

theorem amount_of_zero (e : Int) : amount 0 e = 0 := by
  rw [amount, Nat.cast_zero, zero_mul]

theorem amount_zero (n : Nat) : amount n 0 = n := by
  rw [amount, zpow_zero, mul_one]

theorem amount_add (n : Nat) (e k : Int) : amount n (e + k) = amount n e * 10 ^ k := by
  rw [amount, amount, zpow_add₀ (by norm_num), mul_assoc]

theorem amount_natCast (n k : Nat) : amount n k = (n * 10 ^ k : Nat) := by
  rw [amount, zpow_natCast, Nat.cast_mul, Nat.cast_pow, Nat.cast_ofNat]

theorem amount_mul_pow (n k : Nat) (e : Int) : amount (n * 10 ^ k) e = amount n (e + k) := by
  rw [amount_add, amount, amount, Nat.cast_mul, Nat.cast_pow, Nat.cast_ofNat, zpow_natCast]
  ring

theorem amount_add_congr {n m : Nat} {e f : Int} (same : amount n e = amount m f) (k : Int) :
    amount n (e + k) = amount m (f + k) := by
  rw [amount_add, amount_add, same]

theorem amount_lt_pow_iff {n : Nat} {e t : Int} :
    amount n e < 10 ^ t ↔ (n : ℚ) < 10 ^ (t - e) := by
  rw [zpow_sub₀ (by norm_num), lt_div_iff₀ (by positivity), amount]

theorem amount_add_lt_iff {n : Nat} {e k t : Int} :
    amount n (e + k) < 10 ^ (t + k) ↔ amount n e < 10 ^ t := by
  rw [amount_lt_pow_iff, amount_lt_pow_iff, add_sub_add_right_eq_sub]

theorem amount_add_lt {n : Nat} {e s t k : Int} (less : amount n e < 10 ^ s) (le : s + k ≤ t) :
    amount n (e + k) < 10 ^ t :=
  (amount_add_lt_iff.mpr less).trans_le (zpow_le_zpow_right₀ (by norm_num) le)

theorem le_amount_add {n : Nat} {e s t k : Int} (bound : 10 ^ s ≤ amount n e) (le : t ≤ s + k) :
    10 ^ t ≤ amount n (e + k) := by
  have moved : 10 ^ (s + k) ≤ amount n (e + k) := by
    rw [← not_lt, amount_add_lt_iff, not_lt]
    exact bound
  exact (zpow_le_zpow_right₀ (by norm_num) le).trans moved

theorem amount_lt_of_le {n : Nat} {e t : Int} {k : Nat} (less : n < 10 ^ k) (le : e + k ≤ t) :
    amount n e < 10 ^ t := by
  rw [amount_lt_pow_iff]
  have digits : (n : ℚ) < 10 ^ (k : Int) := by exact_mod_cast less
  exact digits.trans_le (zpow_le_zpow_right₀ (by norm_num) (by omega))

theorem le_amount_of_le {n : Nat} {e t : Int} {k : Nat} (le : 10 ^ k ≤ n) (below : t ≤ e + k) :
    10 ^ t ≤ amount n e := by
  rw [← not_lt, amount_lt_pow_iff, not_lt]
  have digits : (10 : ℚ) ^ (k : Int) ≤ n := by exact_mod_cast le
  exact (zpow_le_zpow_right₀ (by norm_num) (by omega)).trans digits

namespace Decimal

/-- The nearest coefficient has as many digits as the precision allows, or is the next power of
ten. -/
theorem roundDiv_bounds {n k : Nat} (lower : 10 ^ (27 + k) ≤ n) (upper : n < 10 ^ (28 + k)) :
    10 ^ 27 ≤ roundDiv n (10 ^ k) ∧ roundDiv n (10 ^ k) ≤ 10 ^ 28 := by
  have pos : 0 < 10 ^ k := Nat.pow_pos (by decide)
  rw [pow_add, mul_comm] at lower upper
  constructor
  · rw [← not_lt, roundDiv_lt_iff pos (by decide)]
    omega
  · have floor : n / 10 ^ k < 10 ^ 28 := (Nat.div_lt_iff_lt_mul pos).mpr (by rwa [mul_comm])
    exact (roundDiv_le n (10 ^ k)).trans floor

/-- Digits within the precision stay; of more digits, the nearest coefficient is taken. -/
theorem roundDigits_cases (n : Nat) (e : Int) :
    (n < 10 ^ 28 ∧ roundDigits n e = (n, e)) ∨
      ∃ (k q : Nat) (f : Int), 10 ^ (27 + k) ≤ n ∧ n < 10 ^ (28 + k) ∧
        roundDigits n e = (q, f) ∧ q < 10 ^ 28 ∧
        amount q f = amount (roundDiv n (10 ^ k)) (e + k) := by
  by_cases short : digitCount n ≤ 28
  · left
    exact ⟨(digitCount_le_iff (by decide)).mp short, if_pos (Nat.sub_eq_zero_of_le short)⟩
  · right
    obtain ⟨k, count⟩ : ∃ k, digitCount n = 28 + k := Nat.exists_eq_add_of_le (by omega)
    have removed : digitCount n - precision = k := by
      rw [count, precision]
      omega
    have pos : 0 < k := by omega
    have lower : 10 ^ (27 + k) ≤ n := by
      rw [← not_lt, ← digitCount_le_iff (by omega)]
      omega
    have upper : n < 10 ^ (28 + k) := count ▸ lt_pow_digitCount n
    obtain ⟨least, most⟩ := roundDiv_bounds lower upper
    have rounded : roundDigits n e =
        if digitCount (roundDiv n (10 ^ k)) ≤ 28 then (roundDiv n (10 ^ k), e + k)
        else (roundDiv n (10 ^ k) / 10, e + k + 1) := by
      rw [roundDigits, removed]
      exact if_neg pos.ne'
    by_cases fits : digitCount (roundDiv n (10 ^ k)) ≤ 28
    · have small := (digitCount_le_iff (by decide)).mp fits
      rw [if_pos fits] at rounded
      exact ⟨k, _, _, lower, upper, rounded, small, rfl⟩
    · have full : roundDiv n (10 ^ k) = 10 ^ 28 := by
        rw [digitCount_le_iff (by decide)] at fits
        omega
      rw [if_neg fits, full] at rounded
      refine ⟨k, _, _, lower, upper, rounded, by decide, ?_⟩
      rw [full]
      exact (amount_mul_pow (10 ^ 27) 1 (e + k)).symm

/-- Between a whole number and the twenty-eighth power of ten there is no half unit. -/
theorem natCast_lt_iff (n : Nat) : (n : ℚ) < 10 ^ 28 ↔ (n : ℚ) < 10 ^ 28 - 1 / 2 := by
  constructor
  · intro less
    have next : n + 1 ≤ 10 ^ 28 := by exact_mod_cast less
    have whole : (n : ℚ) + 1 ≤ 10 ^ 28 := by exact_mod_cast next
    linarith
  · intro less
    linarith

theorem roundDiv_amount_iff {n k : Nat} :
    amount (roundDiv n (10 ^ k)) 0 < 10 ^ 28 ↔ amount n (-k) < 10 ^ 28 - 1 / 2 := by
  have pos : 0 < 10 ^ k := Nat.pow_pos (by decide)
  have posQ : (0 : ℚ) < 10 ^ k := by positivity
  have nat : roundDiv n (10 ^ k) < 10 ^ 28 ↔ 2 * n + 10 ^ k < 2 * (10 ^ k * 10 ^ 28) :=
    roundDiv_lt_iff pos (by decide)
  have left : (roundDiv n (10 ^ k) : ℚ) < 10 ^ 28 ↔
      2 * (n : ℚ) + 10 ^ k < 2 * (10 ^ k * 10 ^ 28) := by
    exact_mod_cast nat
  rw [amount_zero, left, amount, zpow_neg, zpow_natCast, ← div_eq_mul_inv, div_lt_iff₀ posQ]
  constructor <;> intro bound <;> linarith

/-- Rounding to the precision leaves a number below the twenty-eighth power of ten exactly when it
is more than half a unit below it. -/
theorem roundDigits_lt_iff {n q : Nat} {e f : Int} (rounded : roundDigits n e = (q, f)) :
    amount q f < 10 ^ 28 ↔ amount n e < 10 ^ 28 - 1 / 2 := by
  have half : (10 : ℚ) ^ (27 : Int) < 10 ^ 28 - 1 / 2 := by norm_num
  have power : (10 : ℚ) ^ (27 : Int) < 10 ^ 28 := by norm_num
  obtain ⟨short, kept⟩ | ⟨k, q', f', lower, upper, cut, -, same⟩ := roundDigits_cases n e
  · obtain ⟨rfl, rfl⟩ := Prod.mk.inj (kept.symm.trans rounded)
    rcases lt_or_ge e 0 with negative | whole
    · have small : amount n e < 10 ^ (27 : Int) := amount_lt_of_le short (by omega)
      exact iff_of_true (small.trans power) (small.trans half)
    · obtain ⟨m, rfl⟩ := Int.eq_ofNat_of_zero_le whole
      rw [amount_natCast]
      exact natCast_lt_iff _
  · obtain ⟨rfl, rfl⟩ := Prod.mk.inj (cut.symm.trans rounded)
    obtain ⟨least, most⟩ := roundDiv_bounds lower upper
    rw [same]
    rcases lt_trichotomy (e + k) 0 with negative | unit | positive
    · have small : amount n e < 10 ^ (27 : Int) := amount_lt_of_le upper (by omega)
      have near : roundDiv n (10 ^ k) < 10 ^ 29 := by omega
      have less : amount (roundDiv n (10 ^ k)) (e + k) < 10 ^ (28 : Int) :=
        amount_lt_of_le near (by omega)
      exact iff_of_true (by exact_mod_cast less) (small.trans half)
    · obtain rfl : e = -k := by omega
      rw [unit]
      exact roundDiv_amount_iff
    · have reached : (10 : ℚ) ^ (28 : Int) ≤ amount (roundDiv n (10 ^ k)) (e + k) :=
        le_amount_of_le least (by omega)
      have beyond : (10 : ℚ) ^ (28 : Int) ≤ amount n e := le_amount_of_le lower (by omega)
      refine iff_of_false (not_lt.mpr (by exact_mod_cast reached)) (not_lt.mpr ?_)
      have bound : (10 : ℚ) ^ 28 ≤ amount n e := by exact_mod_cast beyond
      linarith

theorem roundDigits_of_lt {n : Nat} (short : n < 10 ^ 28) (e : Int) : roundDigits n e = (n, e) :=
  if_pos (Nat.sub_eq_zero_of_le ((digitCount_le_iff (by decide)).mpr short))

theorem lt_of_roundDigits {n q : Nat} {e f : Int} (rounded : roundDigits n e = (q, f)) :
    q < 10 ^ 28 := by
  obtain ⟨short, kept⟩ | ⟨k, q', f', -, -, cut, short, -⟩ := roundDigits_cases n e
  · obtain ⟨rfl, -⟩ := Prod.mk.inj (kept.symm.trans rounded)
    exact short
  · obtain ⟨rfl, -⟩ := Prod.mk.inj (cut.symm.trans rounded)
    exact short

theorem roundDigits_add {n q : Nat} {e f : Int} (rounded : roundDigits n e = (q, f)) (k : Int) :
    roundDigits n (e + k) = (q, f + k) := by
  rw [roundDigits.eq_def] at rounded ⊢
  dsimp only at rounded ⊢
  split_ifs at rounded ⊢ <;> obtain ⟨rfl, rfl⟩ := Prod.mk.inj rounded <;>
    simp only [Prod.mk.injEq, true_and] <;> omega

/-- A magnitude that arithmetic leaves as it is. -/
structure Held (n : Nat) (e : Int) : Prop where
  short : n < 10 ^ 28
  least : n ≠ 0 → minExponent ≤ e
  most : n ≠ 0 → e + digitCount n - 1 ≤ maxExponent

theorem finish_of_held {n : Nat} {e : Int} (held : Held n e) (negative : Bool) :
    finish negative n e = .ok (finite negative n e) := by
  rw [finish, roundDigits_of_lt held.short]
  dsimp only
  by_cases zero : n = 0
  · rw [if_pos zero, zero]
  · rw [if_neg zero, if_neg (not_lt.mpr (held.most zero)), if_neg (not_lt.mpr (held.least zero))]

theorem roundDiv_short {n k : Nat} (short : n < 10 ^ 28) (pos : 0 < k) :
    roundDiv n (10 ^ k) < 10 ^ 28 := by
  have ten : 10 ^ 1 ≤ 10 ^ k := Nat.pow_le_pow_right (by decide) pos
  rw [roundDiv_lt_iff (by omega) (by decide)]
  omega

theorem rescale_short {n : Nat} {e target : Int} (short : n < 10 ^ 28) (below : e < target) :
    rescale n e target < 10 ^ 28 := by
  rw [rescale, if_neg (not_le.mpr below)]
  dsimp only
  split
  · decide
  · exact roundDiv_short short (by omega)

/-- A result is out of range, or it is the rounded number, or both are next to nothing. -/
theorem finish_cases (negative : Bool) (n : Nat) (e : Int) :
    ∃ q f, roundDigits n e = (q, f) ∧
      ((finish negative n e = .error .overflow ∧ 10 ^ (1000000 : Int) ≤ amount q f) ∨
        ∃ c g, finish negative n e = .ok (finite negative c g) ∧ Held c g ∧
          (amount c g = amount q f ∨
            amount c g < 10 ^ (-999998 : Int) ∧ amount q f < 10 ^ (-999998 : Int))) := by
  rcases rounded : roundDigits n e with ⟨q, f⟩
  refine ⟨q, f, rfl, ?_⟩
  have short := lt_of_roundDigits rounded
  have low : minExponent = -1000026 := rfl
  have high : maxExponent = 999999 := rfl
  rw [finish, rounded]
  dsimp only
  split_ifs with zero large tiny
  · refine .inr ⟨0, f, rfl, ⟨by decide, absurd rfl, absurd rfl⟩, .inl ?_⟩
    rw [zero]
  · refine .inl ⟨rfl, le_amount_of_le (pow_le_of_ne_zero zero) ?_⟩
    have pos := digitCount_pos q
    omega
  · have small := rescale_short short tiny
    have digits := (digitCount_le_iff (by decide)).mpr small
    refine .inr ⟨_, _, rfl, ⟨small, fun _ => le_rfl, fun _ => by omega⟩, .inr ⟨?_, ?_⟩⟩
    · exact amount_lt_of_le small (by omega)
    · exact amount_lt_of_le short (by omega)
  · exact .inr ⟨q, f, rfl, ⟨short, fun _ => not_lt.mp tiny, fun _ => not_lt.mp large⟩, .inl rfl⟩

/-- What comes out of arithmetic, seen at any usual place, is below the twenty-eighth power of ten
exactly when what went in was more than half a unit below it. -/
theorem finish_lt_iff {negative : Bool} {n c : Nat} {e g places : Int}
    (done : finish negative n e = .ok (finite negative c g)) (usual : places ≤ 100) :
    amount c (g + places) < 10 ^ 28 ↔ amount n (e + places) < 10 ^ 28 - 1 / 2 := by
  obtain ⟨q, f, rounded, ⟨failed, -⟩ | ⟨c', g', done', -, near⟩⟩ := finish_cases negative n e
  · exact absurd (failed.symm.trans done) nofun
  · cases done.symm.trans done'
    rw [← roundDigits_lt_iff (roundDigits_add rounded places)]
    obtain same | ⟨tiny, tiny'⟩ := near
    · rw [amount_add_congr same]
    · have less : amount c (g + places) < 10 ^ (28 : Int) := amount_add_lt tiny (by omega)
      have less' : amount q (f + places) < 10 ^ (28 : Int) := amount_add_lt tiny' (by omega)
      exact iff_of_true (by exact_mod_cast less) (by exact_mod_cast less')

theorem not_lt_of_finish {negative : Bool} {n : Nat} {e places : Int} {fault : ArithmeticFault}
    (failed : finish negative n e = .error fault) (usual : -100 ≤ places) :
    ¬ amount n (e + places) < 10 ^ 28 - 1 / 2 := by
  obtain ⟨q, f, rounded, ⟨-, huge⟩ | ⟨c, g, done, -⟩⟩ := finish_cases negative n e
  · rw [← roundDigits_lt_iff (roundDigits_add rounded places), not_lt]
    have reached : (10 : ℚ) ^ (28 : Int) ≤ amount q (f + places) := le_amount_add huge (by omega)
    exact_mod_cast reached
  · exact absurd (failed.symm.trans done) nofun

theorem held_of_finish {negative : Bool} {n c : Nat} {e g : Int}
    (done : finish negative n e = .ok (finite negative c g)) : Held c g := by
  obtain ⟨-, -, -, ⟨failed, -⟩ | ⟨c', g', done', held, -⟩⟩ := finish_cases negative n e
  · exact absurd (failed.symm.trans done) nofun
  · cases done.symm.trans done'
    exact held

theorem stripZeros_spec {fuel n c : Nat} {e g : Int} (stripped : stripZeros fuel n e = (c, g)) :
    amount c g = amount n e ∧ c ≤ n ∧ e ≤ g := by
  induction fuel generalizing n e with
  | zero =>
    cases stripped
    exact ⟨rfl, le_rfl, le_rfl⟩
  | succ fuel ih =>
    rw [stripZeros] at stripped
    split at stripped
    · next last =>
      obtain ⟨same, less, later⟩ := ih stripped
      have tens : n / 10 * 10 ^ 1 = n := by omega
      have moved := amount_mul_pow (n / 10) 1 e
      rw [tens] at moved
      exact ⟨same.trans moved.symm, less.trans (Nat.div_le_self n 10), by omega⟩
    · cases stripped
      exact ⟨rfl, le_rfl, le_rfl⟩

theorem finish_sign {negative : Bool} {n c : Nat} {e g : Int}
    (done : finish negative n e = .ok (finite negative c g)) (other : Bool) :
    finish other n e = .ok (finite other c g) := by
  rw [finish] at done ⊢
  dsimp only at done ⊢
  split_ifs at done ⊢ <;> cases done <;> rfl

/-- A number and its result have one magnitude, without zeros at the end of its coefficient. -/
theorem magnitude_finish {negative : Bool} {n c : Nat} {e g : Int}
    (done : finish negative n e = .ok (finite negative c g)) :
    ∃ c' g', magnitude (finite negative n e) = .ok (finite false c' g') ∧
      magnitude (finite negative c g) = .ok (finite false c' g') ∧
      c' < 10 ^ 28 ∧ amount c' g' = amount c g ∧ (0 ≤ g → 0 ≤ g') := by
  have held := held_of_finish done
  have rounded : finish false n e = .ok (finite false c g) := finish_sign done false
  have kept : finish false c g = .ok (finite false c g) := finish_of_held held false
  have first : magnitude (finite negative n e) = magnitude (finite negative c g) := by
    unfold magnitude
    dsimp only
    rw [rounded, kept]
  rw [first]
  unfold magnitude
  dsimp only
  rw [kept]
  dsimp only
  by_cases zero : c = 0
  · rw [if_pos zero, zero]
    refine ⟨0, 0, rfl, rfl, by decide, ?_, fun _ => le_rfl⟩
    rw [amount_of_zero, amount_of_zero]
  · rw [if_neg zero]
    rcases stripped : stripZeros (digitCount c) c g with ⟨c', g'⟩
    obtain ⟨same, less, later⟩ := stripZeros_spec stripped
    exact ⟨c', g', rfl, rfl, lt_of_le_of_lt less held.short, same, later.trans'⟩

theorem quantize_short {n q : Nat} {e target : Int} (done : quantize n e target = .ok q) :
    q < 10 ^ 28 := by
  rw [quantize] at done
  dsimp only at done
  split_ifs at done with zero large long
  · cases done
    decide
  · cases done
    exact (digitCount_le_iff (by decide)).mp (not_lt.mp long)

/-- A coefficient at a last place has at most twenty-eight digits exactly below the twenty-eighth
power of ten. -/
theorem quantize_isOk {n : Nat} {e target : Int} (short : n < 10 ^ 28) :
    (quantize n e target).isOk ↔ amount n (e - target) < 10 ^ 28 := by
  have digits : (precision : Int) = 28 := rfl
  rw [quantize]
  dsimp only
  split_ifs with zero large long
  · rw [zero, amount_of_zero]
    exact iff_of_true rfl (by norm_num)
  · have pos := digitCount_pos n
    have reached : (10 : ℚ) ^ (28 : Int) ≤ amount n (e - target) :=
      le_amount_of_le (pow_le_of_ne_zero zero) (by omega)
    exact iff_of_false nofun (not_lt.mpr (by exact_mod_cast reached))
  · -- A coefficient that is cut stays short, and one that is filled up is the amount itself.
    rcases le_or_gt target e with whole | cut
    · have filled : rescale n e target = n * 10 ^ (e - target).toNat := if_pos whole
      have counted : amount n (e - target) = rescale n e target := by
        rw [filled, ← amount_natCast, Int.toNat_of_nonneg (by omega)]
      have full : 10 ^ 28 ≤ rescale n e target := by
        rw [← not_lt, ← digitCount_le_iff (by decide)]
        exact not_le.mpr long
      rw [counted]
      exact iff_of_false nofun (not_lt.mpr (by exact_mod_cast full))
    · have small := (digitCount_le_iff (by decide)).mpr (rescale_short short cut)
      exact absurd small (not_le.mpr long)
  · have less : amount n (e - target) < 10 ^ (28 : Int) :=
      amount_lt_of_le (lt_pow_digitCount n) (by omega)
    exact iff_of_true rfl (by exact_mod_cast less)

theorem finish_finite (negative : Bool) (n : Nat) (e : Int) :
    (∃ fault, finish negative n e = .error fault) ∨
      ∃ c g, finish negative n e = .ok (finite negative c g) := by
  obtain ⟨-, -, -, ⟨failed, -⟩ | ⟨c, g, done, -⟩⟩ := finish_cases negative n e
  · exact .inl ⟨_, failed⟩
  · exact .inr ⟨c, g, done⟩

/-- Whether arithmetic can give a number with so many digits after the point; a negative number of
them leaves digits before the point out. With the point moved there, a finite number lies more than
half a unit below the twenty-eighth power of ten. What is not a number must not signal. -/
def Fits (d : Decimal) (places : Int) : Prop :=
  match d with
  | finite _ n e => amount n (e + places) < 10 ^ 28 - 1 / 2
  | infinite _ => True
  | nan _ signaling _ => signaling = false

/-- Whether the fraction of a number, without zeros at its end, can be read as one whole number. -/
def ShortFraction (d : Decimal) : Prop :=
  ∀ c g, d.magnitude = .ok (finite false c g) → -(Text.maxWholeDigits : Int) ≤ g

theorem Fits.mono {d : Decimal} {fewer places : Int} (fits : d.Fits places) (le : fewer ≤ places) :
    d.Fits fewer := by
  cases d with
  | finite negative n e =>
    have less : amount n (e + fewer) ≤ amount n (e + places) :=
      mul_le_mul_of_nonneg_left (zpow_le_zpow_right₀ (by norm_num) (by omega)) (by positivity)
    exact less.trans_lt fits
  | infinite negative => trivial
  | nan negative signaling payload => exact fits

/-- A number reaches a power of ten exactly when its magnitude does. -/
theorem atLeast_iff {d : Decimal} {c E : Nat} {g : Int}
    (size : d.magnitude = .ok (finite false c g)) (usual : E ≤ 64) :
    d.atLeast (tenTo E) ↔ 10 ^ (E : Int) ≤ amount c g := by
  have one : 1 ≤ 10 ^ E := Nat.one_le_pow _ _ (by decide)
  rw [atLeast, size]
  dsimp only
  split_ifs with whole zero below <;> rw [decide_eq_true_iff]
  · obtain ⟨m, rfl⟩ := Int.eq_ofNat_of_zero_le whole
    have capped : 10 ^ E ≤ c * 10 ^ (min m 64) ↔ 10 ^ E ≤ c * 10 ^ m := by
      rcases Nat.eq_zero_or_pos c with rfl | pos
      · rw [zero_mul, zero_mul]
      · rcases le_or_gt m 64 with small | large
        · rw [min_eq_left small]
        · have reach : ∀ {j}, 64 ≤ j → 10 ^ E ≤ c * 10 ^ j := fun more =>
            (Nat.pow_le_pow_right (by decide) (usual.trans more)).trans
              (Nat.le_mul_of_pos_left _ pos)
          rw [min_eq_right large.le]
          exact iff_of_true (reach le_rfl) (reach large.le)
    rw [amount_natCast, zpow_natCast]
    exact capped.trans (by exact_mod_cast Iff.rfl)
  · rw [zero, amount_of_zero]
    exact iff_of_false (by rw [tenTo_eq]; omega) (not_le.mpr (by positivity))
  · have less : amount c g < 10 ^ (E : Int) := amount_lt_of_le (lt_pow_digitCount c) (by omega)
    exact iff_of_false (by rw [tenTo_eq]; omega) (not_le.mpr less)
  · have exponent : (E : Int) - g = (E + (-g).toNat : Nat) := by omega
    rw [← not_lt, ← not_lt, amount_lt_pow_iff, exponent, zpow_natCast, tenTo_eq, tenTo_eq,
      ← pow_add]
    exact not_congr (by exact_mod_cast Iff.rfl)

/-- A whole number fits when the digits that it gets are at most twenty-eight. -/
theorem fits_ofInt_iff (n : Int) (places : Nat) :
    (ofInt n).Fits places ↔ n.natAbs * 10 ^ places < 10 ^ 28 := by
  rw [ofInt, Fits, zero_add, amount_natCast, ← natCast_lt_iff]
  exact_mod_cast Iff.rfl

/-- A finite number moved by a power of ten is out of range, or it fits where its result does. -/
theorem shift_finite (negative : Bool) (n : Nat) (e k : Int) :
    (∃ fault, (finite negative n e).shift k = .error fault ∧
        ∀ places ≥ -100, ¬ (finite negative n e).Fits (k + places)) ∨
      ∃ c g, (finite negative n e).shift k = .ok (finite negative c g) ∧
        finish negative n (e + k) = .ok (finite negative c g) ∧
        ∀ places ≤ 100,
          (finite negative n e).Fits (k + places) ↔ amount c (g + places) < 10 ^ 28 := by
  obtain ⟨fault, failed⟩ | ⟨c, g, done⟩ := finish_finite negative n (e + k)
  · refine .inl ⟨fault, failed, fun places usual => ?_⟩
    rw [Fits, ← add_assoc]
    exact not_lt_of_finish failed usual
  · refine .inr ⟨c, g, done, done, fun places usual => ?_⟩
    rw [Fits, ← add_assoc]
    exact (finish_lt_iff done usual).symm

theorem divide_finite (negative : Bool) (n : Nat) (e : Int) (k : Nat) :
    (∃ fault, divide n e k = .error fault ∧ ¬ (finite negative n e).Fits (-k)) ∨
      ∃ c g, divide n e k = .ok (c, g) ∧ c < 10 ^ 28 ∧
        ((finite negative n e).Fits (-k) ↔ amount c g < 10 ^ 28) := by
  have moved : e - k + 0 = e + -(k : Int) := by omega
  obtain ⟨fault, failed⟩ | ⟨q, f, done⟩ := finish_finite false n (e - k)
  · have refused : divide n e k = .error fault := by
      unfold divide
      rw [failed]
    refine .inl ⟨fault, refused, ?_⟩
    rw [Fits, ← moved]
    exact not_lt_of_finish failed (by decide)
  · have fits : (finite negative n e).Fits (-k) ↔ amount q f < 10 ^ 28 := by
      rw [Fits, ← moved, ← finish_lt_iff done (by decide), add_zero]
    have short := (held_of_finish done).short
    right
    unfold divide
    rw [done]
    dsimp only
    split_ifs
    · rcases stripped : stripZeros (e - f).toNat q f with ⟨c, g⟩
      obtain ⟨same, less, -⟩ := stripZeros_spec stripped
      exact ⟨c, g, rfl, less.trans_lt short, by rw [fits, same]⟩
    · exact ⟨q, f, rfl, short, fits⟩

theorem magnitude_finite (negative : Bool) (n : Nat) (e : Int) :
    (∃ fault, (finite negative n e).magnitude = .error fault ∧
        ∀ places ≥ -100, ¬ (finite negative n e).Fits places) ∨
      ∃ c g, (finite negative n e).magnitude = .ok (finite false c g) ∧ c < 10 ^ 28 ∧
        ∀ places ≤ 100, (finite negative n e).Fits places ↔ amount c (g + places) < 10 ^ 28 := by
  obtain ⟨fault, failed⟩ | ⟨c, g, done⟩ := finish_finite false n e
  · refine .inl ⟨fault, ?_, fun places usual => not_lt_of_finish failed usual⟩
    unfold magnitude
    dsimp only
    rw [failed]
  · obtain ⟨c', g', size, -, short, same, -⟩ := magnitude_finish done
    refine .inr ⟨c', g', size, short, fun places usual => ?_⟩
    rw [amount_add_congr same, finish_lt_iff done usual, Fits]

/-- A number that reaches a power of ten is the one that does not fit where that power becomes the
twenty-eighth, and it has no long fraction. -/
theorem atLeast_finite {negative : Bool} {n E : Nat} {e : Int} {size : Decimal}
    (sized : (finite negative n e).magnitude = .ok size) (usual : E ≤ 64) :
    ((finite negative n e).atLeast (tenTo E) ↔ ¬ (finite negative n e).Fits (28 - E)) ∧
      ((finite negative n e).atLeast (tenTo E) → (finite negative n e).ShortFraction) := by
  obtain ⟨fault, failed, -⟩ | ⟨c, g, done, short, fits⟩ := magnitude_finite negative n e
  · exact absurd (failed.symm.trans sized) nofun
  · have reach := atLeast_iff done usual
    constructor
    · have moved : amount c (g + (28 - E)) < 10 ^ ((E : Int) + (28 - E)) ↔
          amount c g < 10 ^ (E : Int) := amount_add_lt_iff
      have twentyEight : (E : Int) + (28 - E) = (28 : Nat) := by omega
      rw [twentyEight, zpow_natCast] at moved
      rw [reach, fits _ (by omega), moved, not_lt]
    · intro reached c' g' sized'
      cases done.symm.trans sized'
      by_contra long
      have most : (Text.maxWholeDigits : Int) = 4300 := rfl
      have less : amount c g < 10 ^ (E : Int) := amount_lt_of_le short (by omega)
      exact absurd (reach.mp reached) (not_le.mpr less)

end Decimal

end Localization.Number
