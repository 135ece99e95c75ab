import Localization.Negotiation.Preference
import Localization.Proofs.Negotiation.Ranking
import Localization.Proofs.Number.Numeral
import Localization.Proofs.Number.Order
import Mathlib.Data.List.Forall2

/-! # The preferences of a header

Every part of a header that names a range gives one preference, whatever its quality. Where all
qualities are numbers the preferences are in order: none stands before a better one, those of one
quality are in the order of the header, and parts that are left out do not matter for the others.
A quality that cannot be read is a number, since it counts as one. A quality that says that it is
not a number is read as such and compares with nothing, and then the order is lost.
-/
namespace Localization.Negotiation

open Number Text

/-- The range that a part names: what stands before a semicolon, without blanks around it. -/
def rangeIn (part : List Char) : List Char := trim (part.takeWhile (· != ';'))

def parametersIn (part : List Char) : List Char := (part.dropWhile (· != ';')).tail

/-- A range that is not empty and no single asterisk counts. -/
def namesRange (part : List Char) : Bool := !(rangeIn part).isEmpty && rangeIn part != ['*']

def preferenceIn (part : List Char) : Preference := ⟨rangeIn part, qualityOf (parametersIn part)⟩

/-- The quality that the parameters of a part give: the number behind `q=`, and one where nothing of
the kind stands there or it writes no number. -/
inductive Rates (parameters : List Char) : Binary64 → Prop
  | read {text : List Char} {quality : Binary64} (named : trim parameters = 'q' :: '=' :: text)
      (written : WritesNumber text quality) : Rates parameters quality
  | unread {text : List Char} (named : trim parameters = 'q' :: '=' :: text)
      (none : ∀ x, ¬ WritesNumber text x) : Rates parameters (.ofInt 1)
  | missing (none : ∀ text, trim parameters ≠ 'q' :: '=' :: text) : Rates parameters (.ofInt 1)

/-- A preference is that of a part of a header. -/
structure IsOf (part : List Char) (p : Preference) : Prop where
  range : p.range = rangeIn part
  quality : Rates (parametersIn part) p.quality

theorem rates_iff {parameters : List Char} {quality : Binary64} :
    Rates parameters quality ↔ qualityOf parameters = quality := by
  constructor
  · intro h
    rw [qualityOf.eq_def]
    cases h with
    | @read text _ named written =>
      rw [named]
      show (Binary64.ofText? text).getD fullQuality = quality
      rw [ofText?_eq_some_iff.mpr written, Option.getD_some]
    | @unread text named none =>
      have failed : Binary64.ofText? text = Option.none := by
        cases read : Binary64.ofText? text with
        | none => rfl
        | some x => exact absurd (ofText?_eq_some_iff.mp read) (none x)
      rw [named]
      show (Binary64.ofText? text).getD fullQuality = _
      rw [failed]
      rfl
    | missing none =>
      split
      · next text named => exact absurd named (none text)
      · rfl
  · rintro rfl
    rw [qualityOf.eq_def]
    split
    · next text named =>
      cases read : Binary64.ofText? text with
      | some x => exact .read named (ofText?_eq_some_iff.mp read)
      | none =>
        refine .unread named fun x written => ?_
        rw [ofText?_eq_some_iff.mpr written] at read
        cases read
    · next none => exact .missing none

theorem isOf_preferenceIn (part : List Char) : IsOf part (preferenceIn part) :=
  ⟨rfl, rates_iff.mpr rfl⟩

theorem cutAt?_getD (sep : Char) (cs : List Char) :
    (cutAt? sep cs).getD (cs, []) =
      (cs.takeWhile (· != sep), (cs.dropWhile (· != sep)).tail) := by
  induction cs with
  | nil => rfl
  | cons c rest ih =>
    unfold cutAt?
    by_cases here : c = sep
    · simp [here]
    · cases later : cutAt? sep rest with
      | none =>
        rw [later, Option.getD_none, Prod.mk.injEq] at ih
        simp [here, ← ih.1, ← ih.2]
      | some parts =>
        rw [later, Option.getD_some] at ih
        simp [here, ih]

theorem ofPart?_eq (part : List Char) :
    Preference.ofPart? part = if namesRange part then some (preferenceIn part) else none := by
  have test : namesRange part = !((rangeIn part).isEmpty || rangeIn part == ['*']) := by
    simp [namesRange, bne]
  unfold Preference.ofPart?
  rw [cutAt?_getD, test]
  change (if ((rangeIn part).isEmpty || rangeIn part == ['*']) = true then none
    else some (preferenceIn part)) = _
  cases (rangeIn part).isEmpty || rangeIn part == ['*'] <;> rfl

theorem preferencesIn_eq (header : List Char) :
    preferencesIn header = ((splitAt ',' header).filter namesRange).map preferenceIn := by
  have parts : preferencesIn header = (splitAt ',' header).filterMap Preference.ofPart? := by
    unfold preferencesIn
    split
    · next empty =>
      rw [List.isEmpty_iff.mp empty]
      rfl
    · rfl
  rw [parts]
  induction splitAt ',' header with
  | nil => rfl
  | cons part rest ih =>
    rw [List.filterMap_cons, ofPart?_eq, List.filter_cons, ih]
    cases namesRange part <;> rfl

theorem forall₂_preferencesIn (header : List Char) :
    List.Forall₂ IsOf ((splitAt ',' header).filter namesRange) (preferencesIn header) := by
  rw [preferencesIn_eq, List.forall₂_map_right_iff]
  exact List.forall₂_same.mpr fun part _ => isOf_preferenceIn part

theorem range_counts {header : List Char} {p : Preference} (h : p ∈ preferencesIn header) :
    p.range ≠ [] ∧ p.range ≠ ['*'] := by
  rw [preferencesIn_eq] at h
  obtain ⟨part, inside, rfl⟩ := List.mem_map.mp h
  have names := (List.mem_filter.mp inside).2
  simpa [namesRange, preferenceIn] using names

/-- All qualities of a header are numbers. -/
def Numeric (header : List Char) : Prop := ∀ p ∈ preferencesIn header, p.quality.isNaN = false

theorem Numeric.comparable {header : List Char} (h : Numeric header) :
    Comparable (fun p q : Preference => p.quality.lt q.quality) (preferencesIn header) where
  asymm _ _ _ _ less := Binary64.lt_asymm less
  between _ _ _ inside _ _ less := Binary64.lt_or_lt less (h _ inside)

/-- The preferences of a header are in order. -/
structure InOrder (header : List Char) : Prop where
  best : (preferences header).Pairwise fun p q => p.quality.lt q.quality = false
  ties : ∀ quality : Binary64, (preferences header).filter (·.quality.beq quality) =
    (preferencesIn header).filter (·.quality.beq quality)
  others : ∀ fewer : List Char, (splitAt ',' fewer).Sublist (splitAt ',' header) →
    (preferences fewer).Sublist (preferences header)

theorem Numeric.inOrder {header : List Char} (h : Numeric header) : InOrder header where
  best := ranked_pairwise h.comparable
  ties quality := filter_ranked h.comparable fun _ _ _ _ => Binary64.not_lt_of_beq
  others fewer left := by
    refine ranked_sublist h.comparable ?_
    rw [preferencesIn_eq, preferencesIn_eq]
    exact (left.filter namesRange).map preferenceIn

/-- Every part that names a range gives one preference, with the quality that it writes, and where all
qualities are numbers the preferences are in order. -/
theorem preferences_ranked (header : List Char) :
    (preferences header).Perm (preferencesIn header) ∧
      List.Forall₂ IsOf ((splitAt ',' header).filter namesRange) (preferencesIn header) ∧
      (Numeric header → InOrder header) :=
  ⟨ranked_perm (preferencesIn header), forall₂_preferencesIn header, Numeric.inOrder⟩

/-- A quality that cannot be read does not disturb the others. -/
theorem unread_quality_inOrder :
    Numeric "de;q=0.5,fr;q=abc,en;q=0.9".toList ∧ InOrder "de;q=0.5,fr;q=abc,en;q=0.9".toList ∧
      (preferences "de;q=0.5,fr;q=abc,en;q=0.9".toList).map (String.ofList ·.range) =
        ["fr", "en", "de"] := by
  have numeric : Numeric "de;q=0.5,fr;q=abc,en;q=0.9".toList := by
    unfold Numeric
    decide +kernel
  exact ⟨numeric, (preferences_ranked _).2.2 numeric, by decide +kernel⟩

/-- A quality that is not a number does: a preference of one half stands before one of nine
tenths. -/
theorem notNumber_disorders :
    (preferences "de;q=0.5,fr;q=nan,en;q=0.9".toList).map (String.ofList ·.range) =
        ["de", "fr", "en"] ∧
      ¬ (preferences "de;q=0.5,fr;q=nan,en;q=0.9".toList).Pairwise fun p q =>
        p.quality.isNaN = false → q.quality.isNaN = false → p.quality.lt q.quality = false := by
  decide +kernel

end Localization.Negotiation
