import Localization.Format.Kind
import Localization.Proofs.Format.Number
import Localization.Proofs.Value.Text

/-! # Values that a format can show

A number has a text when it fits the places of its style, an amount of money when it fits those of
its currency. A list has one when its items have one and its locale has the joints that so many of
them need. Dates always have one, and what is shown as it is has one of its own or none. Where
there is none, arithmetic, a joint or the value itself is the reason.
-/
namespace Localization.Locale

/-- Whether so many items can be joined: two by the joint for pairs or, like more of them, by the
first and the last joint, with another one in the middle. -/
def Joints.Join (joints : Joints) (count : Nat) : Prop :=
  count ≤ 1 ∨ (count = 2 ∧ joints.pair.isSome) ∨
    (joints.start.isSome ∧ joints.last.isSome ∧ (3 < count → joints.middle.isSome))

end Localization.Locale

namespace Localization

namespace Attempt

variable {α β : Type}

/-- A step that cannot fail leaves it to the rest whether there is a result. -/
theorem isOk_liftM_bind (t : Traced α) (f : α → Attempt β) :
    (liftM t >>= f : Attempt β).outcome.isOk = (f t.value).outcome.isOk := by
  rw [outcome_bind, outcome_liftM]
  rfl

/-- A sequence whose rest has a result or not whatever comes first. -/
theorem isOk_bind {a : Attempt α} {f : α → Attempt β} {p : Prop}
    (rest : ∀ x, (f x).outcome.isOk ↔ p) :
    (a >>= f).outcome.isOk ↔ a.outcome.isOk ∧ p := by
  rw [outcome_bind]
  cases a.outcome with
  | error failure => exact iff_of_false nofun fun both => nomatch both.1
  | ok x => exact (rest x).trans (and_iff_right rfl).symm

theorem isOk_bind_pure (a : Attempt α) (f : α → β) :
    (a >>= fun x => pure (f x)).outcome.isOk = a.outcome.isOk := by
  rw [outcome_bind]
  cases a.outcome <;> rfl

end Attempt

/-- The failures of formats: of arithmetic, of a list whose locale lacks a joint, or of a value that
has no text. -/
def OfFormat (failure : Failure) : Prop :=
  (∃ fault, failure = .arithmetic fault) ∨ (∃ name, failure = .listJoint name) ∨
    ∃ obstacle, failure = .unwritten obstacle

/-- There is a result, or a failure of a format. -/
def FailsInFormat {α : Type} (outcome : Except Failure α) : Prop :=
  ∀ failure, outcome = .error failure → OfFormat failure

section Outcome

variable {α β : Type}

theorem failsInFormat_ok (a : α) : FailsInFormat (.ok a) := nofun

theorem failsInFormat_liftM (t : Traced α) : FailsInFormat (liftM t : Attempt α).outcome := by
  rw [Attempt.outcome_liftM]
  exact failsInFormat_ok _

theorem failsInFormat_shown [Stack] (v : Value) : FailsInFormat v.shown := by
  rw [Value.shown]
  split
  · rintro _ ⟨⟩
    exact .inr (.inr ⟨_, rfl⟩)
  · exact failsInFormat_ok _

theorem FailsInFormat.bind {outcome : Except Failure α} {f : α → Except Failure β}
    (h : FailsInFormat outcome) (rest : ∀ a, FailsInFormat (f a)) :
    FailsInFormat (outcome.bind f) := by
  cases outcome with
  | error failure =>
    rintro _ ⟨⟩
    exact h failure rfl
  | ok a => exact rest a

theorem FailsInFormat.andThen {a : Attempt α} {f : α → Attempt β} (h : FailsInFormat a.outcome)
    (rest : ∀ x, FailsInFormat (f x).outcome) : FailsInFormat (a >>= f).outcome := by
  rw [Attempt.outcome_bind]
  exact h.bind rest

theorem failsInFormat_mapM {f : α → Except Failure β} (each : ∀ a, FailsInFormat (f a))
    (items : List α) : FailsInFormat (items.mapM f) := by
  induction items with
  | nil => exact failsInFormat_ok _
  | cons item rest ih =>
    rw [List.mapM_cons]
    exact (each item).bind fun _ => ih.bind fun _ => failsInFormat_ok _

theorem isOk_mapM {f : α → Except Failure β} {items : List α} :
    (items.mapM f).isOk ↔ ∀ item ∈ items, (f item).isOk := by
  induction items with
  | nil => exact iff_of_true rfl (by simp)
  | cons item rest ih =>
    rw [List.mapM_cons, List.forall_mem_cons, ← ih]
    cases f item with
    | error failure => exact iff_of_false nofun fun both => nomatch both.1
    | ok b => cases rest.mapM f <;> exact (and_iff_right rfl).symm

theorem length_of_mapM {f : α → Except Failure β} {items : List α} {results : List β}
    (done : items.mapM f = .ok results) : results.length = items.length := by
  induction items generalizing results with
  | nil =>
    cases done
    rfl
  | cons item rest ih =>
    rw [List.mapM_cons] at done
    obtain ⟨first, -, done⟩ := bind_eq_ok_iff.mp done
    obtain ⟨others, read, done⟩ := bind_eq_ok_iff.mp done
    cases done
    exact congrArg (· + 1) (ih read)

end Outcome

end Localization

namespace Localization.Format

open Attempt Number Localization.Locale

theorem value_styleOr {α : Type} (event : String) (read : String → Option α) (name : String)
    (shown : Value) (fallback : α) :
    (styleOr event read name shown fallback).value = (read name).getD fallback := by
  rw [styleOr]
  cases read name <;> rfl

theorem forall_mem_some {α : Type} {p : α → Prop} {a : α} : (∀ b ∈ some a, p b) ↔ p a := by
  simp

section Number

theorem short_of_fits {value : Value} {d : Decimal} (read : numberOf? value = some d) {places : Int}
    (usual : -100 ≤ places) (fits : d.Fits places) : value.isLongInteger = false := by
  cases value with
  | int n =>
    cases read
    rw [Value.isLongInteger, decide_eq_false_iff_not, tenTo_eq]
    intro long
    have limit : (Text.maxWholeDigits : Int) = 4300 := rfl
    have beyond : (10 : ℚ) ^ (28 : Int) ≤ amount n.natAbs (0 + places) :=
      le_amount_of_le long (by omega)
    have below : amount n.natAbs (0 + places) < 10 ^ 28 - 1 / 2 := fits
    have power : (10 : ℚ) ^ (28 : Int) = 10 ^ 28 := rfl
    rw [power] at beyond
    linarith
  | _ => rfl

theorem isOk_finishNumber (value : Value) (result : Except ArithmeticFault (List Char)) :
    (finishNumber value result).outcome.isOk ↔ value.isLongInteger = false ∧ result.isOk := by
  unfold finishNumber
  cases value.isLongInteger with
  | true => exact iff_of_false nofun nofun
  | false => cases result <;> exact (and_iff_right rfl).symm

theorem finishNumber_fails (value : Value) (result : Except ArithmeticFault (List Char)) :
    FailsInFormat (finishNumber value result).outcome := by
  unfold finishNumber
  cases value.isLongInteger with
  | true =>
    rintro _ ⟨⟩
    exact .inr (.inr ⟨_, rfl⟩)
  | false =>
    cases result with
    | error fault =>
      rintro _ ⟨⟩
      exact .inl ⟨fault, rfl⟩
    | ok digits => exact failsInFormat_ok _

def numberStyle (argument : Option String) : NumberStyle :=
  (NumberStyle.ofName? (styleName (orDefault argument "decimal"))).getD .decimal

theorem short_of_accepts {value : Value} {d : Decimal} (read : numberOf? value = some d)
    {style : NumberStyle} {conventions : Conventions} (accepts : style.Accepts conventions d) :
    value.isLongInteger = false := by
  cases style with
  | decimal => exact short_of_fits read (by omega) accepts
  | percent => exact short_of_fits read (by omega) accepts
  | integer => exact short_of_fits read (by decide) accepts
  | compact => exact short_of_fits read (compactPlaces_bounds conventions).1 accepts.1

theorem currencyForm_isOk [Data] (conventions : Conventions) (code : String) (d : Decimal) :
    ((currencyForm conventions code).apply conventions d).isOk ↔
      d.Fits (Data.currencyDigits code) := by
  rw [apply_limited_isOk (currencyForm conventions code) conventions rfl]
  exact iff_of_eq (congrArg d.Fits (zero_add _))

variable [Stack]

theorem misfit_isOk (event : String) (value : Value) (locale : Option String) :
    (misfit event value locale).outcome.isOk ↔ value.HasText := by
  rw [misfit, isOk_bind (p := True) fun text => iff_of_true rfl trivial, outcome_ofExcept,
    Value.isOk_shown, and_true]

theorem misfit_fails (event : String) (value : Value) (locale : Option String) :
    FailsInFormat (misfit event value locale).outcome := by
  refine FailsInFormat.andThen (failsInFormat_shown value) fun text => ?_
  exact (failsInFormat_liftM _).andThen fun _ => failsInFormat_ok _

variable [Data]

theorem number_isOk (value : Value) (locale style : Option String) :
    (number value locale style).outcome.isOk ↔ (numberOf? value = none → value.HasText) ∧
      ∀ d ∈ numberOf? value, (numberStyle style).Accepts (conventionsFor locale).value d := by
  rw [number]
  cases read : numberOf? value with
  | none => simp [misfit_isOk]
  | some d =>
    dsimp only
    rw [isOk_liftM_bind, isOk_liftM_bind, isOk_finishNumber, value_styleOr, ← numberStyle,
      NumberStyle.apply_isOk, forall_mem_some, and_iff_right_of_imp (short_of_accepts read)]
    simp

theorem currency_isOk (value : Value) (locale code : Option String) :
    (currency value locale code).outcome.isOk ↔ (numberOf? value = none → value.HasText) ∧
      ∀ d ∈ numberOf? value, d.Fits (Data.currencyDigits (currencyCode code).value) := by
  rw [currency]
  cases read : numberOf? value with
  | none => simp [misfit_isOk]
  | some d =>
    dsimp only
    rw [isOk_liftM_bind, isOk_liftM_bind, isOk_finishNumber, currencyForm_isOk, forall_mem_some,
      and_iff_right_of_imp (short_of_fits read (by omega))]
    simp

theorem number_fails (value : Value) (locale style : Option String) :
    FailsInFormat (number value locale style).outcome := by
  rw [number]
  split
  · exact misfit_fails _ value locale
  · refine (failsInFormat_liftM _).andThen fun conventions => ?_
    exact (failsInFormat_liftM _).andThen fun style => finishNumber_fails value _

theorem currency_fails (value : Value) (locale code : Option String) :
    FailsInFormat (currency value locale code).outcome := by
  rw [currency]
  split
  · exact misfit_fails _ value locale
  · refine (failsInFormat_liftM _).andThen fun code => ?_
    exact (failsInFormat_liftM _).andThen fun conventions => finishNumber_fails value _

theorem date_isOk (value : Value) (locale style : Option String) :
    (date value locale style).outcome.isOk ↔ (dateOf? value = none → value.HasText) := by
  rw [date]
  cases dateOf? value with
  | none => simp [misfit_isOk]
  | some d =>
    dsimp only
    rw [isOk_liftM_bind, isOk_liftM_bind]
    exact iff_of_true rfl nofun

theorem date_fails (value : Value) (locale style : Option String) :
    FailsInFormat (date value locale style).outcome := by
  rw [date]
  split
  · exact misfit_fails _ value locale
  · refine (failsInFormat_liftM _).andThen fun style => ?_
    exact (failsInFormat_liftM _).andThen fun conventions => failsInFormat_ok _

end Number

theorem joint_fails (name : String) (join : Option Joint) : FailsInFormat (joint name join) := by
  cases join with
  | none =>
    rintro _ ⟨⟩
    exact .inr (.inl ⟨name, rfl⟩)
  | some join => exact failsInFormat_ok join

theorem joinRest_fails (joints : Joints) (text : String) (items : List String) :
    FailsInFormat (joinRest joints text items) := by
  induction items generalizing text with
  | nil => exact failsInFormat_ok text
  | cons item rest ih =>
    cases rest with
    | nil => exact (joint_fails "end" joints.last).bind fun _ => failsInFormat_ok _
    | cons next rest => exact (joint_fails "middle" joints.middle).bind fun _ => ih _

theorem joinItems_fails (joints : Joints) (items : List String) :
    FailsInFormat (joinItems joints items) := by
  match items with
  | [] => exact failsInFormat_ok _
  | [item] => exact failsInFormat_ok _
  | [first, second] =>
    rw [joinItems]
    cases joints.pair with
    | some pair => exact failsInFormat_ok _
    | none => exact (joint_fails "start" joints.start).bind fun _ => joinRest_fails _ _ _
  | first :: second :: third :: rest =>
    exact (joint_fails "start" joints.start).bind fun _ => joinRest_fails _ _ _

theorem joinRest_isOk (joints : Joints) (text : String) (items : List String) :
    (joinRest joints text items).isOk ↔
      items = [] ∨ (joints.last.isSome ∧ (1 < items.length → joints.middle.isSome)) := by
  obtain ⟨start, middle, last, pair⟩ := joints
  induction items generalizing text with
  | nil => exact iff_of_true rfl (.inl rfl)
  | cons item rest ih =>
    cases rest with
    | nil =>
      cases last with
      | none => exact iff_of_false nofun (by simp)
      | some last => exact iff_of_true rfl (by simp)
    | cons next rest =>
      cases middle with
      | none => exact iff_of_false nofun (by simp)
      | some middle =>
        refine (ih (middle text item)).trans ?_
        simp

theorem joinItems_isOk (joints : Joints) (items : List String) :
    (joinItems joints items).isOk ↔ joints.Join items.length := by
  obtain ⟨start, middle, last, pair⟩ := joints
  match items with
  | [] => exact iff_of_true rfl (.inl (Nat.zero_le 1))
  | [item] => exact iff_of_true rfl (.inl le_rfl)
  | [first, second] =>
    cases pair with
    | some pair => exact iff_of_true rfl (.inr (.inl ⟨rfl, rfl⟩))
    | none =>
      cases start with
      | none => exact iff_of_false nofun (by simp [Joints.Join])
      | some start =>
        refine (joinRest_isOk _ (start first second) [second]).trans ?_
        simp [Joints.Join]
  | first :: second :: third :: rest =>
    cases start with
    | none => exact iff_of_false nofun (by simp [Joints.Join])
    | some start =>
      refine (joinRest_isOk _ (start first second) (third :: rest)).trans ?_
      simp [Joints.Join]

theorem joinItemsOr_isOk (joints : Option Joints) (items : List String) :
    (joinItemsOr joints items).isOk ↔ ∀ given ∈ joints, given.Join items.length := by
  cases joints with
  | none => exact iff_of_true rfl nofun
  | some joints => rw [joinItemsOr, joinItems_isOk, forall_mem_some]

theorem joinItemsOr_fails (joints : Option Joints) (items : List String) :
    FailsInFormat (joinItemsOr joints items) := by
  cases joints with
  | none => exact failsInFormat_ok _
  | some joints => exact joinItems_fails joints items

def listStyle (argument : Option String) : ListStyle :=
  (ListStyle.ofName? (styleName (orDefault argument "conjunction"))).getD .conjunction

section List

variable [Stack] [Data]

theorem list_isOk (value : Value) (locale style : Option String) :
    (list value locale style).outcome.isOk ↔ (∀ item ∈ itemsOf value, item.HasText) ∧
      ∀ joints ∈ (conventionsFor locale).value.joints (listStyle style),
        joints.Join (itemsOf value).length := by
  have shown : (∀ item ∈ itemsOf value, item.HasText) ↔ ((itemsOf value).mapM Value.shown).isOk :=
    (isOk_mapM.trans (forall₂_congr fun item _ => item.isOk_shown)).symm
  rw [shown, list, outcome_bind, outcome_ofExcept]
  cases read : (itemsOf value).mapM Value.shown with
  | error failure => exact iff_of_false nofun fun both => nomatch both.1
  | ok texts =>
    rw [← length_of_mapM read, Except.bind]
    refine Iff.trans ?_ (and_iff_right rfl).symm
    match texts with
    | [] => exact iff_of_true rfl fun _ _ => .inl (Nat.zero_le 1)
    | [item] => exact iff_of_true rfl fun _ _ => .inl le_rfl
    | first :: second :: rest =>
      refine Iff.trans ?_ (joinItemsOr_isOk _ _)
      rw [isOk_liftM_bind, isOk_liftM_bind, value_styleOr, ← listStyle, outcome_ofExcept]

theorem list_fails (value : Value) (locale style : Option String) :
    FailsInFormat (list value locale style).outcome := by
  have items := failsInFormat_mapM failsInFormat_shown (itemsOf value)
  refine FailsInFormat.andThen items fun texts => ?_
  split
  · exact failsInFormat_ok _
  · exact failsInFormat_ok _
  · refine (failsInFormat_liftM _).andThen fun style => ?_
    exact (failsInFormat_liftM _).andThen fun conventions => joinItemsOr_fails _ _

/-- What a kind of format, with an argument in a locale, has a text for. Without a kind that is every
value with a text of its own. -/
def Shows (kind : Option Kind) (value : Value) (argument locale : Option String) : Prop :=
  match kind with
  | none => value.HasText
  | some .number => (numberOf? value = none → value.HasText) ∧
    ∀ d ∈ numberOf? value, (numberStyle argument).Accepts (conventionsFor locale).value d
  | some .currency => (numberOf? value = none → value.HasText) ∧
    ∀ d ∈ numberOf? value, d.Fits (Data.currencyDigits (currencyCode argument).value)
  | some .date => dateOf? value = none → value.HasText
  | some .list => (∀ item ∈ itemsOf value, item.HasText) ∧
    ∀ joints ∈ (conventionsFor locale).value.joints (listStyle argument),
      joints.Join (itemsOf value).length

theorem ofKind_isOk (kind : Option Kind) (value : Value) (argument locale : Option String) :
    (ofKind kind value argument locale).outcome.isOk ↔ Shows kind value argument locale := by
  cases kind with
  | none => exact value.isOk_shown
  | some kind =>
    cases kind with
    | number => exact number_isOk value locale argument
    | currency => exact currency_isOk value locale argument
    | date => exact date_isOk value locale argument
    | list => exact list_isOk value locale argument

theorem ofKind_fails (kind : Option Kind) (value : Value) (argument locale : Option String) :
    FailsInFormat (ofKind kind value argument locale).outcome := by
  cases kind with
  | none => exact failsInFormat_shown value
  | some kind =>
    cases kind with
    | number => exact number_fails value locale argument
    | currency => exact currency_fails value locale argument
    | date => exact date_fails value locale argument
    | list => exact list_fails value locale argument

end List

end Localization.Format
