import Localization.Value.Basic

/-! # Keys of different kinds

Each key has a form, and two values are one key when they have the same form. So one key may
stand for another in every comparison. Lists, maps and what is not a number have no form.
-/
namespace Localization.Value

def isTuple : Value → Bool
  | tuple _ => true
  | _ => false

/-- The form in which keys are compared. -/
inductive Form where
  | null
  | text (s : String)
  | octets (bytes : List UInt8)
  | date (d : Calendar.Date)
  | moment (known : Bool) (instant : Int)
  | number (q : Quantity)
  | tuple (parts : List Form)

def scalarForm? : Value → Option Form
  | null => some .null
  | text s => some (.text s)
  | octets bytes => some (.octets bytes)
  | date d => some (.date d)
  | moment t => some (.moment t.offset.isSome t.instant)
  | v => v.quantity?.map .number

mutual

def form? : Value → Option Form
  | tuple items => (forms? items).map .tuple
  | v => v.scalarForm?

def forms? : List Value → Option (List Form)
  | [] => some []
  | v :: rest => (form? v).bind fun f => (forms? rest).map (f :: ·)

end

theorem sameQuantity_iff (p q : Option Quantity) :
    (match p, q with
      | some p, some q => p == q
      | _, _ => false) = true ↔
      (p.map Form.number).isSome = true ∧ p.map Form.number = q.map Form.number := by
  cases p with
  | none => simp
  | some p => cases q <;> simp

@[simp] theorem ne_number {f : Form} (q : Option Quantity) (apart : ∀ n, f ≠ .number n) :
    ¬ some f = q.map .number := by
  cases q with
  | none => exact fun h => by cases h
  | some n => exact fun h => apart n (Option.some.inj h)

theorem sameScalar_iff (a b : Value) : a.sameScalar b = true ↔
    a.scalarForm?.isSome = true ∧ a.scalarForm? = b.scalarForm? := by
  -- Two numbers are compared by their quantities, and all else by kind.
  cases a <;> cases b <;>
    first
      | exact sameQuantity_iff (quantity? _) (quantity? _)
      | simp [sameScalar, scalarForm?, quantity?, Calendar.DateTime.same]

theorem no_tuple_form (v : Value) (parts? : Option (List Form)) :
    ¬ (v.scalarForm?.isSome = true ∧ v.scalarForm? = parts?.map .tuple) := by
  rintro ⟨some, same⟩
  cases parts? with
  | none =>
    rw [same] at some
    cases some
  | some parts => cases v <;> simp [scalarForm?] at same

theorem form?_of_scalar {v : Value} (h : v.isTuple = false) : v.form? = v.scalarForm? := by
  cases v with
  | tuple items => cases h
  | _ => rfl

theorem sameKey_of_scalar {a b : Value} (h : a.isTuple = false ∨ b.isTuple = false) :
    a.sameKey b = a.sameScalar b := by
  cases a with
  | tuple as =>
    cases b with
    | tuple bs => rcases h with h | h <;> cases h
    | _ => rfl
  | _ => rfl

theorem sameKey_iff_of_scalar {a b : Value} (h : a.isTuple = false ∨ b.isTuple = false) :
    a.sameKey b = true ↔ a.form?.isSome = true ∧ a.form? = b.form? := by
  rw [sameKey_of_scalar h, sameScalar_iff]
  cases left : a.isTuple with
  | false =>
    rw [form?_of_scalar left]
    cases right : b.isTuple with
    | false => rw [form?_of_scalar right]
    | true =>
      cases b with
      | tuple bs => exact iff_of_false (no_tuple_form a none) (no_tuple_form a (forms? bs))
      | _ => cases right
  | true =>
    have right : b.isTuple = false := h.resolve_left fun other => by rw [left] at other; cases other
    rw [form?_of_scalar right]
    cases a with
    | tuple as =>
      refine iff_of_false (fun h => Bool.false_ne_true h.1) fun h => ?_
      exact no_tuple_form b (forms? as) ⟨h.2 ▸ h.1, h.2.symm⟩
    | _ => cases left

mutual

theorem sameKey_iff : (a b : Value) →
    (a.sameKey b = true ↔ a.form?.isSome = true ∧ a.form? = b.form?)
  | tuple as, tuple bs => by
    simp only [sameKey, form?, sameKeys_iff as bs]
    cases forms? as <;> cases forms? bs <;> simp
  | tuple _, null | tuple _, bool _ | tuple _, int _ | tuple _, float _ | tuple _, decimal _
  | tuple _, text _ | tuple _, octets _ | tuple _, date _ | tuple _, moment _ | tuple _, list _
  | tuple _, map _ => sameKey_iff_of_scalar (.inr rfl)
  | null, _ | bool _, _ | int _, _ | float _, _ | decimal _, _ | text _, _ | octets _, _
  | date _, _ | moment _, _ | list _, _ | map _, _ => sameKey_iff_of_scalar (.inl rfl)

theorem sameKeys_iff : (as bs : List Value) →
    (sameKeys as bs = true ↔ (forms? as).isSome = true ∧ forms? as = forms? bs)
  | [], [] => by simp [sameKeys, forms?]
  | [], b :: bs => by
    simp only [sameKeys, forms?]
    cases form? b <;> cases forms? bs <;> simp
  | a :: as, [] => by
    simp only [sameKeys, forms?]
    cases form? a <;> cases forms? as <;> simp
  | a :: as, b :: bs => by
    rw [sameKeys, Bool.and_eq_true, sameKey_iff a b, sameKeys_iff as bs, forms?, forms?]
    cases form? a <;> cases form? b <;> cases forms? as <;> cases forms? bs <;> simp

end

theorem sameKey_comm (a b : Value) : a.sameKey b = b.sameKey a := by
  rw [Bool.eq_iff_iff, sameKey_iff, sameKey_iff]
  exact ⟨fun h => ⟨h.2 ▸ h.1, h.2.symm⟩, fun h => ⟨h.2 ▸ h.1, h.2.symm⟩⟩

theorem sameKey_congr {a b : Value} (h : a.sameKey b = true) (key : Value) :
    a.sameKey key = b.sameKey key := by
  rw [Bool.eq_iff_iff, sameKey_iff, sameKey_iff, ((sameKey_iff a b).mp h).2]

end Localization.Value
