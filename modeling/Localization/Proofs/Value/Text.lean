import Localization.Failure

/-! # Values that have a text

A value has a text when no integer in it has more digits than are written, and nothing in it stands
deeper than the stack has room for. What it meets first when it is quoted is told by its parts, and
by theirs in turn.
-/
namespace Localization.Value

/-- The values that a value is made of. -/
def parts : Value → List Value
  | list items => items
  | tuple items => items
  | map entries => entries.flatMap fun entry => [entry.1, entry.2]
  | _ => []

/-- A value stands so deep within another one. -/
inductive Holds : Value → Nat → Value → Prop
  | self (v : Value) : Holds v 0 v
  | part {v part inner : Value} {depth : Nat} (direct : part ∈ v.parts)
      (inside : Holds part depth inner) : Holds v (depth + 1) inner

/-- Nothing in a value stands deeper than there is room for, and no integer in it is too long. -/
def HasText [Stack] (v : Value) : Prop :=
  ∀ depth part, v.Holds depth part → depth ≤ Stack.values ∧ part.isLongInteger = false

theorem itemObstacle?_eq_none {items : List Value} {room : Nat} :
    itemObstacle? items room = none ↔
      ∀ item ∈ items, room ≠ 0 ∧ item.obstacle? (room - 1) = none := by
  induction items with
  | nil => simp [itemObstacle?]
  | cons item rest ih =>
    cases room with
    | zero => exact iff_of_false nofun fun all => (all item List.mem_cons_self).1 rfl
    | succ room => simp [itemObstacle?, ih]

theorem entryObstacle?_eq_none {entries : Entries} {room : Nat} :
    entryObstacle? entries room = none ↔ ∀ entry ∈ entries, ∀ part ∈ [entry.1, entry.2],
      room ≠ 0 ∧ part.obstacle? (room - 1) = none := by
  induction entries with
  | nil => simp [entryObstacle?]
  | cons entry rest ih =>
    cases room with
    | zero =>
      exact iff_of_false nofun fun all => (all entry List.mem_cons_self _ List.mem_cons_self).1 rfl
    | succ room => simp [entryObstacle?, ih, and_assoc]

theorem obstacle?_eq_none_iff {v : Value} {room : Nat} :
    v.obstacle? room = none ↔ v.isLongInteger = false ∧
      ∀ part ∈ v.parts, room ≠ 0 ∧ part.obstacle? (room - 1) = none := by
  cases v with
  | list items => simp [obstacle?, isLongInteger, parts, itemObstacle?_eq_none]
  | tuple items => simp [obstacle?, isLongInteger, parts, itemObstacle?_eq_none]
  | map entries =>
    rw [obstacle?, entryObstacle?_eq_none, parts, List.forall_mem_flatMap]
    exact (and_iff_right rfl).symm
  | _ => simp [obstacle?, parts]

theorem obstacle?_eq_none (v : Value) (room : Nat) :
    v.obstacle? room = none ↔
      ∀ depth part, v.Holds depth part → depth ≤ room ∧ part.isLongInteger = false := by
  constructor
  · intro free depth part held
    induction held generalizing room with
    | self v => exact ⟨Nat.zero_le _, (obstacle?_eq_none_iff.mp free).1⟩
    | part direct _ ih =>
      obtain ⟨some, inner⟩ := (obstacle?_eq_none_iff.mp free).2 _ direct
      obtain ⟨near, short⟩ := ih _ inner
      exact ⟨by omega, short⟩
  · intro near
    induction room generalizing v with
    | zero =>
      refine obstacle?_eq_none_iff.mpr ⟨(near 0 v (.self v)).2, fun part direct => ?_⟩
      exact absurd (near 1 part (.part direct (.self part))).1 (by decide)
    | succ room ih =>
      refine obstacle?_eq_none_iff.mpr ⟨(near 0 v (.self v)).2, fun part direct => ?_⟩
      refine ⟨Nat.succ_ne_zero room, ih part fun depth inner held => ?_⟩
      obtain ⟨deeper, short⟩ := near (depth + 1) inner (.part direct held)
      exact ⟨Nat.le_of_succ_le_succ deeper, short⟩

theorem isOk_shown [Stack] (v : Value) : v.shown.isOk ↔ v.HasText := by
  rw [HasText, ← obstacle?_eq_none, shown]
  cases v.obstacle? Stack.values with
  | none => exact iff_of_true rfl rfl
  | some obstacle => exact iff_of_false nofun nofun

end Localization.Value
