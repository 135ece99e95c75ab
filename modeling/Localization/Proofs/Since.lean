/-! # What has happened since

In a history something has happened since an ending when it happens at some place of the
history and no ending comes after that place. One more event either is such a place, or it is
no ending and leaves what has happened as it is.
-/
namespace Localization

variable {α : Type}

theorem append_cons_inj {x : α} {first second rest others : List α}
    (h : first ++ x :: rest = second ++ x :: others) (out : x ∉ first) (notIn : x ∉ second) :
    first = second ∧ rest = others := by
  induction first generalizing second with
  | nil =>
    cases second with
    | nil =>
      cases h
      exact ⟨rfl, rfl⟩
    | cons y ys =>
      cases h
      exact absurd List.mem_cons_self notIn
  | cons y ys ih =>
    cases second with
    | nil =>
      cases h
      exact absurd List.mem_cons_self out
    | cons z zs =>
      rw [List.cons_append, List.cons_append] at h
      obtain ⟨rfl, tails⟩ := List.cons.inj h
      have apart := List.ne_and_not_mem_of_not_mem_cons out
      have differ := List.ne_and_not_mem_of_not_mem_cons notIn
      obtain ⟨rfl, rfl⟩ := ih tails apart.2 differ.2
      exact ⟨rfl, rfl⟩

variable {ends : α → Prop} {happens : List α → α → Prop}

/-- Something happens in a history with an event, given the events before it, and nothing later
ends it. -/
def Since (ends : α → Prop) (happens : List α → α → Prop) (history : List α) : Prop :=
  ∃ before event later, history = before ++ event :: later ∧ happens before event ∧
    ∀ other ∈ later, ¬ ends other

theorem not_since_nil : ¬ Since ends happens [] := by
  rintro ⟨before, event, later, split, -⟩
  exact List.append_ne_nil_of_right_ne_nil before (List.cons_ne_nil event later) split.symm

theorem since_snoc {history : List α} {last : α} :
    Since ends happens (history ++ [last]) ↔
      happens history last ∨ ¬ ends last ∧ Since ends happens history := by
  constructor
  · rintro ⟨before, event, later, split, here, lasting⟩
    rcases List.eq_nil_or_concat later with rfl | ⟨front, final, rfl⟩
    · obtain ⟨rfl, same⟩ := List.append_inj' split rfl
      cases same
      exact .inl here
    · rw [List.concat_eq_append] at split lasting
      rw [← List.cons_append, ← List.append_assoc] at split
      obtain ⟨rfl, same⟩ := List.append_inj' split rfl
      cases same
      refine .inr ⟨lasting last (List.mem_append_right _ List.mem_cons_self), ?_⟩
      exact ⟨before, event, front, rfl, here,
        fun other inside => lasting other (List.mem_append_left _ inside)⟩
  · rintro (here | ⟨lasts, before, event, later, rfl, here, lasting⟩)
    · exact ⟨history, last, [], rfl, here, fun other inside => by cases inside⟩
    · refine ⟨before, event, later ++ [last], by simp, here, ?_⟩
      intro other inside
      rcases List.mem_append.mp inside with old | new
      · exact lasting other old
      · rwa [List.mem_singleton.mp new]

end Localization
