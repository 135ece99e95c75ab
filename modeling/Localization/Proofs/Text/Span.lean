import Localization.Text.Split
import Mathlib.Data.List.TakeWhile

/-! # Texts up to a stop

A class of characters is read from a text up to the first character outside of it, whatever
follows there. Trimming takes blanks from both ends: no blank is left at an end, and blanks put
behind a text change nothing about it.
-/
namespace Localization.Text

theorem forall_head?_cons {P : Char → Prop} {c : Char} {rest : List Char} :
    (∀ d ∈ (c :: rest).head?, P d) ↔ P c := by
  simp

section Stop

variable {p : Char → Bool} {cs rest : List Char} (all : ∀ c ∈ cs, p c = true)
  (stop : ∀ c ∈ rest.head?, p c = false)

include all stop

theorem takeWhile_append_of_stop : (cs ++ rest).takeWhile p = cs := by
  rw [List.takeWhile_append_of_pos all]
  cases rest with
  | nil => rw [List.takeWhile_nil, List.append_nil]
  | cons c rest =>
    rw [List.takeWhile_cons, stop c rfl]
    exact List.append_nil cs

theorem dropWhile_append_of_stop : (cs ++ rest).dropWhile p = rest := by
  rw [List.dropWhile_append_of_pos all]
  cases rest with
  | nil => rfl
  | cons c rest =>
    rw [List.dropWhile_cons, stop c rfl]
    rfl

end Stop

theorem dropRightWhile_append_cons {p : Char → Bool} {c : Char} (h : p c = false)
    (before after : List Char) :
    dropRightWhile p (before ++ c :: after) = before ++ c :: dropRightWhile p after := by
  have stops : (c :: before.reverse).dropWhile p = c :: before.reverse := by
    rw [List.dropWhile_cons, h]
    rfl
  simp only [dropRightWhile, List.reverse_append, List.reverse_cons, List.append_assoc,
    List.singleton_append, List.dropWhile_append, stops]
  split
  · next all =>
    rw [List.isEmpty_iff.mp all]
    simp
  · simp

theorem trim_of_not_isBlank {cs : List Char} (h : ∀ c ∈ cs, isBlank c = false) :
    trim cs = cs := by
  have kept {ds : List Char} (apart : ∀ c ∈ ds, isBlank c = false) :
      ds.dropWhile isBlank = ds := by
    cases ds with
    | nil => rfl
    | cons d rest => simp [apart d List.mem_cons_self]
  rw [trim, kept h, dropRightWhile, kept fun c inside => h c (List.mem_reverse.mp inside),
    List.reverse_reverse]

theorem isBlank_of_getLast?_trim {cs : List Char} {c : Char} (last : (trim cs).getLast? = some c) :
    isBlank c = false := by
  rw [trim, dropRightWhile, List.getLast?_reverse] at last
  have first := List.head?_dropWhile_not isBlank (cs.dropWhile isBlank).reverse
  rwa [last] at first

theorem trim_append_of_isBlank (cs : List Char) {ds : List Char}
    (blank : ∀ c ∈ ds, isBlank c = true) : trim (cs ++ ds) = trim cs := by
  rw [trim, List.dropWhile_append]
  split
  · next empty =>
    rw [List.dropWhile_eq_nil_iff.mpr blank, trim, List.isEmpty_iff.mp empty]
  · exact dropRightWhile_append _ ds blank

end Localization.Text
