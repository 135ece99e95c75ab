import Localization.Proofs.Markup.Url

/-! # Which addresses are refused

An address is refused exactly when it begins, as it is judged, with a scheme that is not one of the
safe ones. Every other address is accepted: an empty one, one that begins like a path, and one with
no colon or with a slash, a question mark or a number sign before its first colon.
-/
namespace Localization.Markup

open Text

/-- A letter, and then letters, digits, plus signs, minus signs and points. -/
def IsScheme (scheme : List Char) : Prop :=
  ∃ first rest, scheme = first :: rest ∧ first.isAlpha = true ∧ ∀ c ∈ rest, isSchemeChar c = true

namespace IsScheme

variable {scheme : List Char}

theorem chars (h : IsScheme scheme) : ∀ c ∈ scheme, isSchemeChar c = true := by
  obtain ⟨first, rest, rfl, letter, others⟩ := h
  refine List.forall_mem_cons.mpr ⟨?_, others⟩
  simp [isSchemeChar, Char.isAlphanum, letter]

theorem start (h : IsScheme scheme) : ∃ c rest, scheme = c :: rest ∧ c.isAlpha = true := by
  obtain ⟨first, rest, same, letter, -⟩ := h
  exact ⟨first, rest, same, letter⟩

theorem isSafe_iff (h : IsScheme scheme) :
    isSafeScheme scheme = true ↔ String.ofList (scheme.map Char.toLower) ∈ safeSchemes := by
  have ascii : ∀ c ∈ scheme, c.toNat < 128 := fun c inside =>
    toNat_lt_of_isSchemeChar (h.chars c inside)
  rw [isSafeScheme, lower_of_ascii ascii, List.contains_iff_mem]

theorem mem_of_append {before rest after : List Char} {mark : Char} (noColon : ':' ∉ before)
    (other : mark ≠ ':') (same : scheme ++ ':' :: rest = before ++ mark :: after) :
    mark ∈ scheme := by
  rcases List.append_eq_append_iff.mp same with ⟨more, longer, tail⟩ | ⟨more, longer, tail⟩
  · cases more with
    | nil => exact absurd (List.cons.inj tail).1.symm other
    | cons c more =>
      obtain ⟨rfl, -⟩ := List.cons.inj tail
      exact absurd (longer ▸ List.mem_append_right scheme List.mem_cons_self) noColon
  · cases more with
    | nil => exact absurd (List.cons.inj tail).1 other
    | cons c more =>
      obtain ⟨rfl, -⟩ := List.cons.inj tail
      exact longer ▸ List.mem_append_right before List.mem_cons_self

end IsScheme

theorem takeWhile_colon {before : List Char} (noColon : ':' ∉ before) (rest : List Char) :
    (before ++ ':' :: rest).takeWhile (· != ':') = before := by
  have passed : ∀ c ∈ before, (c != ':') = true := by
    intro c inside
    refine bne_iff_ne.mpr ?_
    rintro rfl
    exact noColon inside
  rw [List.takeWhile_append_of_pos passed]
  simp

theorem exists_scheme_of_refused {judged : List Char} (refused : isSafeJudged judged = false) :
    ∃ scheme rest, judged = scheme ++ ':' :: rest ∧ IsScheme scheme ∧
      isSafeScheme scheme = false := by
  rw [isSafeJudged.eq_def] at refused
  cases judged with
  | nil => cases refused
  | cons first others =>
    simp only [Bool.if_true_left, Bool.or_eq_false_iff, decide_eq_false_iff_not,
      Bool.not_eq_true, Bool.not_eq_false'] at refused
    obtain ⟨-, colon, -, letter, chars, foreign⟩ := refused
    obtain ⟨scheme, rest, split, noColon⟩ :=
      List.eq_append_cons_of_mem (List.contains_iff_mem.mp colon)
    rw [split, takeWhile_colon noColon] at chars foreign
    refine ⟨scheme, rest, split, ?_, foreign⟩
    cases scheme with
    | nil =>
      obtain ⟨rfl, -⟩ := List.cons.inj split
      cases letter
    | cons c tail =>
      obtain ⟨rfl, -⟩ := List.cons.inj split
      exact ⟨first, tail, rfl, letter, (List.forall_mem_cons.mp (List.all_eq_true.mp chars)).2⟩

/-- What an address is judged by: character references are resolved, control characters removed, and
the blanks around it. -/
def judgedText (url : List Char) : Except Failure (List Char) :=
  (unescape url).map fun resolved =>
    trim (resolved.filter fun c => !(c.toNat ≤ 0x1F || c.toNat == 0x7F))

/-- A judged address without a scheme: it is empty, begins with a slash, a question mark, a number
sign or a point, has no colon, or has one of the first three before its first colon. -/
def IsRelative (judged : List Char) : Prop :=
  judged = [] ∨ (∃ first ∈ ['/', '?', '#', '.'], judged.head? = some first) ∨ ':' ∉ judged ∨
    ∃ before mark after, judged = before ++ mark :: after ∧ ':' ∉ before ∧ mark ∈ ['/', '?', '#']

theorem IsRelative.not_scheme {judged : List Char} (h : IsRelative judged) {scheme rest : List Char}
    (named : IsScheme scheme) : judged ≠ scheme ++ ':' :: rest := by
  rintro rfl
  rcases h with empty | ⟨first, early, begins⟩ | noColon | ⟨before, mark, after, split, none, path⟩
  · exact List.append_ne_nil_of_right_ne_nil scheme (List.cons_ne_nil _ _) empty
  · obtain ⟨c, others, rfl, letter⟩ := named.start
    obtain rfl : c = first := Option.some.inj begins
    simp only [List.mem_cons, List.not_mem_nil, or_false] at early
    rcases early with rfl | rfl | rfl | rfl <;> exact absurd letter (by decide)
  · exact noColon (List.mem_append_right scheme List.mem_cons_self)
  · simp only [List.mem_cons, List.not_mem_nil, or_false] at path
    have inside : mark ∈ scheme := by
      refine IsScheme.mem_of_append none ?_ split
      rcases path with rfl | rfl | rfl <;> decide
    have mild := (isSchemeChar_apart (named.chars mark inside)).2.2.1
    rcases path with rfl | rfl | rfl <;> exact absurd mild (by decide)

theorem isSafeJudged_of_isRelative {judged : List Char} (relative : IsRelative judged) :
    isSafeJudged judged = true := by
  refine Bool.of_not_eq_false fun isRefused => ?_
  obtain ⟨scheme, rest, begins, named, -⟩ := exists_scheme_of_refused isRefused
  exact relative.not_scheme named begins

theorem isSafeJudged_eq_false_iff (judged : List Char) :
    isSafeJudged judged = false ↔ ∃ scheme rest, judged = scheme ++ ':' :: rest ∧
      IsScheme scheme ∧
      String.ofList (scheme.map Char.toLower) ∉ ["http", "https", "mailto", "tel"] := by
  constructor
  · intro refused
    obtain ⟨scheme, rest, begins, named, foreign⟩ := exists_scheme_of_refused refused
    exact ⟨scheme, rest, begins, named, mt named.isSafe_iff.mpr (Bool.not_eq_true _ ▸ foreign)⟩
  · rintro ⟨scheme, rest, rfl, named, foreign⟩
    refine Bool.eq_false_iff.mpr fun safe => foreign (named.isSafe_iff.mp ?_)
    exact isSafeScheme_of_isSafeJudged named.start named.chars safe

/-- An address whose references can be resolved is refused exactly when a scheme that is not safe and
a colon begin its judged text, so a relative one is accepted. Where a reference is too long, nothing
is said. -/
theorem isSafeUrl_eq_ok_false_iff (url : List Char) :
    (isSafeUrl url = .ok false ↔ ∃ scheme rest, judgedText url = .ok (scheme ++ ':' :: rest) ∧
      IsScheme scheme ∧
      String.ofList (scheme.map Char.toLower) ∉ ["http", "https", "mailto", "tel"]) ∧
    (∀ judged, judgedText url = .ok judged → IsRelative judged → isSafeUrl url = .ok true) ∧
    ((isSafeUrl url).isOk ↔ ¬ HasLongReference url) := by
  have same : isSafeUrl url = (judgedText url).map isSafeJudged := rfl
  refine ⟨?_, fun judged reads relative => ?_, ?_⟩
  · rw [same, map_eq_ok_iff]
    constructor
    · rintro ⟨judged, reads, refused⟩
      obtain ⟨scheme, rest, rfl, foreign⟩ := (isSafeJudged_eq_false_iff judged).mp refused
      exact ⟨scheme, rest, reads, foreign⟩
    · rintro ⟨scheme, rest, reads, foreign⟩
      exact ⟨_, reads, (isSafeJudged_eq_false_iff _).mpr ⟨scheme, rest, rfl, foreign⟩⟩
  · rw [same, reads]
    exact congrArg Except.ok (isSafeJudged_of_isRelative relative)
  · rw [same, isOk_map, judgedText, isOk_map, unescape_isOk_iff]

/-- A path with a number in it is not judged, though it begins with a slash. -/
theorem numberPath_unjudged :
    ("/x".toList ++ longNumber).head? = some '/' ∧
      ¬ ∃ safe, isSafeUrl ("/x".toList ++ longNumber) = .ok safe := by
  refine ⟨rfl, ?_⟩
  rintro ⟨safe, judged⟩
  have read : (judgedText ("/x".toList ++ longNumber)).isOk := by
    obtain ⟨text, cleaned, -⟩ := map_eq_ok_iff.mp judged
    exact congrArg Except.isOk cleaned
  rw [judgedText, isOk_map, unescape_isOk_iff] at read
  exact read (hasLongReference_longNumber _)

end Localization.Markup
