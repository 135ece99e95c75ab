import Localization.Locale.Code
import Localization.Proofs.Text.Span

/-! # The form of a code

Dashes and underscores cut a text into what stands before the first of them and what follows each.
A text is a code exactly when the former is two or three letters and each of the latter two to eight
letters or digits. A text without blanks around it passes as a code only if it is one.
-/
namespace Localization.Locale

open Text

def IsSeparator (c : Char) : Prop := c = '-' ∨ c = '_'

theorem not_isSeparator_of_isAlphanum {c : Char} (h : c.isAlphanum = true) : ¬ IsSeparator c := by
  rintro (rfl | rfl) <;> exact absurd h (by decide)

theorem subtags_cons_of_isSeparator {c : Char} (h : IsSeparator c) (rest : List Char) :
    subtags (c :: rest) = [] :: subtags rest := by
  have dash : (if c = '_' then '-' else c) = '-' := by rcases h with rfl | rfl <;> rfl
  rw [subtags, dashed, List.map_cons, dash, splitAt, if_pos rfl]
  rfl

theorem subtags_cons_of_not_isSeparator {c : Char} (h : ¬ IsSeparator c) {rest first : List Char}
    {parts : List (List Char)} (cut : subtags rest = first :: parts) :
    subtags (c :: rest) = (c :: first) :: parts := by
  rw [subtags] at cut ⊢
  rw [dashed, List.map_cons, if_neg fun underscore => h (.inr underscore), splitAt,
    if_neg fun dash => h (.inl dash), ← dashed, cut]

def withGroups (first : List Char) (groups : List (Char × List Char)) : List Char :=
  first ++ groups.flatMap fun group => group.1 :: group.2

theorem exists_withGroups (cs : List Char) :
    ∃ first groups, cs = withGroups first groups ∧ (∀ group ∈ groups, IsSeparator group.1) ∧
      subtags cs = first :: groups.map Prod.snd := by
  induction cs with
  | nil => exact ⟨[], [], rfl, List.forall_mem_nil _, rfl⟩
  | cons c rest ih =>
    obtain ⟨first, groups, whole, marks, cut⟩ := ih
    by_cases separator : IsSeparator c
    · refine ⟨[], (c, first) :: groups, congrArg (c :: ·) whole,
        List.forall_mem_cons.mpr ⟨separator, marks⟩, ?_⟩
      rw [subtags_cons_of_isSeparator separator, cut]
      rfl
    · exact ⟨c :: first, groups, congrArg (c :: ·) whole, marks,
        subtags_cons_of_not_isSeparator separator cut⟩

theorem subtags_append {first rest : List Char} {parts : List (List Char)}
    (apart : ∀ c ∈ first, ¬ IsSeparator c) (cut : subtags rest = [] :: parts) :
    subtags (first ++ rest) = first :: parts := by
  induction first with
  | nil => exact cut
  | cons c others ih =>
    obtain ⟨here, later⟩ := List.forall_mem_cons.mp apart
    exact subtags_cons_of_not_isSeparator here (ih later)

theorem subtags_withGroups {first : List Char} {groups : List (Char × List Char)}
    (apart : ∀ c ∈ first, ¬ IsSeparator c)
    (each : ∀ group ∈ groups, IsSeparator group.1 ∧ ∀ c ∈ group.2, ¬ IsSeparator c) :
    subtags (withGroups first groups) = first :: groups.map Prod.snd := by
  refine subtags_append apart ?_
  induction groups with
  | nil => rfl
  | cons group others ih =>
    obtain ⟨⟨mark, word⟩, later⟩ := List.forall_mem_cons.mp each
    rw [List.flatMap_cons, List.cons_append, subtags_cons_of_isSeparator mark,
      subtags_append word (ih later)]
    rfl

def IsLanguage (part : List Char) : Prop :=
  2 ≤ part.length ∧ part.length ≤ 3 ∧ ∀ c ∈ part, c.isAlpha = true

def IsGroup (group : Char × List Char) : Prop :=
  IsSeparator group.1 ∧ 2 ≤ group.2.length ∧ group.2.length ≤ 8 ∧ ∀ c ∈ group.2, c.isAlphanum = true

/-- Two or three letters and, after them, groups of two to eight letters or digits. -/
def WellFormed (cs : List Char) : Prop :=
  ∃ language groups, cs = withGroups language groups ∧ IsLanguage language ∧
    ∀ group ∈ groups, IsGroup group

theorem isLanguage_iff {part : List Char} : isLanguage part = true ↔ IsLanguage part := by
  simp [isLanguage, IsLanguage, isAsciiLetter, and_assoc]

theorem isSubtag_iff {part : List Char} : isSubtag part = true ↔
    2 ≤ part.length ∧ part.length ≤ 8 ∧ ∀ c ∈ part, c.isAlphanum = true := by
  simp [isSubtag, isAsciiAlphanumeric, and_assoc]

theorem IsLanguage.isAlphanum {part : List Char} (letters : IsLanguage part) :
    ∀ c ∈ part, c.isAlphanum = true :=
  fun c inside => Bool.or_eq_true_iff.mpr (.inl (letters.2.2 c inside))

theorem IsLanguage.subtags {language : List Char} {groups : List (Char × List Char)}
    (letters : IsLanguage language) (each : ∀ group ∈ groups, IsGroup group) :
    subtags (withGroups language groups) = language :: groups.map Prod.snd := by
  refine subtags_withGroups ?_ fun group inside => ?_
  · exact fun c inside => not_isSeparator_of_isAlphanum (letters.isAlphanum c inside)
  · obtain ⟨mark, -, -, word⟩ := each group inside
    exact ⟨mark, fun c there => not_isSeparator_of_isAlphanum (word c there)⟩

theorem isCode_iff {cs : List Char} : isCode cs = true ↔ WellFormed cs := by
  constructor
  · intro code
    obtain ⟨language, groups, whole, marks, cut⟩ := exists_withGroups cs
    rw [isCode, cut, Bool.and_eq_true, List.all_eq_true] at code
    refine ⟨language, groups, whole, isLanguage_iff.mp code.1, fun group inside => ?_⟩
    exact ⟨marks group inside, isSubtag_iff.mp (code.2 group.2 (List.mem_map_of_mem inside))⟩
  · rintro ⟨language, groups, rfl, letters, each⟩
    rw [isCode, letters.subtags each, Bool.and_eq_true, List.all_eq_true]
    refine ⟨isLanguage_iff.mpr letters, fun part inside => ?_⟩
    obtain ⟨group, there, rfl⟩ := List.mem_map.mp inside
    exact isSubtag_iff.mpr (each group there).2

instance : DecidablePred WellFormed := fun _ => decidable_of_iff _ isCode_iff

/-- What passes as a code is one, or it is one with a line feed behind it. -/
theorem isAccepted_iff {cs : List Char} :
    isAccepted cs = true ↔ WellFormed cs ∨ ∃ code, WellFormed code ∧ cs = code ++ ['\n'] := by
  rw [isAccepted, Bool.or_eq_true, Bool.and_eq_true, beq_iff_eq, isCode_iff, isCode_iff]
  refine or_congr_right ⟨?_, ?_⟩
  · rintro ⟨last, code⟩
    obtain ⟨front, rfl⟩ := List.getLast?_eq_some_iff.mp last
    rw [List.dropLast_concat] at code
    exact ⟨front, code, rfl⟩
  · rintro ⟨code, wellFormed, rfl⟩
    rw [List.getLast?_concat, List.dropLast_concat]
    exact ⟨rfl, wellFormed⟩

theorem isAccepted_trim_iff {cs : List Char} :
    isAccepted (trim cs) = true ↔ WellFormed (trim cs) := by
  rw [isAccepted_iff]
  refine or_iff_left ?_
  rintro ⟨code, -, whole⟩
  have feed : (trim cs).getLast? = some '\n' := by rw [whole, List.getLast?_concat]
  exact absurd (isBlank_of_getLast?_trim feed) (by decide)

end Localization.Locale
