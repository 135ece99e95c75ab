import Localization.Proofs.Locale.Form
import Localization.Proofs.Text.Casing

/-! # Codes and their languages

A locale code is made of ASCII letters and digits with dashes and underscores between them. The
language of a text holds neither of the two, so a code that is spelled like the language of some
text is a bare language and its own.
-/
namespace Localization

open Text

namespace Text

theorem headD_splitAt (sep : Char) (cs : List Char) :
    (splitAt sep cs).headD [] = cs.takeWhile (· != sep) := by
  induction cs with
  | nil => rfl
  | cons c rest ih =>
    unfold splitAt
    by_cases here : c = sep
    · simp [here]
    · cases parts : splitAt sep rest with
      | nil => exact absurd parts (splitAt_ne_nil sep rest)
      | cons part others =>
        rw [parts] at ih
        simp [here, ← ih]

end Text

namespace Locale

theorem isAlphanum_of_isCode {cs : List Char} (h : isCode cs = true) {c : Char} (inside : c ∈ cs)
    (dash : c ≠ '-') (underscore : c ≠ '_') : c.isAlphanum = true := by
  obtain ⟨language, groups, rfl, letters, each⟩ := isCode_iff.mp h
  rcases List.mem_append.mp inside with first | later
  · exact letters.isAlphanum c first
  · obtain ⟨group, among, within⟩ := List.mem_flatMap.mp later
    obtain ⟨mark, -, -, word⟩ := each group among
    rcases List.mem_cons.mp within with rfl | part
    · exact absurd mark (not_or.mpr ⟨dash, underscore⟩)
    · exact word c part

theorem isCode_char {cs : List Char} (h : isCode cs = true) {c : Char} (inside : c ∈ cs) :
    c.toNat < 128 ∧ isBlank c = false := by
  by_cases dash : c = '-'
  · subst dash
    decide
  by_cases underscore : c = '_'
  · subst underscore
    decide
  have word := isAlphanum_of_isCode h inside dash underscore
  have ascii := toNat_lt_of_isAlphanum word
  exact ⟨ascii, ascii_forall (P := fun c => c.isAlphanum = true → isBlank c = false)
    (by decide +kernel) ascii word⟩

theorem WellFormed.trim_eq {cs : List Char} (h : WellFormed cs) : trim cs = cs :=
  trim_of_not_isBlank fun _ inside => (isCode_char (isCode_iff.mpr h) inside).2

theorem WellFormed.trimString_eq {s : String} (h : WellFormed s.toList) : trimString s = s := by
  rw [trimString, h.trim_eq, String.ofList_toList]

theorem WellFormed.feed_not_mem {cs : List Char} (h : WellFormed cs) : '\n' ∉ cs :=
  fun inside => absurd (isCode_char (isCode_iff.mpr h) inside).2 (by decide)

theorem wellFormed_of_isAccepted {cs : List Char} (h : isAccepted cs = true) (noFeed : '\n' ∉ cs) :
    WellFormed cs := by
  refine (isAccepted_iff.mp h).resolve_right ?_
  rintro ⟨code, -, rfl⟩
  exact noFeed (List.mem_append_right code List.mem_cons_self)

/-- What passes as a code spells one, behind which a line feed may stand. -/
theorem trim_of_isAccepted {cs : List Char} (h : isAccepted cs = true) :
    WellFormed (trim cs) ∧ (cs = trim cs ∨ cs = trim cs ++ ['\n']) := by
  rcases isAccepted_iff.mp h with code | ⟨code, wellFormed, rfl⟩
  · rw [code.trim_eq]
    exact ⟨code, .inl rfl⟩
  · rw [trim_append_of_isBlank code (List.forall_mem_singleton.mpr (by decide)),
      wellFormed.trim_eq]
    exact ⟨wellFormed, .inr rfl⟩

theorem language_eq (cs : List Char) :
    language cs = lower ((dashed (trim cs)).takeWhile (· != '-')) := by
  rw [language, subtags, headD_splitAt]

theorem separator_not_mem_language {mark : Char} (separator : mark = '-' ∨ mark = '_')
    (cs : List Char) : mark ∉ language cs := by
  intro inside
  rw [language_eq] at inside
  have taken := mem_of_mem_lower separator inside
  rcases separator with rfl | rfl
  · exact absurd (List.all_eq_true.mp List.all_takeWhile '-' taken) (by decide)
  · obtain ⟨c, -, same⟩ := List.mem_map.mp ((List.takeWhile_sublist _).subset taken)
    split at same
    · cases same
    · next differ => exact differ same

theorem language_withGroups {part : List Char} {groups : List (Char × List Char)}
    (letters : IsLanguage part) (each : ∀ group ∈ groups, IsGroup group) :
    language (withGroups part groups) = lower part := by
  have code : WellFormed (withGroups part groups) := ⟨part, groups, rfl, letters, each⟩
  rw [language, code.trim_eq, letters.subtags each, List.headD_cons]

theorem language_of_isCode {cs : List Char} (h : isCode cs = true) {text : List Char}
    (same : lower cs = language text) : language cs = language text := by
  have apart {mark : Char} (separator : IsSeparator mark) : mark ∉ cs := by
    intro inside
    refine separator_not_mem_language separator text ?_
    rw [← same, lower_of_ascii fun c inside => (isCode_char h inside).1]
    refine List.mem_map.mpr ⟨mark, inside, ?_⟩
    rcases separator with rfl | rfl <;> rfl
  obtain ⟨part, groups, rfl, letters, each⟩ := isCode_iff.mp h
  cases groups with
  | nil => rw [language_withGroups letters each, ← same, withGroups, List.flatMap_nil,
      List.append_nil]
  | cons group others =>
    have mark := (each group List.mem_cons_self).1
    exact absurd (List.mem_append_right part List.mem_cons_self) (apart mark)

theorem two_le_length_of_isCode {cs : List Char} (h : isCode cs = true) :
    2 ≤ (language cs).length ∧ 2 ≤ (lower cs).length := by
  have ascii : ∀ c ∈ cs, c.toNat < 128 := fun c inside => (isCode_char h inside).1
  obtain ⟨part, groups, rfl, letters, each⟩ := isCode_iff.mp h
  constructor
  · rw [language_withGroups letters each,
      lower_of_ascii fun c inside => ascii c (List.mem_append_left _ inside), List.length_map]
    exact letters.1
  · rw [lower_of_ascii ascii, List.length_map, withGroups, List.length_append]
    exact Nat.le_add_right_of_le letters.1

end Locale

end Localization
