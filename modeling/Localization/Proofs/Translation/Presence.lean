import Localization.Locale.Table
import Localization.Proofs.Translation.Resolution
import Localization.Translation.Translator

/-! # Messages that are present

A translator has a message under a key that leads to a text or to a set of plural forms. A text
that a translation finds is at the key itself or is one of the plural forms there. So the message
is denied only where a map has plural forms beside entries of other names.
-/
namespace Localization

namespace Catalog

theorem Leads.last {node leaf : Value} {path : List String} {key : String}
    (h : Leads node (path ++ [key]) leaf) :
    ∃ entries, Leads node path (.map entries) ∧ Entries.get? entries (.text key) = some leaf := by
  induction path generalizing node with
  | nil =>
    cases h with
    | step _ found rest =>
      cases rest
      exact ⟨_, .here _, found⟩
  | cons first path ih =>
    cases h with
    | step safe found rest =>
      obtain ⟨entries, before, last⟩ := ih rest
      exact ⟨entries, .step safe found before, last⟩

theorem segments_form (key : String) (category : Plural.Category) :
    segments (key ++ "." ++ category.name) = segments key ++ [category.name] := by
  have name : Text.splitAt '.' category.name.toList = [category.name.toList] := by
    cases category <;> decide
  have whole : (key ++ "." ++ category.name).toList =
      key.toList ++ '.' :: category.name.toList := by simp
  rw [segments, Text.splitString, whole, Text.splitAt_append_cons, name, List.map_append]
  simp [segments, Text.splitString]

end Catalog

namespace Translation

open Plural

variable {key : String} {params : Option Entries}

theorem mem_candidatesIn {locale : String} {candidate : String × String}
    (h : candidate ∈ candidatesIn locale key params) :
    candidate = (locale, key) ∨
      ∃ category : Category, candidate = (locale, key ++ "." ++ category.name) := by
  have forms {count : Count} {path : String}
      (inside : path ∈ pluralPaths locale key count ++ [key]) :
      path = key ∨ ∃ category : Category, path = key ++ "." ++ category.name := by
    rcases List.mem_append.mp inside with plural | plain
    · rcases List.mem_cons.mp plural with rfl | other
      · exact .inr ⟨_, rfl⟩
      · refine .inr ⟨.other, (List.mem_singleton.mp other).trans ?_⟩
        rw [String.append_assoc]
        rfl
    · exact .inl (List.mem_singleton.mp plain)
  obtain ⟨path, inside, rfl⟩ := List.mem_map.mp h
  have written : path = key ∨ ∃ category : Category, path = key ++ "." ++ category.name := by
    split at inside
    · exact forms inside
    · exact forms inside
    · exact .inl (List.mem_singleton.mp inside)
  rcases written with rfl | ⟨category, rfl⟩
  · exact .inl rfl
  · exact .inr ⟨category, rfl⟩

/-- What a key leads to when one of its candidates has a text: the text, or a map with it as a
plural form. -/
inductive HoldsText (text : String) : Value → Prop
  | plain : HoldsText text (.text text)
  | form {entries : Entries} (category : Category)
      (found : Entries.get? entries (.text category.name) = some (.text text)) :
      HoldsText text (.map entries)

theorem exists_holds {catalogs : Table Value} {locale text : String}
    (found : (template (catalogs.get? locale) key locale params).value = some text) :
    ∃ messages node, catalogs.get? locale = some messages ∧
      Catalog.Leads messages (Catalog.segments key) node ∧ HoldsText text node := by
  rw [value_template] at found
  obtain ⟨candidate, inside, offered⟩ := List.exists_of_findSome?_eq_some found
  obtain ⟨messages, known, leads⟩ := offered?_eq_some_iff.mp offered
  rcases mem_candidatesIn inside with rfl | ⟨category, rfl⟩
  · exact ⟨messages, _, known, leads, .plain⟩
  · rw [Catalog.segments_form] at leads
    obtain ⟨entries, before, last⟩ := leads.last
    exact ⟨messages, _, known, before, .form category last⟩

theorem translate_found [Locale.Data] [Stack] {current fallback text : String}
    {catalogs : Table Value} (handler : Option MissingHandler)
    (found : (template (catalogs.get? current) key current params).value = some text) :
    let translation := translate current fallback catalogs key params handler false
    translation.outcome = (Template.interpolate text params (some current) (some key)).outcome ∧
      translation.trace.missing = [] := by
  have outcome : (findTemplate current fallback catalogs key params handler).outcome =
      .ok (some text) := by
    rw [findTemplate_eq, Attempt.outcome_bind, Attempt.outcome_liftM, found]
    rfl
  have quiet : (findTemplate current fallback catalogs key params handler).trace.missing = [] := by
    rw [findTemplate_eq, Attempt.trace_bind, Attempt.outcome_liftM, found, Attempt.trace_liftM,
      Trace.missing_append, template_quiet, List.nil_append]
    exact Attempt.quiet_pure _
  refine ⟨?_, missing_translate.trans quiet⟩
  rw [translate, if_neg Bool.false_ne_true, Attempt.outcome_bind, outcome]
  rfl

namespace Translator

/-- A map with an entry that is not named for a plural category. -/
def IsMixed (node : Value) : Prop :=
  ∃ entries, node = .map entries ∧ ∃ entry ∈ entries, isCategoryKey entry.1 = false

theorem hasMessage_of_holds {t : Translator} {locale : Option String} {messages node : Value}
    {text : String} (known : t.catalogs.get? (t.localeFor locale) = some messages)
    (leads : Catalog.Leads messages (Catalog.segments key) node) (holds : HoldsText text node) :
    t.hasMessage key locale = false ↔ IsMixed node := by
  have notNull : node ≠ .null := by
    rintro rfl
    cases holds
  have reached : Catalog.resolve? messages key = some node :=
    (Catalog.walk?_eq_some_iff notNull).mpr leads
  rw [hasMessage, known, Option.getD_some, reached]
  -- A text is a message, and a map is one when all its entries are named for categories.
  cases holds with
  | plain =>
    refine iff_of_false (by simp) ?_
    rintro ⟨entries, same, -⟩
    cases same
  | @form entries category found =>
    have some : entries.isEmpty = false := by
      cases entries with
      | nil => cases found
      | cons entry rest => rfl
    simp [IsMixed, isFormSet, some]

/-- A message that a translation finds in the catalog of its locale is denied only where the key
leads to a map with that plural form and an entry of another name. -/
theorem found_message_denied_iff [Locale.Data] [Stack] (t : Translator) (key : String)
    (params : Option Entries) (locale : Option String) {text : String}
    (found : (template (t.catalogs.get? (t.localeFor locale)) key (t.localeFor locale)
      params).value = some text) :
    (t.debug = false →
      (t.translate key params locale).outcome =
        (Template.interpolate text params (some (t.localeFor locale)) (some key)).outcome ∧
      (t.translate key params locale).trace.missing = []) ∧
    ∃ messages node, t.catalogs.get? (t.localeFor locale) = some messages ∧
      Catalog.Leads messages (Catalog.segments key) node ∧ HoldsText text node ∧
      (t.hasMessage key locale = false ↔ IsMixed node) := by
  refine ⟨fun plain => ?_, ?_⟩
  · rw [translate, plain]
    exact translate_found t.handler found
  · obtain ⟨messages, node, known, leads, holds⟩ := exists_holds found
    exact ⟨messages, node, known, leads, holds, hasMessage_of_holds known leads holds⟩

/-- An English translator whose files are counted and also titled, beside cars that are counted. -/
def titledFiles : Translator where
  catalogs := [("en", .map [
    (.text "files", .map [(.text "one", .text "1 file"),
      (.text "other", .text "\x7b\x7bcount\x7d\x7d files"), (.text "title", .text "Files")]),
    (.text "cars", .map [(.text "one", .text "1 car"), (.text "other", .text "cars")])])]
  locale := "en"
  fallback := "en"
  debug := false
  loader := none
  handler := none

/-- Two of something. -/
def two : Option Entries := some [(.text "count", .int 2)]

section TitledFiles

open Stack Locale.Excerpt

theorem titledFiles_has_cars :
    (template (titledFiles.catalogs.get? (titledFiles.localeFor none)) "cars"
      (titledFiles.localeFor none) two).value = some "cars" ∧
    (titledFiles.translate "cars" two none).trace.missing = [] ∧
    titledFiles.hasMessage "cars" none = true := by
  have found : (template (titledFiles.catalogs.get? (titledFiles.localeFor none)) "cars"
      (titledFiles.localeFor none) two).value = some "cars" := by decide +kernel
  obtain ⟨translated, messages, node, known, leads, -, denied⟩ :=
    found_message_denied_iff titledFiles "cars" two none found
  refine ⟨found, (translated rfl).2, Bool.not_eq_false _ ▸ fun absent => ?_⟩
  obtain ⟨entries, rfl, mixed⟩ := denied.mp absent
  obtain rfl := Option.some.inj known
  have reached := (Catalog.walk?_eq_some_iff fun same => by cases same).mpr leads
  obtain ⟨rfl⟩ : entries = [(.text "one", .text "1 car"), (.text "other", .text "cars")] :=
    (Value.map.inj (Option.some.inj reached)).symm
  exact absurd mixed (by decide)

/-- Two files have a text in the active locale and no message. -/
theorem titledFiles_denies_files :
    (template (titledFiles.catalogs.get? "en") "files" "en" two).value =
        some "\x7b\x7bcount\x7d\x7d files" ∧
      (titledFiles.translate "files" two (some "en")).outcome = .ok "2 files" ∧
      (titledFiles.translate "files" two (some "en")).trace.missing = [] ∧
      titledFiles.hasMessage "files" (some "en") = false :=
  ⟨by decide +kernel, ok_of_toOption (by decide +kernel), by decide +kernel, by decide +kernel⟩

end TitledFiles

end Translator

end Translation

end Localization
