import Localization.Locale.Table
import Localization.Proofs.Catalog.Merge
import Localization.Proofs.Trace
import Localization.Translation.Translate

/-! # The text that a translation starts from

The candidates for a key are its plural forms and its plain text, in the current locale first and
then in the fallback locale. A translation is the first candidate that leads to a text, with the
parameters put in, or the key itself. The handler of missing keys is called once when no candidate
of the current locale leads to a text and another locale is tried.
-/
namespace Localization

namespace Catalog

/-- A list of safe keys leads through nested maps from one value to another. -/
inductive Leads : Value → List String → Value → Prop where
  | here (v : Value) : Leads v [] v
  | step {entries : Entries} {key : String} {next leaf : Value} {path : List String}
      (safe : isUnsafe key = false) (found : Entries.get? entries (.text key) = some next)
      (rest : Leads next path leaf) : Leads (.map entries) (key :: path) leaf

theorem not_leads_null (path : List String) (message : String) :
    ¬ Leads .null path (.text message) := by
  intro h
  cases h

theorem walk?_eq_some_iff {node leaf : Value} {path : List String} (notNull : leaf ≠ .null) :
    walk? node path = some leaf ↔ Leads node path leaf := by
  induction path generalizing node with
  | nil =>
    constructor
    · intro h
      obtain rfl := Option.some.inj h
      exact .here _
    · intro h
      cases h
      rfl
  | cons key path ih =>
    rw [walk?, Option.bind_eq_some_iff]
    constructor
    · rintro ⟨next, child, rest⟩
      obtain ⟨safe, -, entries, rfl, found⟩ := child?_eq_some.mp child
      exact .step safe found (ih.mp rest)
    · intro h
      cases h with
      | @step entries _ next _ _ safe found rest =>
        have some : next ≠ .null := by
          rintro rfl
          cases rest
          exact notNull rfl
        exact ⟨next, child?_eq_some.mpr ⟨safe, some, entries, rfl, found⟩, ih.mpr rest⟩

theorem walk?_eq_text_iff {node : Value} {path : List String} {message : String} :
    walk? node path = some (.text message) ↔ Leads node path (.text message) :=
  walk?_eq_some_iff fun same => by cases same

end Catalog

namespace Translation

open Plural

def pluralPaths (locale key : String) (count : Count) : List String :=
  [key ++ "." ++ (category (some locale) count).value.name, key ++ ".other"]

/-- The candidates of one locale. Only a whole or a binary number counts. -/
def candidatesIn (locale key : String) (params : Option Entries) : List (String × String) :=
  ((match (params.getD []).get? (.text "count") with
    | some (.int n) => pluralPaths locale key (.whole n)
    | some (.float x) => pluralPaths locale key (.ofFloat x)
    | _ => []) ++ [key]).map (locale, ·)

/-- The locales and paths at which the text of a key is looked for, in order. -/
def allCandidates (current fallback key : String) (params : Option Entries) :
    List (String × String) :=
  candidatesIn current key params ++
    if current = fallback then [] else candidatesIn fallback key params

def Offers (catalogs : Table Value) (candidate : String × String) (text : String) : Prop :=
  ∃ messages, catalogs.get? candidate.1 = some messages ∧
    Catalog.Leads messages (Catalog.segments candidate.2) (.text text)

/-- A text is that of the first candidate that has one. -/
def IsFirst (catalogs : Table Value) (candidates : List (String × String)) (text : String) : Prop :=
  ∃ before candidate after, candidates = before ++ candidate :: after ∧
    (∀ earlier ∈ before, ∀ other, ¬ Offers catalogs earlier other) ∧ Offers catalogs candidate text

/-- No candidate has a text. -/
def NoneOffers (catalogs : Table Value) (candidates : List (String × String)) : Prop :=
  ∀ candidate ∈ candidates, ∀ text, ¬ Offers catalogs candidate text

def offered? (catalogs : Table Value) (candidate : String × String) : Option String :=
  textAt? ((catalogs.get? candidate.1).getD .null) candidate.2

theorem textAt?_eq_some_iff {messages : Value} {path text : String} :
    textAt? messages path = some text ↔
      Catalog.Leads messages (Catalog.segments path) (.text text) := by
  rw [← Catalog.walk?_eq_text_iff, textAt?, Catalog.resolve?]
  constructor
  · intro h
    split at h
    · next found =>
      obtain rfl := Option.some.inj h
      exact found
    · cases h
  · intro h
    rw [h]

theorem offered?_eq_some_iff {catalogs : Table Value} {candidate : String × String}
    {text : String} : offered? catalogs candidate = some text ↔ Offers catalogs candidate text := by
  rw [offered?, textAt?_eq_some_iff, Offers]
  cases catalogs.get? candidate.1 with
  | none =>
    refine iff_of_false (Catalog.not_leads_null _ _) ?_
    rintro ⟨messages, none, -⟩
    cases none
  | some messages => simp

theorem offered?_eq_none_iff {catalogs : Table Value} {candidate : String × String} :
    offered? catalogs candidate = none ↔ ∀ text, ¬ Offers catalogs candidate text := by
  rw [Option.eq_none_iff_forall_ne_some]
  exact forall_congr' fun text => not_congr offered?_eq_some_iff

theorem findSome?_eq_some_iff {catalogs : Table Value} {candidates : List (String × String)}
    {text : String} : candidates.findSome? (offered? catalogs) = some text ↔
      IsFirst catalogs candidates text := by
  simp only [List.findSome?_eq_some_iff, IsFirst, offered?_eq_some_iff, offered?_eq_none_iff]
  constructor
  · rintro ⟨before, candidate, after, split, offers, earlier⟩
    exact ⟨before, candidate, after, split, earlier, offers⟩
  · rintro ⟨before, candidate, after, split, earlier, offers⟩
    exact ⟨before, candidate, after, split, offers, earlier⟩

theorem findSome?_eq_none_iff {catalogs : Table Value} {candidates : List (String × String)} :
    candidates.findSome? (offered? catalogs) = none ↔ NoneOffers catalogs candidates := by
  simp only [List.findSome?_eq_none_iff, offered?_eq_none_iff, NoneOffers]

theorem category_quiet (locale : Option String) (count : Count) :
    (category locale count).Quiet := by
  refine Traced.Quiet.bind ?_ fun _ => Traced.quiet_pure _
  rw [family]
  split
  · exact Traced.quiet_pure _
  · exact (Traced.quiet_log ..).bind fun _ => Traced.quiet_pure _

theorem categoryOf_quiet (locale : String) (params : Option Entries) :
    (categoryOf locale params).Quiet := by
  rw [categoryOf]
  split
  · exact (category_quiet _ _).bind fun _ => Traced.quiet_pure _
  · exact Traced.quiet_pure _

theorem template_quiet (messages : Option Value) (key locale : String) (params : Option Entries) :
    (template messages key locale params).Quiet :=
  (categoryOf_quiet locale params).bind fun _ => Traced.quiet_pure _

theorem candidates_categoryOf (locale key : String) (params : Option Entries) :
    (candidates key (categoryOf locale params).value).map (locale, ·) =
      candidatesIn locale key params := by
  rw [categoryOf, candidatesIn, countOf?, countValue?]
  cases (params.getD []).get? (.text "count") with
  | none => rfl
  | some value => cases value <;> rfl

theorem value_template (catalogs : Table Value) (key locale : String) (params : Option Entries) :
    (template (catalogs.get? locale) key locale params).value =
      (candidatesIn locale key params).findSome? (offered? catalogs) := by
  rw [← candidates_categoryOf, List.findSome?_map]
  rfl

section Find

variable {current fallback : String} {catalogs : Table Value} {key : String}
  {params : Option Entries} {handler : Option MissingHandler}

theorem outcome_callHandler (normal : ∀ respond ∈ handler, ∀ k l, respond k l = .ok ()) :
    (callHandler handler key current).outcome = .ok () := by
  cases handler with
  | none => rfl
  | some respond =>
    rw [callHandler, Attempt.outcome_bind]
    exact normal respond rfl key current

theorem missing_callHandler :
    (callHandler handler key current).trace.missing =
      if handler.isSome then [(key, current)] else [] := by
  cases handler <;> rfl

def fallbackTemplate (current fallback : String) (catalogs : Table Value) (key : String)
    (params : Option Entries) (handler : Option MissingHandler) : Attempt (Option String) := do
  callHandler handler key current
  liftM (warnMissing "translation_missing_in_locale" key current fallback)
  liftM (template (catalogs.get? fallback) key fallback params)

theorem outcome_fallbackTemplate (normal : ∀ respond ∈ handler, ∀ k l, respond k l = .ok ()) :
    (fallbackTemplate current fallback catalogs key params handler).outcome =
      .ok ((candidatesIn fallback key params).findSome? (offered? catalogs)) := by
  rw [fallbackTemplate, Attempt.outcome_bind, outcome_callHandler normal, Except.bind,
    Attempt.outcome_bind, Attempt.outcome_liftM, Except.bind, Attempt.outcome_liftM, value_template]

theorem missing_fallbackTemplate (normal : ∀ respond ∈ handler, ∀ k l, respond k l = .ok ()) :
    (fallbackTemplate current fallback catalogs key params handler).trace.missing =
      if handler.isSome then [(key, current)] else [] := by
  have rest : Attempt.Quiet (do
      liftM (warnMissing "translation_missing_in_locale" key current fallback)
      liftM (template (catalogs.get? fallback) key fallback params)) :=
    (Attempt.quiet_liftM (Traced.quiet_log ..)).bind fun _ =>
      Attempt.quiet_liftM (template_quiet ..)
  rw [fallbackTemplate, Attempt.trace_bind, outcome_callHandler normal, Trace.missing_append,
    missing_callHandler]
  simp only
  rw [rest, List.append_nil]

/-- The look-up in the current locale decides whether the fallback locale is asked. -/
theorem findTemplate_eq (current fallback : String) (catalogs : Table Value) (key : String)
    (params : Option Entries) (handler : Option MissingHandler) :
    findTemplate current fallback catalogs key params handler =
      liftM (template (catalogs.get? current) key current params) >>= fun
        | some text => pure (some text)
        | none =>
          if current = fallback then pure none
          else fallbackTemplate current fallback catalogs key params handler := rfl

theorem outcome_findTemplate (normal : ∀ respond ∈ handler, ∀ k l, respond k l = .ok ()) :
    (findTemplate current fallback catalogs key params handler).outcome =
      .ok ((allCandidates current fallback key params).findSome? (offered? catalogs)) := by
  rw [findTemplate_eq, Attempt.outcome_bind, Attempt.outcome_liftM, Except.bind, value_template,
    allCandidates, List.findSome?_append]
  cases (candidatesIn current key params).findSome? (offered? catalogs) with
  | some text => rfl
  | none =>
    by_cases same : current = fallback
    · simp [same]
    · simp [same, outcome_fallbackTemplate normal]

theorem missing_findTemplate (normal : ∀ respond ∈ handler, ∀ k l, respond k l = .ok ()) :
    (findTemplate current fallback catalogs key params handler).trace.missing =
      if handler.isSome ∧ current ≠ fallback ∧
        (candidatesIn current key params).findSome? (offered? catalogs) = none
      then [(key, current)] else [] := by
  have first : (template (catalogs.get? current) key current params).trace.missing = [] :=
    template_quiet ..
  rw [findTemplate_eq, Attempt.trace_bind, Attempt.outcome_liftM, Attempt.trace_liftM,
    Trace.missing_append, first, List.nil_append, value_template]
  cases (candidatesIn current key params).findSome? (offered? catalogs) with
  | some text =>
    simp only [reduceCtorEq, and_false, if_false]
    exact Attempt.quiet_pure _
  | none =>
    by_cases same : current = fallback
    · simp only [same, ne_eq, not_true_eq_false, false_and, and_false, if_false, if_true]
      exact Attempt.quiet_pure _
    · simp [same, missing_fallbackTemplate normal]

variable [Locale.Data] [Stack]

theorem outcome_translate_of_first (normal : ∀ respond ∈ handler, ∀ k l, respond k l = .ok ())
    {text : String} (first : IsFirst catalogs (allCandidates current fallback key params) text) :
    (translate current fallback catalogs key params handler false).outcome =
      (Template.interpolate text params (some current) (some key)).outcome := by
  have found : (findTemplate current fallback catalogs key params handler).outcome =
      .ok (some text) := by
    rw [outcome_findTemplate normal, findSome?_eq_some_iff.mpr first]
  rw [translate, if_neg Bool.false_ne_true, Attempt.outcome_bind, found]
  rfl

theorem outcome_translate_of_none (normal : ∀ respond ∈ handler, ∀ k l, respond k l = .ok ())
    (absent : NoneOffers catalogs (allCandidates current fallback key params)) :
    (translate current fallback catalogs key params handler false).outcome = .ok key := by
  have found : (findTemplate current fallback catalogs key params handler).outcome =
      .ok none := by
    rw [outcome_findTemplate normal, findSome?_eq_none_iff.mpr absent]
  rw [translate, if_neg Bool.false_ne_true, Attempt.outcome_bind, found]
  rfl

theorem missing_translate :
    (translate current fallback catalogs key params handler false).trace.missing =
      (findTemplate current fallback catalogs key params handler).trace.missing := by
  rw [translate, if_neg Bool.false_ne_true, Attempt.trace_bind, Trace.missing_append]
  refine (congrArg _ ?_).trans (List.append_nil _)
  cases (findTemplate current fallback catalogs key params handler).outcome with
  | error failure => rfl
  | ok found =>
    cases found with
    | none => rfl
    | some text => exact Template.interpolate_quiet ..

/-- A translation starts from the first candidate that has a text, or else is the key. A handler
that returns is called once, when no candidate of the current locale has a text and the fallback
locale is another one. -/
theorem translate_first_candidate (current fallback : String) (catalogs : Table Value)
    (key : String) (params : Option Entries) (handler : Option MissingHandler)
    (normal : ∀ respond ∈ handler, ∀ k l, respond k l = .ok ()) :
    let translation := translate current fallback catalogs key params handler false
    let asked := handler.isSome ∧ current ≠ fallback ∧
      NoneOffers catalogs (candidatesIn current key params)
    (∀ text, IsFirst catalogs (allCandidates current fallback key params) text →
      translation.outcome = (Template.interpolate text params (some current) (some key)).outcome) ∧
    (NoneOffers catalogs (allCandidates current fallback key params) →
      translation.outcome = .ok key) ∧
    (asked → translation.trace.missing = [(key, current)]) ∧
    (¬ asked → translation.trace.missing = []) := by
  intro translation asked
  have missing : translation.trace.missing = _ :=
    missing_translate.trans (missing_findTemplate normal)
  refine ⟨fun text => outcome_translate_of_first normal, outcome_translate_of_none normal, ?_, ?_⟩
  · rintro ⟨given, differ, absent⟩
    exact missing.trans (if_pos ⟨given, differ, findSome?_eq_none_iff.mpr absent⟩)
  · intro notAsked
    refine missing.trans (if_neg ?_)
    rintro ⟨given, differ, absent⟩
    exact notAsked ⟨given, differ, findSome?_eq_none_iff.mp absent⟩

end Find

section Files

open Stack Locale.Excerpt

def fileMessages : Table Value :=
  [("cs", .map [(.text "files", .map [(.text "few", .int 3), (.text "many", .text "mnoho")])]),
   ("en", .map [(.text "files", .map [(.text "other", .text "\x7b\x7bcount\x7d\x7d files")])])]

/-- Three files in Czech lead to the English text, two lookups before the plain one. -/
theorem translate_files :
    let params : Option Entries := some [(.text "count", .int 3)]
    let translation :=
      translate "cs" "en" fileMessages "files" params (some fun _ _ => .ok ()) false
    translation.outcome = .ok "3 files" ∧ translation.trace.missing = [("files", "cs")] := by
  have normal : ∀ respond ∈ some fun (_ _ : String) => (Except.ok () : Except Failure Unit),
      ∀ k l, respond k l = .ok () := by
    rintro _ ⟨⟩ _ _
    rfl
  have first : IsFirst fileMessages
      (allCandidates "cs" "en" "files" (some [(.text "count", .int 3)]))
      "\x7b\x7bcount\x7d\x7d files" :=
    findSome?_eq_some_iff.mp (by decide +kernel)
  have absent : NoneOffers fileMessages
      (candidatesIn "cs" "files" (some [(.text "count", .int 3)])) :=
    findSome?_eq_none_iff.mp (by decide +kernel)
  obtain ⟨found, -, asked, -⟩ := translate_first_candidate "cs" "en" fileMessages "files"
    (some [(.text "count", .int 3)]) (some fun _ _ => .ok ()) normal
  exact ⟨(found _ first).trans (ok_of_toOption (by decide +kernel)), asked ⟨rfl, by decide, absent⟩⟩

end Files

end Translation

end Localization
