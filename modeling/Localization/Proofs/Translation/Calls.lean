import Localization.Locale.Table
import Localization.Proofs.Since
import Localization.Translation.Translator
import Mathlib.Data.List.Induction

/-! # Calls of a translator

A translator is called again and again while the files of its folder change. What one call can do
is said here once: it leaves the state as it is, takes catalogs, makes a locale active or sets
debugging. So a call that is refused leaves no trace in the state, locales only come, and the
active locale is the one that was switched to last.
-/
namespace Localization.Translation

/-- A call of a translator. A load finds the files that the folder has at that moment. -/
inductive Call where
  | loadAll (files : Catalog.Files)
  | loadLocale (files : Catalog.Files) (locale : String)
  | addCatalog (locale : String) (messages : Entries)
  | setLocale (locale : String)
  | setDebug (enabled : Bool)
  | translate (key : String) (params : Option Entries) (locale : Option String)

/-- What a call gives when it does not fail. -/
inductive Reply where
  | done
  | switched (changed : Bool)
  | text (text : String)

abbrev Exchange := Call × Except Failure Reply

/-- The call failed, or it was to make a locale active and did not. -/
def Refused (outcome : Except Failure Reply) : Prop :=
  (∃ failure, outcome = .error failure) ∨ outcome = .ok (.switched false)

theorem Refused.ok_eq {reply : Reply} (h : Refused (.ok reply)) : reply = .switched false := by
  rcases h with ⟨failure, failed⟩ | unchanged
  · cases failed
  · exact Except.ok.inj unchanged

def SwitchesTo (locale : String) (exchange : Exchange) : Prop :=
  exchange = (.setLocale locale, .ok (.switched true))

/-- Two translators in one state: what their loaders remember is left out. -/
structure SameState (t u : Translator) : Prop where
  catalogs : u.catalogs = t.catalogs
  locale : u.locale = t.locale
  fallback : u.fallback = t.fallback
  debug : u.debug = t.debug

theorem SameState.refl (t : Translator) : SameState t t := ⟨rfl, rfl, rfl, rfl⟩

theorem SameState.available {t u : Translator} (h : SameState t u) : u.available = t.available :=
  congrArg Table.keys h.catalogs

def Grown {α : Type} (before after : List α) : Prop :=
  ∃ added, after = before ++ added ∧ added.Nodup ∧ ∀ x ∈ added, x ∉ before

theorem Grown.refl {α : Type} (members : List α) : Grown members members :=
  ⟨[], (List.append_nil members).symm, .nil, fun x inside => by cases inside⟩

theorem Grown.mem {α : Type} {before after : List α} (h : Grown before after) {x : α}
    (inside : x ∈ before) : x ∈ after := by
  obtain ⟨added, rfl, -⟩ := h
  exact List.mem_append_left added inside

theorem Grown.trans {α : Type} {first second third : List α} (h : Grown first second)
    (later : Grown second third) : Grown first third := by
  obtain ⟨added, rfl, once, new⟩ := h
  obtain ⟨more, rfl, onceMore, newer⟩ := later
  refine ⟨added ++ more, List.append_assoc .., ?_, ?_⟩
  · refine List.nodup_append.mpr ⟨once, onceMore, ?_⟩
    rintro x inside y later rfl
    exact newer x later (List.mem_append_right first inside)
  · intro x inside before
    rcases List.mem_append.mp inside with old | later
    · exact new x old before
    · exact newer x later (List.mem_append_left added before)

theorem Grown.put {α : Type} (table : Table α) (key : String) (value : α) :
    Grown table.keys (table.put key value).keys := by
  by_cases here : key ∈ table.keys
  · exact Table.keys_put_of_mem here value ▸ .refl _
  · rw [Table.keys_put_of_not_mem here]
    refine ⟨[key], rfl, List.pairwise_singleton _ key, fun x inside => ?_⟩
    rwa [List.mem_singleton.mp inside]

theorem Grown.update {α : Type} (table other : Table α) :
    Grown table.keys (table.update other).keys := by
  induction other generalizing table with
  | nil => exact .refl _
  | cons entry rest ih => exact (Grown.put table entry.1 entry.2).trans (ih _)

namespace Translator

variable [Locale.Data] [Stack]

def perform (t : Translator) : Call → Traced (Except Failure Reply × Translator)
  | .loadAll files => do
    let (outcome, t) ← t.loadAll files
    pure (outcome.map fun _ => .done, t)
  | .loadLocale files locale => do
    let (outcome, t) ← t.loadLocale files locale
    pure (outcome.map fun _ => .done, t)
  | .addCatalog locale messages => do
    let t ← t.addCatalog locale messages
    pure (.ok .done, t)
  | .setLocale locale => do
    let (changed, t) ← t.setLocale locale
    pure (.ok (.switched changed), t)
  | .setDebug enabled => pure (.ok .done, t.setDebug enabled)
  | .translate key params locale => do
    let outcome ← (t.translate key params locale).run
    pure (outcome.map .text, t)

def outcomeOf (t : Translator) (call : Call) : Except Failure Reply := (t.perform call).value.1

def act (t : Translator) (call : Call) : Translator := (t.perform call).value.2

def after (t : Translator) (calls : List Call) : Translator := calls.foldl act t

def journal : Translator → List Call → List Exchange
  | _, [] => []
  | t, call :: rest => (call, t.outcomeOf call) :: (t.act call).journal rest

@[simp] theorem after_nil (t : Translator) : t.after [] = t := rfl

theorem after_append (t : Translator) (calls later : List Call) :
    t.after (calls ++ later) = (t.after calls).after later := List.foldl_append

theorem after_snoc (t : Translator) (calls : List Call) (last : Call) :
    t.after (calls ++ [last]) = (t.after calls).act last := t.after_append calls [last]

theorem journal_snoc (t : Translator) (calls : List Call) (last : Call) :
    t.journal (calls ++ [last]) = t.journal calls ++ [(last, (t.after calls).outcomeOf last)] := by
  induction calls generalizing t with
  | nil => rfl
  | cons call rest ih => exact congrArg ((call, t.outcomeOf call) :: ·) (ih (t.act call))

end Translator

inductive Move (t u : Translator) : Exchange → Prop where
  | stay {exchange} (same : SameState t u) (idle : ∀ locale, ¬ SwitchesTo locale exchange) :
      Move t u exchange
  | take {call} (found : Table Value)
      (taken : SameState { t with catalogs := t.catalogs.update found } u) :
      Move t u (call, .ok .done)
  | switch (locale : String) (here : locale ∈ t.available)
      (switched : SameState { t with locale } u) :
      Move t u (.setLocale locale, .ok (.switched true))
  | debug {call} (enabled : Bool) (set : SameState { t with debug := enabled } u) :
      Move t u (call, .ok .done)

def Loads (t : Translator) : Except Failure Unit × Translator → Prop
  | (.error _, u) => SameState t u
  | (.ok (), u) => ∃ found, SameState { t with catalogs := t.catalogs.update found } u

theorem loadAll_loads [Stack] (t : Translator) (files : Catalog.Files) :
    Loads t (t.loadAll files).value := by
  rw [Translator.loadAll]
  cases t.loader with
  | none => exact .refl t
  | some loader =>
    rw [Traced.value_bind]
    rcases (loader.loadAll files).value with ⟨failure | found, later⟩
    · exact ⟨rfl, rfl, rfl, rfl⟩
    · exact ⟨found.map fun entry => (entry.1, .map entry.2), rfl, rfl, rfl, rfl⟩

theorem loadLocale_loads [Stack] (t : Translator) (files : Catalog.Files) (locale : String) :
    Loads t (t.loadLocale files locale).value := by
  rw [Translator.loadLocale]
  cases t.loader with
  | none => exact .refl t
  | some loader =>
    rw [Traced.value_bind]
    rcases (loader.load files locale).value with ⟨failure | entries, later⟩
    · exact ⟨rfl, rfl, rfl, rfl⟩
    · exact ⟨[(locale, .map entries)], rfl, rfl, rfl, rfl⟩

theorem Loads.move {t : Translator} {result : Except Failure Unit × Translator} (h : Loads t result)
    (call : Call) : Move t result.2 (call, result.1.map fun _ => .done) := by
  rcases result with ⟨failure | ⟨⟩, u⟩
  · exact .stay h fun locale switches => by cases switches
  · obtain ⟨found, taken⟩ := h
    exact .take found taken

theorem moves [Locale.Data] [Stack] (t : Translator) (call : Call) :
    Move t (t.act call) (call, t.outcomeOf call) := by
  cases call with
  | loadAll files => exact (loadAll_loads t files).move _
  | loadLocale files locale => exact (loadLocale_loads t files locale).move _
  | addCatalog locale messages =>
    exact .take [(locale, .map (Catalog.merge (Catalog.entriesOf (t.catalogs.get? locale)) messages))]
      ⟨rfl, rfl, rfl, rfl⟩
  | setLocale locale =>
    rw [Translator.act, Translator.outcomeOf, Translator.perform, Translator.setLocale]
    split
    · next here => exact .switch locale (Table.mem_keys_iff.mpr here) (.refl _)
    · exact .stay (.refl t) fun other switches => by cases switches
  | setDebug enabled => exact .debug enabled (.refl _)
  | translate key params locale =>
    refine .stay (.refl t) fun other switches => ?_
    cases switches

theorem Move.same_of_refused {t u : Translator} {call : Call} {outcome : Except Failure Reply}
    (h : Move t u (call, outcome)) (refused : Refused outcome) : SameState t u := by
  cases h with
  | stay same => exact same
  | take => cases refused.ok_eq
  | switch => cases refused.ok_eq
  | debug => cases refused.ok_eq

theorem Move.grown {t u : Translator} {exchange : Exchange} (h : Move t u exchange) :
    Grown t.available u.available := by
  cases h with
  | stay same => exact same.available ▸ .refl _
  | take found taken => exact taken.available ▸ Grown.update t.catalogs found
  | switch locale here switched => exact switched.available ▸ .refl _
  | debug enabled set => exact set.available ▸ .refl _

theorem Move.locale_of_switches {t u : Translator} {exchange : Exchange} (h : Move t u exchange)
    {locale : String} (switches : SwitchesTo locale exchange) :
    u.locale = locale ∧ locale ∈ u.available := by
  cases h with
  | stay same idle => exact absurd switches (idle locale)
  | take => cases switches
  | switch other here switched =>
    cases switches
    exact ⟨switched.locale, switched.available ▸ here⟩
  | debug => cases switches

theorem Move.locale_of_not_switches {t u : Translator} {exchange : Exchange}
    (h : Move t u exchange) (idle : ¬ ∃ locale, SwitchesTo locale exchange) :
    u.locale = t.locale := by
  cases h with
  | stay same => exact same.locale
  | take found taken => exact taken.locale
  | switch locale => exact absurd ⟨locale, rfl⟩ idle
  | debug enabled set => exact set.locale

section Steady

variable [Locale.Data] [Stack]

namespace Translator

theorem grown_after (t : Translator) (calls : List Call) :
    Grown t.available (t.after calls).available := by
  induction calls generalizing t with
  | nil => exact .refl _
  | cons call rest ih => exact (moves t call).grown.trans (ih (t.act call))

theorem available_of_switched {t : Translator} {calls : List Call} {locale : String}
    {exchange : Exchange} (inside : exchange ∈ t.journal calls)
    (switches : SwitchesTo locale exchange) : locale ∈ (t.after calls).available := by
  induction calls generalizing t with
  | nil => cases inside
  | cons call rest ih =>
    rcases List.mem_cons.mp inside with rfl | later
    · have here := ((moves t call).locale_of_switches switches).2
      exact (grown_after (t.act call) rest).mem here
    · exact ih later

theorem locale_of_since {t : Translator} {calls : List Call} {locale : String}
    (last : Since (fun exchange => ∃ other, SwitchesTo other exchange)
      (fun _ => SwitchesTo locale) (t.journal calls)) : (t.after calls).locale = locale := by
  induction calls using List.reverseRecOn with
  | nil => exact absurd last not_since_nil
  | append_singleton calls call ih =>
    rw [journal_snoc, since_snoc] at last
    rw [after_snoc]
    rcases last with switches | ⟨idle, before⟩
    · exact ((moves _ call).locale_of_switches switches).1
    · exact ((moves _ call).locale_of_not_switches idle).trans (ih before)

end Translator

/-- What holds at every point of a sequence of calls. -/
structure Steady (t : Translator) (calls : List Call) : Prop where
  /-- A call that fails, or does not switch as it was to, leaves the state as it is. -/
  refused : ∀ before call, before ++ [call] <+: calls →
    Refused ((t.after before).outcomeOf call) →
    SameState (t.after before) (t.after (before ++ [call]))
  translating : ∀ before key params locale, before ++ [.translate key params locale] <+: calls →
    SameState (t.after before) (t.after (before ++ [.translate key params locale]))
  /-- Locales only come, and they come last. -/
  growing : ∀ before, before <+: calls → Grown (t.after before).available (t.after calls).available
  /-- A locale that was switched to stays available. -/
  lasting : ∀ locale, ∀ exchange ∈ t.journal calls, SwitchesTo locale exchange →
    locale ∈ (t.after calls).available
  /-- It stays active until the next switch. -/
  active : ∀ locale,
    Since (fun exchange => ∃ other, SwitchesTo other exchange) (fun _ => SwitchesTo locale)
      (t.journal calls) →
    (t.after calls).locale = locale

/-- Every translator is steady over every sequence of calls. -/
theorem calls_steady (t : Translator) (calls : List Call) : Steady t calls where
  refused before call _ h := by
    rw [Translator.after_snoc]
    exact (moves _ call).same_of_refused h
  translating before key params locale _ := by
    rw [Translator.after_snoc]
    exact .refl _
  growing before h := by
    obtain ⟨later, rfl⟩ := h
    rw [Translator.after_append]
    exact (t.after before).grown_after later
  lasting _ _ inside switches := Translator.available_of_switched inside switches
  active _ last := Translator.locale_of_since last

end Steady

open Stack Locale.Excerpt in
/-- The first switch and the load are refused. -/
example : (Translator.after ⟨[], "en", "en", false, none, none⟩
      [.setLocale "fr", .addCatalog "de" [(.text "hello", .text "Hallo")], .loadAll [],
        .setLocale "de"]).locale = "de" := rfl

end Localization.Translation
