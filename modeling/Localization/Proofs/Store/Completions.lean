import Localization.Proofs.Store.Joining
import Localization.Proofs.Store.RunStep

/-! # Namespaces are merged once

The loads that end well in a history are listed in order, each with the messages that it brings
in. A load is listed once, however many calls wait for it or are cancelled, and a load that fails
is not listed. When the catalog of a locale itself is not loaded, it is the first one with the
listed messages of its namespaces merged in one after the other.
-/
namespace Localization.Store

namespace State

def completed? (s : State) (e : Event) : Option (Nat × Target × Entries) :=
  (s.ends? e).bind fun (load, target, answer) =>
    (messagesOf answer).toOption.map fun messages => (load, target, messages)

/-- The loads that end well in a history, in order. -/
def completions (s : State) : List Event → List (Nat × Target × Entries)
  | [] => []
  | e :: rest => (s.completed? e).toList ++ (s.handle e).completions rest

theorem completed?_eq_some {s : State} {e : Event} {load : Nat} {target : Target}
    {messages : Entries} :
    s.completed? e = some (load, target, messages) ↔
      ∃ answer, s.ends? e = some (load, target, answer) ∧ messagesOf answer = .ok messages := by
  unfold completed?
  constructor
  · intro h
    obtain ⟨⟨other, sort, answer⟩, ends, given⟩ := Option.bind_eq_some_iff.mp h
    obtain ⟨brought, result, same⟩ := Option.map_eq_some_iff.mp given
    cases same
    exact ⟨answer, ends, ok_of_toOption result⟩
  · rintro ⟨answer, ends, result⟩
    simp [ends, result, Except.toOption]

theorem map_completed? (s : State) (e : Event) :
    (s.completed? e).map Prod.snd = s.absorbed? e := by
  rw [absorbed?_eq, completed?]
  cases s.ends? e with
  | none => rfl
  | some found =>
    obtain ⟨load, target, answer⟩ := found
    simp only [Option.bind_some, brought, Option.map_map]
    rfl

theorem map_completions (s : State) (events : List Event) :
    (s.completions events).map Prod.snd = s.absorbed events := by
  induction events generalizing s with
  | nil => rfl
  | cons e rest ih =>
    rw [completions, absorbed, List.map_append, ih, ← map_completed?]
    cases s.completed? e <;> rfl

/-- The list has each load that has ended well once, with messages that its source gave. -/
structure Recorded (s : State) (done : List (Nat × Target × Entries)) : Prop where
  nodup : (done.map Prod.fst).Nodup
  ended_iff (load : Nat) (target : Target) :
    s.loads[load]? = some ⟨target, .ended (.ok ())⟩ ↔ ∃ messages, (load, target, messages) ∈ done
  given (load : Nat) (target : Target) (messages : Entries) : (load, target, messages) ∈ done →
    ∃ answer, s.Gives target answer ∧ messagesOf answer = .ok messages

theorem IsNew.recorded {s : State} (h : s.IsNew) : s.Recorded [] := by
  obtain ⟨-, -, -, -, -, loads, -⟩ := h.blank
  refine ⟨List.nodup_nil, ?_, fun load target messages inside => by cases inside⟩
  intro load target
  simp [loads]

theorem Recorded.handle {s : State} {done : List (Nat × Target × Entries)} (h : s.Recorded done)
    (answered : s.Answered) (e : Event) :
    (s.handle e).Recorded (done ++ (s.completed? e).toList) := by
  have old {load : Nat} {target : Target} (messages : Entries)
      (inside : (load, target, messages) ∈ done) :
      (s.handle e).loads[load]? = some ⟨target, .ended (.ok ())⟩ :=
    handle_ended ((h.ended_iff load target).mpr ⟨messages, inside⟩) e
  refine ⟨?_, ?_, ?_⟩
  · cases now : s.completed? e with
    | none => simpa using h.nodup
    | some entry =>
      obtain ⟨load, target, messages⟩ := entry
      obtain ⟨answer, ends, -⟩ := completed?_eq_some.mp now
      obtain ⟨before, fetches, here, wasOpen, -⟩ := handle_of_ends? ends
      -- A load that is in the list already is not open any more.
      have fresh : load ∉ done.map Prod.fst := by
        intro inside
        obtain ⟨⟨_, sort, others⟩, listed, rfl⟩ := List.mem_map.mp inside
        have ended := (h.ended_iff _ sort).mpr ⟨others, listed⟩
        cases here.symm.trans ended
        cases wasOpen
      rw [Option.toList_some, List.map_append]
      refine List.nodup_append.mpr ⟨h.nodup, by simp, ?_⟩
      intro first inside second last same
      rw [List.map_singleton, List.mem_singleton] at last
      rw [same, last] at inside
      exact fresh inside
  · intro load target
    constructor
    · intro there
      rcases ends?_of_ended there with before | ⟨answer, ends, outcome⟩
      · obtain ⟨messages, inside⟩ := (h.ended_iff load target).mp before
        exact ⟨messages, List.mem_append_left _ inside⟩
      · cases result : messagesOf answer with
        | error failure => rw [result] at outcome; cases outcome
        | ok messages =>
          have now := completed?_eq_some.mpr ⟨answer, ends, result⟩
          exact ⟨messages, List.mem_append_right _ (by rw [now]; exact List.mem_cons_self)⟩
    · rintro ⟨messages, inside⟩
      rcases List.mem_append.mp inside with before | now
      · exact old messages before
      · obtain ⟨answer, ends, result⟩ := completed?_eq_some.mp (Option.mem_toList.mp now)
        obtain ⟨before, fetches, here, -, handled⟩ := handle_of_ends? ends
        rw [handled, (complete_sameWork _ load target answer).loads, result]
        exact setStage_self here rfl
  · intro load target messages inside
    rcases List.mem_append.mp inside with before | now
    · obtain ⟨answer, gives, result⟩ := h.given load target messages before
      exact ⟨answer, gives.handle e, result⟩
    · obtain ⟨answer, ends, result⟩ := completed?_eq_some.mp (Option.mem_toList.mp now)
      exact ⟨answer, (answered.gives ends).handle e, result⟩

theorem IsNew.recorded_after {s : State} (h : s.IsNew) (events : List Event) :
    (s.after events).Recorded (s.completions events) := by
  suffices run : ∀ {s : State} {done : List (Nat × Target × Entries)}, s.Recorded done →
      s.Answered → (s.after events).Recorded (done ++ s.completions events) from
    run h.recorded h.answered
  induction events with
  | nil =>
    intro s done recorded _
    rwa [completions, List.append_nil]
  | cons e rest ih =>
    intro s done recorded answered
    have next := ih (recorded.handle answered e) (answered.handle e)
    rwa [List.append_assoc] at next

end State

/-- What the listed loads for a locale bring in, in order. -/
def broughtTo (locale : String) (done : List (Nat × Target × Entries)) : List Entries :=
  done.filterMap fun (_, target, messages) => if target.locale = locale then some messages else none

theorem get?_foldl_takeIn {locale : String} (done : List (Nat × Target × Entries))
    (apart : ∀ load messages, (load, .catalog locale, messages) ∉ done) (catalogs : Table Entries) :
    ((done.map Prod.snd).foldl takeIn catalogs).get? locale =
      if catalogs.get? locale = none ∧ broughtTo locale done = [] then none
      else some ((broughtTo locale done).foldl Catalog.merge ((catalogs.get? locale).getD [])) := by
  induction done generalizing catalogs with
  | nil => cases found : catalogs.get? locale <;> simp [broughtTo, found]
  | cons entry rest ih =>
    obtain ⟨load, target, messages⟩ := entry
    have later : ∀ load messages, (load, .catalog locale, messages) ∉ rest :=
      fun load messages inside => apart load messages (List.mem_cons_of_mem _ inside)
    rw [List.map_cons, List.foldl_cons, ih later]
    by_cases here : target.locale = locale
    · cases target with
      | catalog other =>
        obtain rfl : other = locale := here
        exact absurd List.mem_cons_self (apart load messages)
      | addition other name =>
        obtain rfl : other = locale := here
        simp [takeIn, Table.get?_put_self, broughtTo, Target.locale]
    · have passed : broughtTo locale ((load, target, messages) :: rest) = broughtTo locale rest := by
        simp [broughtTo, here]
      rw [takeIn_get?_of_ne catalogs (target, messages) here, passed]

/-- The messages of the catalog that a caller gives for a locale. -/
def givenEntries (catalogs : Table Value) (locale : String) : Entries :=
  ((catalogs.get? locale).bind fun fragment => (Catalog.normalize fragment).toOption).getD []

namespace State

theorem outcome_normalizeLogged (fragment : Value) :
    (Catalog.normalizeLogged fragment).outcome = Catalog.normalize fragment := by
  unfold Catalog.normalizeLogged Catalog.normalize
  split <;> rfl

theorem ok_of_normalizeAll_cons {locale : String} {fragment : Value} {rest : Table Value}
    {entries : Table Entries}
    (h : (normalizeAll ((locale, fragment) :: rest)).outcome = .ok entries) :
    ∃ messages others, Catalog.normalize fragment = .ok messages ∧
      (normalizeAll rest).outcome = .ok others ∧ entries = (locale, messages) :: others := by
  rw [normalizeAll] at h
  obtain ⟨messages, normal, h⟩ := Attempt.ok_of_bind h
  obtain ⟨others, table, h⟩ := Attempt.ok_of_bind h
  exact ⟨messages, others, (outcome_normalizeLogged fragment).symm.trans normal, table,
    (Except.ok.inj h).symm⟩

theorem get?_normalizeAll {catalogs : Table Value} {entries : Table Entries}
    (h : (normalizeAll catalogs).outcome = .ok entries) (locale : String) :
    (entries.get? locale = none ↔ catalogs.get? locale = none) ∧
      (entries.get? locale).getD [] = givenEntries catalogs locale := by
  induction catalogs generalizing entries with
  | nil =>
    cases h
    exact ⟨iff_of_true rfl rfl, rfl⟩
  | cons entry rest ih =>
    obtain ⟨code, fragment⟩ := entry
    obtain ⟨messages, table, normal, others, rfl⟩ := ok_of_normalizeAll_cons h
    obtain ⟨absent, given⟩ := ih others
    by_cases same : locale = code
    · subst same
      simp [Table.get?, givenEntries, normal, Except.toOption]
    · have differ : (locale == code) = false := beq_eq_false_iff_ne.mpr same
      simp only [givenEntries, Table.get?, List.lookup_cons, differ] at absent given ⊢
      exact ⟨absent, given⟩

theorem ofCatalogs_catalogs {catalogs : Table Value} {sources : Table Source}
    {additions : Table (Table Source)} {locale fallback : String} {debug : Bool}
    {handler : Option Translation.MissingHandler} {s : State}
    (h : (ofCatalogs catalogs sources additions locale fallback debug handler).outcome = .ok s) :
    (normalizeAll catalogs).outcome = .ok s.catalogs := by
  rw [ofCatalogs] at h
  obtain ⟨entries, found, made⟩ := Attempt.ok_of_bind h
  cases made
  exact found

/-- Where no load of the catalog itself is created, the catalog is the given one with the messages of
the loads that end well, each merged once and in the order in which they end. -/
theorem catalog_eq_merged_once {catalogs : Table Value} {sources : Table Source}
    {additions : Table (Table Source)} {first fallback : String} {debug : Bool}
    {handler : Option Translation.MissingHandler} {s : State}
    (new : (ofCatalogs catalogs sources additions first fallback debug handler).outcome = .ok s)
    (events : List Event) {locale : String}
    (apart : ∀ (load : Nat) (stage : Stage),
      (s.after events).loads[load]? ≠ some ⟨.catalog locale, stage⟩) :
    ((s.completions events).map Prod.fst).Nodup ∧
      (∀ (load : Nat) (target : Target),
        (s.after events).loads[load]? = some ⟨target, .ended (.ok ())⟩ ↔
          ∃ messages, (load, target, messages) ∈ s.completions events) ∧
      (∀ load target messages, (load, target, messages) ∈ s.completions events →
        ∃ answer, s.Gives target answer ∧ messagesOf answer = .ok messages) ∧
      (s.after events).catalogs.get? locale =
        if catalogs.get? locale = none ∧ broughtTo locale (s.completions events) = [] then none
        else some ((broughtTo locale (s.completions events)).foldl Catalog.merge
          (givenEntries catalogs locale)) := by
  have isNew : s.IsNew := ⟨catalogs, sources, additions, first, fallback, debug, handler, new⟩
  have recorded := isNew.recorded_after events
  obtain ⟨absent, given⟩ := get?_normalizeAll (ofCatalogs_catalogs new) locale
  have kept : ∀ load messages, (load, .catalog locale, messages) ∉ s.completions events := by
    intro load messages inside
    exact apart load _ ((recorded.ended_iff load _).mpr ⟨messages, inside⟩)
  refine ⟨recorded.nodup, recorded.ended_iff, ?_, ?_⟩
  · intro load target messages inside
    obtain ⟨answer, ⟨source, k, found, same⟩, result⟩ := recorded.given load target messages inside
    exact ⟨answer, ⟨source, k, (after_source? s events target).symm.trans found, same⟩, result⟩
  · rw [after_catalogs, ← map_completions, get?_foldl_takeIn _ kept, given]
    simp only [absent]

def titleEntry (text : String) : Value := .map [(.text "title", .text text)]

/-- A store with a catalog and two namespaces of it. The source of the second one fails when it is
called for the first time. -/
def twoNamespaces : State :=
  ⟨[], [("de", [("dash", ⟨false, fun _ => .ok (titleEntry "Kurz")⟩),
      ("shop", ⟨false, fun call => if call = 0 then .error "offline" else
        .ok (.map [(.text "cart", .text "Korb")])⟩)])],
    "en", false, none, [("de", [(.text "title", .text "Titel")])], "de", [], 0, [], [], [], [], [], []⟩

/-- Two calls for the second namespace share a load that fails, and one of them is cancelled. A
third call loads it after the first namespace. -/
def retriedNamespace : List Event :=
  [.start (.loadNamespace "dash" none), .start (.loadNamespace "shop" none),
    .start (.loadNamespace "shop" none), .perform (.advance 0), .perform (.advance 1),
    .perform (.advance 2), .cancel 2, .perform (.run 1), .perform (.run 0),
    .start (.loadNamespace "shop" none), .perform (.advance 3), .perform (.run 2)]

theorem retriedNamespace_merged :
    (ofCatalogs [("de", titleEntry "Titel")] [] twoNamespaces.additions "de" "en" false
        none).outcome = .ok twoNamespaces ∧
      (∀ (load : Nat) (stage : Stage),
        (twoNamespaces.after retriedNamespace).loads[load]? ≠ some ⟨.catalog "de", stage⟩) ∧
      (twoNamespaces.completions retriedNamespace).map Prod.fst = [0, 2] ∧
      (twoNamespaces.after retriedNamespace).catalogs.get? "de" =
        some [(.text "title", .text "Kurz"), (.text "cart", .text "Korb")] := by
  have new : (ofCatalogs [("de", titleEntry "Titel")] [] twoNamespaces.additions "de" "en" false
      none).outcome = .ok twoNamespaces := rfl
  have apart (load : Nat) (stage : Stage) :
      (twoNamespaces.after retriedNamespace).loads[load]? ≠ some ⟨.catalog "de", stage⟩ := by
    intro here
    have targets : (twoNamespaces.after retriedNamespace).loads.map Load.target =
        [.addition "de" "dash", .addition "de" "shop", .addition "de" "shop"] := rfl
    have inside := List.mem_map_of_mem (f := Load.target) (List.mem_of_getElem? here)
    rw [targets] at inside
    simp at inside
  obtain ⟨-, -, -, catalog⟩ := catalog_eq_merged_once new retriedNamespace apart
  exact ⟨new, apart, rfl, catalog.trans rfl⟩

end State

end Localization.Store
