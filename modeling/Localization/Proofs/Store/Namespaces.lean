import Localization.Proofs.Catalog.Merge
import Localization.Proofs.Store.Flight

/-! # Messages of a merged namespace

A load of a catalog puts its messages in the place of the old ones, and a load of a namespace
merges them in. So what a namespace brought in stays until a load of the catalog ends. Such a
load can only be one that was in flight when the namespace came, since no other is created
afterwards.
-/
namespace Localization.Store

open Catalog

/-- What a path leads to in the catalog of a locale. -/
def messageIn (catalogs : Table Entries) (locale : String) (path : List String) : Option Value :=
  (catalogs.get? locale).bind fun messages => walk? (.map messages) path

theorem takeIn_get?_of_ne (catalogs : Table Entries) (item : Target × Entries) {locale : String}
    (h : item.1.locale ≠ locale) : (takeIn catalogs item).get? locale = catalogs.get? locale := by
  obtain ⟨target, messages⟩ := item
  cases target <;> exact Table.get?_put_of_ne _ _ (Ne.symm h)

theorem messageIn_catalog (catalogs : Table Entries) (locale : String) (messages : Entries)
    (path : List String) :
    messageIn (takeIn catalogs (.catalog locale, messages)) locale path =
      walk? (.map messages) path := by
  rw [messageIn, takeIn, Table.get?_put_self, Option.bind_some]

theorem messageIn_addition (catalogs : Table Entries) (locale name : String) (messages : Entries)
    (path : List String) :
    messageIn (takeIn catalogs (.addition locale name, messages)) locale path =
      walk? (mergeValue ((catalogs.get? locale).map .map) (.map messages)) path := by
  rw [messageIn, takeIn, Table.get?_put_self, Option.bind_some, mergeValue_map]
  cases catalogs.get? locale <;> rfl

theorem messageIn_takeIn (catalogs : Table Entries) (target : Target) {messages : Entries}
    (tidy : Tidy (.map messages)) {path : List String} {message : String}
    (h : walk? (.map messages) path = some (.text message)) :
    messageIn (takeIn catalogs (target, messages)) target.locale path = some (.text message) := by
  cases target with
  | catalog locale => rwa [Target.locale, messageIn_catalog]
  | addition locale name =>
    rw [Target.locale, messageIn_addition]
    exact walk?_mergeValue tidy _ h

/-- A load that does not define a path leaves it as it is, except that a load of the catalog
itself leaves nothing there. -/
theorem messageIn_takeIn_of_not_defines {catalogs : Table Entries} {locale : String}
    (present : catalogs.has locale = true) (item : Target × Entries) (tidy : Tidy (.map item.2))
    {path : List String} (h : item.1.locale = locale → defines (.map item.2) path = false) :
    messageIn (takeIn catalogs item) locale path =
      if item.1 = .catalog locale then none else messageIn catalogs locale path := by
  obtain ⟨target, messages⟩ := item
  by_cases here : target.locale = locale
  · have unsaid := h here
    cases target with
    | catalog other =>
      obtain rfl : other = locale := here
      rw [messageIn_catalog, walk?_of_not_defines unsaid, if_pos rfl]
    | addition other name =>
      obtain rfl : other = locale := here
      obtain ⟨entries, found⟩ := Option.isSome_iff_exists.mp present
      rw [messageIn_addition, walk?_mergeValue_of_not_defines tidy _ unsaid, if_neg (by simp),
        messageIn, found]
      rfl
  · have differ : target ≠ .catalog locale := by
      rintro rfl
      exact here rfl
    rw [if_neg differ, messageIn, takeIn_get?_of_ne catalogs _ here, messageIn]

/-- Loads that do not define a path leave it as it is, unless one of them is a load of the
catalog itself. -/
theorem messageIn_foldl_takeIn {locale : String} {path : List String}
    (items : List (Target × Entries)) {catalogs : Table Entries}
    (present : catalogs.has locale = true) (tidy : ∀ item ∈ items, Tidy (.map item.2))
    (unsaid : ∀ item ∈ items, item.1.locale = locale → defines (.map item.2) path = false) :
    messageIn (items.foldl takeIn catalogs) locale path =
      if ∃ item ∈ items, item.1 = .catalog locale then none
      else messageIn catalogs locale path := by
  induction items generalizing catalogs with
  | nil => simp
  | cons item rest ih =>
    have next : (takeIn catalogs item).has locale = true :=
      (takeIn_has_iff catalogs item locale).mpr (.inl present)
    rw [List.foldl_cons, ih next (fun other inside => tidy other (List.mem_cons_of_mem _ inside))
      (fun other inside => unsaid other (List.mem_cons_of_mem _ inside)),
      messageIn_takeIn_of_not_defines present item (tidy item List.mem_cons_self)
      (unsaid item List.mem_cons_self)]
    simp only [List.mem_cons, exists_eq_or_imp]
    by_cases first : item.1 = .catalog locale
    · rw [if_pos first, ite_self, if_pos (Or.inl first)]
    · rw [if_neg first]
      simp only [first, false_or]

namespace State

theorem tidy_of_absorbed? {s : State} {e : Event} {target : Target} {messages : Entries}
    (h : s.absorbed? e = some (target, messages)) : Tidy (.map messages) := by
  have step := handle_loadStep s e
  rw [h] at step
  cases step with
  | ended load target before answer messages here wasOpen result =>
    cases answer with
    | error text => cases result
    | ok fragment => exact tidy_normalize result

theorem tidy_of_mem_absorbed {s : State} {events : List Event} {item : Target × Entries}
    (h : item ∈ s.absorbed events) : Tidy (.map item.2) := by
  induction events generalizing s with
  | nil => cases h
  | cons e rest ih =>
    rcases List.mem_append.mp h with first | later
    · exact tidy_of_absorbed? (Option.mem_toList.mp first)
    · exact ih later

theorem handle_isMerged {s : State} {locale name : String} (h : s.isMerged locale name = true)
    (e : Event) : (s.handle e).isMerged locale name = true := by
  have step := handle_loadStep s e
  generalize s.absorbed? e = absorbed at step
  cases step with
  | still same => rw [same.merged, h]
  | marked _ _ _ _ merged => rw [merged, h, Bool.true_or]
  | created _ _ _ _ _ merged => rw [merged, h]
  | moved _ _ _ _ _ _ _ _ _ merged => rw [merged, h]
  | failed _ _ _ _ _ _ _ _ _ _ merged => rw [merged, h]
  | ended _ _ _ _ _ _ _ _ _ _ merged => rw [merged, h, Bool.true_or]

theorem handle_isMerged_of_absorbed? {s : State} {e : Event} {locale name : String}
    {messages : Entries} (h : s.absorbed? e = some (.addition locale name, messages)) :
    (s.handle e).isMerged locale name = true := by
  have step := handle_loadStep s e
  rw [h] at step
  cases step with
  | ended load target before answer messages here wasOpen result loads catalogs merged =>
    simp [merged]

/-- The catalog of a locale is there and no load of it is in flight. -/
structure Settled (s : State) (locale : String) : Prop where
  present : s.catalogs.has locale = true
  free : s.inFlight? (.catalog locale) = none

theorem Settled.handle {s : State} {locale : String} (h : s.Settled locale) (tracked : s.Tracked)
    (e : Event) :
    (s.handle e).Settled locale ∧ ∀ messages, s.absorbed? e ≠ some (.catalog locale, messages) := by
  have present := handle_has h.present e
  have step := handle_loadStep s e
  generalize s.absorbed? e = absorbed at step
  have left {target : Target} (inFlight : ∀ other, (s.handle e).inFlight? other =
      if other.entry = target.entry then none else s.inFlight? other) :
      (s.handle e).inFlight? (.catalog locale) = none := by
    rw [inFlight, h.free, ite_self]
  cases step with
  | still same => exact ⟨⟨present, (same.inFlight _).trans h.free⟩, by simp⟩
  | marked _ _ _ _ _ inFlight => exact ⟨⟨present, (inFlight _).trans h.free⟩, by simp⟩
  | created target _ wanted _ _ _ inFlight =>
    refine ⟨⟨present, ?_⟩, by simp⟩
    rw [inFlight, if_neg, h.free]
    intro same
    rw [Target.eq_of_entry same.symm, wants, h.present] at wanted
    cases wanted
  | moved _ _ _ _ _ _ _ _ _ _ inFlight => exact ⟨⟨present, (inFlight _).trans h.free⟩, by simp⟩
  | failed _ _ _ _ _ _ _ _ _ _ _ inFlight => exact ⟨⟨present, left inFlight⟩, by simp⟩
  | ended load target before answer messages here wasOpen _ _ _ _ inFlight =>
    refine ⟨⟨present, left inFlight⟩, ?_⟩
    intro other same
    cases same
    have free := h.free
    rw [tracked.entered load _ before here wasOpen] at free
    cases free

theorem Settled.absorbed {s : State} {locale : String} (h : s.Settled locale) (tracked : s.Tracked)
    (events : List Event) (messages : Entries) :
    (.catalog locale, messages) ∉ s.absorbed events := by
  induction events generalizing s with
  | nil => exact List.not_mem_nil
  | cons e rest ih =>
    obtain ⟨next, quiet⟩ := h.handle tracked e
    rw [State.absorbed, List.mem_append, not_or]
    refine ⟨?_, ih next (tracked.handle e)⟩
    intro inside
    exact quiet messages (Option.mem_toList.mp inside)

theorem handle_catalogs_of_absorbed? {s : State} {e : Event} {item : Target × Entries}
    (h : s.absorbed? e = some item) : (s.handle e).catalogs = takeIn s.catalogs item := by
  rw [handle_catalogs, h]
  rfl

/-- A message of a namespace stays at its path exactly until a load of the catalog itself ends, loads
that define the path aside. -/
theorem merged_message_stays_iff {s : State} (new : s.IsNew) (before : List Event) (e : Event)
    {locale name : String} {messages : Entries}
    (merged : (s.after before).absorbed? e = some (.addition locale name, messages))
    {path : List String} {message : String}
    (found : walk? (.map messages) path = some (.text message)) (later : List Event)
    (unsaid : ∀ item ∈ ((s.after before).handle e).absorbed later,
      item.1.locale = locale → defines (.map item.2) path = false) :
    (((s.after before).handle e).after later).isMerged locale name = true ∧
      (messageIn (((s.after before).handle e).after later).catalogs locale path =
          some (.text message) ↔
        ∀ others, (.catalog locale, others) ∉ ((s.after before).handle e).absorbed later) ∧
      (((s.after before).handle e).inFlight? (.catalog locale) = none →
        ∀ others, (.catalog locale, others) ∉ ((s.after before).handle e).absorbed later) := by
  have tracked := (new.serves before).1.handle e
  have flag := handle_isMerged_of_absorbed? merged
  have catalogs := handle_catalogs_of_absorbed? merged
  have present : ((s.after before).handle e).catalogs.has locale = true := by
    rw [catalogs]
    exact (takeIn_has_iff _ (.addition locale name, messages) locale).mpr (.inr rfl)
  have here : messageIn ((s.after before).handle e).catalogs locale path =
      some (.text message) := by
    rw [catalogs]
    exact messageIn_takeIn _ (.addition locale name) (tidy_of_absorbed? merged) found
  generalize (s.after before).handle e = t at *
  refine ⟨?_, ?_, ?_⟩
  · exact after_induction (P := fun t => t.isMerged locale name = true)
      (fun _ e h => handle_isMerged h e) flag later
  · rw [after_catalogs, messageIn_foldl_takeIn _ present (fun _ => tidy_of_mem_absorbed) unsaid,
      here]
    split
    · next taken =>
      obtain ⟨⟨target, others⟩, inside, rfl⟩ := taken
      exact iff_of_false nofun fun none => none others inside
    · next kept =>
      exact iff_of_true rfl fun others inside => kept ⟨_, inside, rfl⟩
  · intro free
    exact Settled.absorbed ⟨present, free⟩ tracked later

/-- A store of one catalog. The catalog of a second locale and a namespace of it are fetched
and held back. -/
def heldNamespace : State :=
  ⟨[("de", ⟨true, fun _ => .ok (.map [(.text "title", .text "Titel")])⟩)],
    [("de", [("dash", ⟨true, fun _ => .ok (.map [(.text "dash", .map [(.text "title",
      .text "Kurz")])])⟩)])],
    "en", false, none, [("en", [])], "en", [], 0, [], [], [], [], [], []⟩

theorem heldNamespace_isNew : heldNamespace.IsNew :=
  ⟨[("en", .map [])], _, _, _, _, _, _, rfl⟩

def dashMessages : Entries := [(.text "dash", .map [(.text "title", .text "Kurz")])]

/-- Both loads begin, and the one of the namespace is released. -/
def bothHeld : List Event :=
  [.start (.loadLocale "de"), .start (.loadNamespace "dash" (some "de")), .perform (.advance 0),
    .perform (.advance 1), .perform (.run 0), .perform (.run 1), .release 1]

/-- The load of the namespace begins alone and is released. -/
def namespaceHeld : List Event :=
  [.start (.loadNamespace "dash" (some "de")), .perform (.advance 0), .perform (.run 0), .release 0]

/-- A catalog that is asked for after its namespace has been merged is not loaded. -/
theorem merged_message_stays_alone :
    heldNamespace.IsNew ∧
      (heldNamespace.after namespaceHeld).absorbed? (.perform (.run 0)) =
        some (.addition "de" "dash", dashMessages) ∧
      walk? (.map dashMessages) ["dash", "title"] = some (.text "Kurz") ∧
      messageIn (((heldNamespace.after namespaceHeld).handle (.perform (.run 0))).after
        [.start (.loadLocale "de"), .perform (.advance 1)]).catalogs "de" ["dash", "title"] =
          some (.text "Kurz") := by
  have merged : (heldNamespace.after namespaceHeld).absorbed? (.perform (.run 0)) =
      some (.addition "de" "dash", dashMessages) := rfl
  have found : walk? (.map dashMessages) ["dash", "title"] = some (.text "Kurz") := rfl
  obtain ⟨-, stays, quiet⟩ := merged_message_stays_iff heldNamespace_isNew namespaceHeld _ merged
    found [.start (.loadLocale "de"), .perform (.advance 1)] (fun item inside => by cases inside)
  exact ⟨heldNamespace_isNew, merged, found, stays.mpr (quiet rfl)⟩

/-- The catalog of the locale ends after its namespace and takes the place of what was merged. The
namespace is lost and still counts as merged. -/
theorem merged_message_lost :
    let merging := heldNamespace.after bothHeld
    let merged := merging.handle (.perform (.run 1))
    let later : List Event := [.release 0, .perform (.run 0)]
    heldNamespace.IsNew ∧
      merging.absorbed? (.perform (.run 1)) = some (.addition "de" "dash", dashMessages) ∧
      walk? (.map dashMessages) ["dash", "title"] = some (.text "Kurz") ∧
      messageIn merged.catalogs "de" ["dash", "title"] = some (.text "Kurz") ∧
      (∀ item ∈ merged.absorbed later, defines (.map item.2) ["dash", "title"] = false) ∧
      (merged.after later).isMerged "de" "dash" = true ∧
      messageIn (merged.after later).catalogs "de" ["dash", "title"] = none := by
  refine ⟨heldNamespace_isNew, rfl, rfl, rfl, ?_, rfl, rfl⟩
  intro item inside
  have same : item = (.catalog "de", [(.text "title", .text "Titel")]) :=
    List.mem_singleton.mp inside
  rw [same]
  rfl

end State

end Localization.Store
