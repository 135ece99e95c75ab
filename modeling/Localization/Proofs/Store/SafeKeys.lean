import Localization.Proofs.Catalog.Clean
import Localization.Proofs.Store.Completions

/-! # Unsafe keys stay out

The catalogs of a new store are normalized, and so are the messages that loads bring in, whatever
their sources answer. What a loader gives is merged from nothing. So no catalog has an unsafe key
at any depth.
-/
namespace Localization.Store

open Catalog

namespace State

def Clean (s : State) : Prop := ∀ entry ∈ s.catalogs, Catalog.Clean (.map entry.2)

theorem clean_messagesOf {answer : Except String Value} {messages : Entries}
    (h : messagesOf answer = .ok messages) : Catalog.Clean (.map messages) := by
  cases answer with
  | error text => cases h
  | ok fragment => exact clean_normalize h

theorem clean_normalizeAll {catalogs : Table Value} {entries : Table Entries}
    (h : (normalizeAll catalogs).outcome = .ok entries) :
    ∀ entry ∈ entries, Catalog.Clean (.map entry.2) := by
  induction catalogs generalizing entries with
  | nil =>
    cases h
    exact fun entry inside => by cases inside
  | cons first rest ih =>
    obtain ⟨locale, fragment⟩ := first
    obtain ⟨messages, others, normal, normalized, rfl⟩ := ok_of_normalizeAll_cons h
    exact List.forall_mem_cons.mpr ⟨clean_normalize normal, ih normalized⟩

theorem IsNew.clean {s : State} (h : s.IsNew) : s.Clean := by
  obtain ⟨catalogs, sources, additions, locale, fallback, debug, handler, made⟩ := h
  exact clean_normalizeAll (ofCatalogs_catalogs made)

theorem Clean.takeIn {s : State} (h : s.Clean) (target : Target) {messages : Entries}
    (clean : Catalog.Clean (.map messages)) :
    ∀ entry ∈ takeIn s.catalogs (target, messages), Catalog.Clean (.map entry.2) := by
  intro entry inside
  cases target with
  | catalog locale =>
    rcases Table.mem_put inside with rfl | old
    · exact clean
    · exact h entry old
  | addition locale name =>
    rcases Table.mem_put inside with rfl | old
    · refine clean_merge ?_ messages
      cases found : s.catalogs.get? locale with
      | none => exact clean_nil
      | some catalog => exact h _ (Table.mem_of_get? found)
    · exact h entry old

theorem Clean.handle {s : State} (h : s.Clean) (e : Event) : (s.handle e).Clean := by
  have step := handle_loadStep s e
  generalize s.absorbed? e = absorbed at step
  rw [Clean]
  cases step with
  | still same => rw [same.catalogs]; exact h
  | marked locale names loads catalogs => rw [catalogs]; exact h
  | created target free wanted loads catalogs => rw [catalogs]; exact h
  | moved load target before after here wasOpen isOpen loads catalogs => rw [catalogs]; exact h
  | failed load target before answer failure here wasOpen result loads catalogs =>
    rw [catalogs]
    exact h
  | ended load target before answer messages here wasOpen result loads catalogs =>
    rw [catalogs]
    exact h.takeIn target (clean_messagesOf result)

end State

/-- Neither a catalog of a store, after any history, nor one that a loader gives, after any
actions, has an unsafe key at any depth. -/
theorem unsafe_keys_stay_out [Stack] :
    (∀ s : State, s.IsNew → ∀ events, ∀ entry ∈ (s.after events).catalogs,
      SafeThroughout entry.2) ∧
    ∀ (site : Site) (useCache : Bool), site.IsNew useCache → ∀ actions,
      (∀ locale catalog, (site.after actions).given locale = .ok catalog →
        SafeThroughout catalog) ∧
      ∀ table, (site.after actions).givenAll = .ok table → ∀ entry ∈ table,
        SafeThroughout entry.2 := by
  constructor
  · intro s new events entry inside
    have clean : (s.after events).Clean :=
      State.after_induction (fun _ e h => h.handle e) new.clean events
    exact (clean entry inside).safeThroughout
  · intro site useCache new actions
    have clean := new.clean.after actions
    constructor
    · exact fun locale catalog gives => (clean.given gives).safeThroughout
    · intro table gives entry inside
      exact (clean.given ((Site.givenAll_ok gives).2 entry inside)).safeThroughout

def spoiled (text : String) : Value :=
  .map [(.text " __PROTO__ ", .null),
    (.text "a", .map [(.text "Constructor", .null), (.text "b", .text text)])]

/-- A store that is given such fragments for a catalog, a locale and a namespace. -/
def spoiledStore : State :=
  ⟨[("de", ⟨false, fun _ => .ok (.map [(.text "default", spoiled "zwei")])⟩)],
    [("en", [("shop", ⟨false, fun _ => .ok (spoiled "three")⟩)])], "en", false, none,
    [("en", [(.text "a", .map [(.text "b", .text "one")])])], "en", [], 0, [], [], [], [], [], []⟩

/-- Both the locale and the namespace are loaded. -/
def spoiledLoads : List Event :=
  [.start (.loadLocale "de"), .start (.loadNamespace "shop" none), .perform (.advance 0),
    .perform (.advance 1), .perform (.run 1), .perform (.run 0)]

/-- A folder with such a file. -/
def spoiledSite : Site :=
  ⟨⟨"texts", true, []⟩,
    [("en.yml", Site.octets "' __PROTO__ ': 1\na: \x7bConstructor: 2, b: 3\x7d")]⟩

open Stack in
theorem spoiled_stay_out :
    spoiledStore.IsNew ∧
      (spoiledStore.after spoiledLoads).catalogs =
        [("en", [(.text "a", .map [(.text "b", .text "three")])]),
          ("de", [(.text "a", .map [(.text "b", .text "zwei")])])] ∧
      (∀ entry ∈ (spoiledStore.after spoiledLoads).catalogs, SafeThroughout entry.2) ∧
      spoiledSite.IsNew true ∧
      ∃ catalog, (spoiledSite.after [.loadAll]).given "en" = .ok catalog ∧
        (Value.map catalog).display = "\x7b'a': \x7b'b': 3\x7d\x7d" ∧ SafeThroughout catalog := by
  have newStore : spoiledStore.IsNew :=
    ⟨[("en", spoiled "one")], _, _, _, _, _, _, rfl⟩
  have newSite : spoiledSite.IsNew true := ⟨"texts", rfl⟩
  have read : ((spoiledSite.after [.loadAll]).given "en").toOption.map
      (fun catalog => (Value.map catalog).display) = some "\x7b'a': \x7b'b': 3\x7d\x7d" := by
    decide +kernel
  obtain ⟨catalog, found, shown⟩ := Option.map_eq_some_iff.mp read
  have gives := ok_of_toOption found
  refine ⟨newStore, rfl, unsafe_keys_stay_out.1 _ newStore spoiledLoads, newSite, catalog, gives,
    shown, ?_⟩
  exact (unsafe_keys_stay_out.2 _ true newSite [.loadAll]).1 "en" catalog gives

end Localization.Store
