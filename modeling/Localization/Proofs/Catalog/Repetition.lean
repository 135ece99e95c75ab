import Localization.Locale.Table
import Localization.Proofs.Catalog.Merge
import Localization.Proofs.Translation.Calls

/-! # Messages that are merged again

A map into which messages have been merged holds, under each safe key of the messages, what was
merged there. Merging them again puts the same values at keys that have their places already, and
below a map it is the same question one level down, for whatever the first merge found there. So
nothing changes, neither a value nor the order of keys. A translator can be given the same messages
again as long as the catalog of the locale has not been replaced or added to by others.
-/
namespace Localization

open Value

namespace Entries

theorem put_of_get? {entries : Entries} {k v : Value} (h : get? entries k = some v) :
    put entries k v = entries := by
  induction entries with
  | nil => cases h
  | cons entry rest ih =>
    obtain ⟨k', v'⟩ := entry
    rw [get?_cons] at h
    rw [put]
    split
    · next here =>
      rw [if_pos here, Option.some_inj] at h
      rw [h]
    · next other =>
      rw [if_neg other] at h
      rw [ih h]

theorem Distinct.get?_of_mem {entries : Entries} (h : Distinct entries) {k v : Value}
    (inside : (k, v) ∈ entries) (reflexive : k.sameKey k = true) : get? entries k = some v := by
  induction entries with
  | nil => cases inside
  | cons entry rest ih =>
    obtain ⟨k', v'⟩ := entry
    obtain ⟨first, others⟩ := List.pairwise_cons.mp h
    rw [get?_cons]
    rcases List.mem_cons.mp inside with here | later
    · cases here
      rw [if_pos reflexive]
    · have apart : k'.sameKey k = false := first (k, v) later
      simp only [apart, Bool.false_eq_true, ↓reduceIte]
      exact ih others later

end Entries

theorem Table.put_of_get? {α : Type} {table : Table α} {key : String} {value : α}
    (h : table.get? key = some value) : table.put key value = table := by
  induction table with
  | nil => cases h
  | cons entry rest ih =>
    obtain ⟨k, v⟩ := entry
    rw [Table.get?, List.lookup_cons] at h
    rw [Table.put, BEq.comm]
    split
    · next here =>
      rw [here, Option.some_inj] at h
      rw [h]
    · next other =>
      rw [Bool.eq_false_iff.mpr other] at h
      rw [ih h]

namespace Catalog

open Entries

/-- The entries of a mapping: each key is equal to itself and stands there once. -/
structure IsMapping (entries : Entries) : Prop where
  distinct : Distinct entries
  reflexive : ∀ e ∈ entries, e.1.sameKey e.1 = true

theorem mergeInto_of_settled {target : Entries} (source : Entries)
    (settled : ∀ e ∈ source, isUnsafeKey e.1 = false →
      get? target e.1 = some (mergeValue (get? target e.1) e.2)) :
    mergeInto target target source = target := by
  induction source with
  | nil => rw [mergeInto_nil]
  | cons entry rest ih =>
    obtain ⟨here, later⟩ := List.forall_mem_cons.mp settled
    have step : mergeEntry target target entry = target := by
      rw [mergeEntry]
      split
      · rfl
      · next safe => exact put_of_get? (here (Bool.eq_false_iff.mpr safe))
    rw [mergeInto_cons, step]
    exact ih later

theorem get?_merge_of_mem (target : Entries) {source : Entries} (mapping : IsMapping source)
    {e : Value × Value} (inside : e ∈ source) (safe : isUnsafeKey e.1 = false) :
    get? (merge target source) e.1 = some (mergeValue (get? target e.1) e.2) := by
  have kept : e ∈ safeEntries source := List.mem_filter.mpr ⟨inside, by rw [safe, Bool.not_false]⟩
  have found : get? (safeEntries source) e.1 = some e.2 :=
    (distinct_safeEntries mapping.distinct).get?_of_mem kept (mapping.reflexive e inside)
  rw [get?_merge target mapping.distinct, found, Option.map_some, Option.some_or]

theorem merge_again_of {source : Entries} (mapping : IsMapping source)
    (again : ∀ e ∈ source, ∀ old, mergeValue (some (mergeValue old e.2)) e.2 = mergeValue old e.2)
    (target : Entries) : merge (merge target source) source = merge target source := by
  refine mergeInto_of_settled source fun e inside safe => ?_
  rw [get?_merge_of_mem target mapping inside safe, again e inside]

theorem mergeValue_again {v : Value} (mapping : Throughout IsMapping v) (old : Option Value) :
    mergeValue (some (mergeValue old v)) v = mergeValue old v := by
  induction mapping generalizing old with
  | leaf noMap => rw [mergeValue_of_not_map _ noMap, mergeValue_of_not_map _ noMap]
  | map here _ ih =>
    rw [mergeValue_map, mergeValue_map, entriesOf]
    rw [merge_again_of here ih]

theorem merge_again {source : Entries} (mapping : Throughout IsMapping (.map source))
    (target : Entries) : merge (merge target source) source = merge target source :=
  merge_again_of mapping.parts.1
    (fun e inside => mergeValue_again (mapping.parts.2 e inside)) target

end Catalog

namespace Translation

open Catalog

/-- A call that leaves the catalog of a locale alone. -/
def Call.Spares (locale : String) : Call → Prop
  | .loadAll _ => False
  | .loadLocale _ other | .addCatalog other _ => other ≠ locale
  | .setLocale _ | .setDebug _ | .translate .. => True

namespace Translator

theorem get?_act_of_spares [Locale.Data] [Stack] {locale : String} {call : Call}
    (h : call.Spares locale) (t : Translator) : (t.act call).catalogs.get? locale = t.catalogs.get? locale := by
  cases call with
  | loadAll files => cases h
  | loadLocale files other =>
    rw [act, perform, loadLocale]
    cases t.loader with
    | none => rfl
    | some loader =>
      simp only [Traced.value_bind]
      rcases (loader.load files other).value with ⟨failure | entries, later⟩
      · rfl
      · exact Table.get?_put_of_ne t.catalogs _ (Ne.symm h)
  | addCatalog other messages => exact Table.get?_put_of_ne t.catalogs _ (Ne.symm h)
  | setLocale other =>
    rw [act, perform, setLocale]
    split <;> rfl
  | setDebug enabled => rfl
  | translate key params requested => rfl

theorem act_addCatalog [Locale.Data] [Stack] (t : Translator) (locale : String)
    (messages : Entries) :
    t.act (.addCatalog locale messages) =
      { t with
        catalogs := t.catalogs.put locale
          (.map (merge (entriesOf (t.catalogs.get? locale)) messages)) } := rfl

def Holds (t : Translator) (locale : String) (messages : Entries) : Prop :=
  ∃ target, t.catalogs.get? locale = some (.map (merge target messages))

theorem holds_act [Locale.Data] [Stack] (t : Translator) (locale : String) (messages : Entries) :
    (t.act (.addCatalog locale messages)).Holds locale messages :=
  ⟨_, Table.get?_put_self t.catalogs locale _⟩

variable [Locale.Data] [Stack] {t : Translator} {locale : String} {messages : Entries}

theorem Holds.act_again (h : t.Holds locale messages)
    (mapping : Throughout IsMapping (.map messages)) :
    t.act (.addCatalog locale messages) = t := by
  obtain ⟨target, held⟩ := h
  rw [act_addCatalog, held, entriesOf, merge_again mapping, Table.put_of_get? held]

theorem Holds.after (h : t.Holds locale messages) {calls : List Call}
    (spared : ∀ call ∈ calls, call.Spares locale ∨ call = .addCatalog locale messages) :
    (t.after calls).Holds locale messages := by
  induction calls generalizing t with
  | nil => exact h
  | cons call rest ih =>
    obtain ⟨here, later⟩ := List.forall_mem_cons.mp spared
    refine ih ?_ later
    rcases here with spares | rfl
    · obtain ⟨target, held⟩ := h
      exact ⟨target, (get?_act_of_spares spares t).trans held⟩
    · exact holds_act t locale messages

end Translator

/-- Messages that are merged again change nothing, at any depth and in the order of keys. So a
translator that has been given messages for a locale stays as it is when it is given them again,
whatever other calls come between, unless they load the locale or add other messages to it. -/
theorem repeated_messages_change_nothing [Locale.Data] [Stack] {messages : Entries}
    (mapping : Throughout IsMapping (.map messages)) :
    (∀ target, merge (merge target messages) messages = merge target messages) ∧
    ∀ (t : Translator) (locale : String) (between : List Call),
      (∀ call ∈ between, call.Spares locale ∨ call = .addCatalog locale messages) →
      t.after (.addCatalog locale messages :: between ++ [.addCatalog locale messages]) =
        t.after (.addCatalog locale messages :: between) := by
  constructor
  · exact merge_again mapping
  · intro t locale between spared
    rw [Translator.after_snoc]
    exact ((t.holds_act locale messages).after spared).act_again mapping

/-- Messages with an unsafe key and with a map for a text of `english`. -/
def welcome : Entries :=
  [(.text "constructor", .text "drop"), (.text "title", .text "Hello"),
    (.text "menu", .map [(.text "open", .text "Open"), (.text "prototype", .null)])]

def english : Translator where
  catalogs := [("en", .map [(.text "menu", .text "Menu"), (.text "constructor", .text "keep")])]
  locale := "en"
  fallback := "en"
  debug := false
  loader := none
  handler := none

theorem mapping_welcome : Throughout IsMapping (.map welcome) := by
  have menu : Throughout IsMapping
      (.map [(.text "open", .text "Open"), (.text "prototype", .null)]) := by
    refine .map ⟨by decide, by decide⟩ ?_
    simp only [List.forall_mem_cons]
    exact ⟨.leaf rfl, .leaf rfl, by simp⟩
  refine .map ⟨by decide, by decide⟩ ?_
  simp only [welcome, List.forall_mem_cons]
  exact ⟨.leaf rfl, .leaf rfl, menu, by simp⟩

open Stack Locale.Excerpt in
theorem welcome_repeated :
    Throughout IsMapping (.map welcome) ∧
    merge (merge [] welcome) welcome = merge [] welcome ∧
    english.after [.addCatalog "en" welcome, .addCatalog "de" [], .addCatalog "en" welcome] =
      english.after [.addCatalog "en" welcome, .addCatalog "de" []] ∧
    ((english.after [.addCatalog "en" welcome]).catalogs.map fun entry =>
        (entry.1, entry.2.display)) =
      [("en",
        "\x7b'menu': \x7b'open': 'Open'\x7d, 'constructor': 'keep', 'title': 'Hello'\x7d")] := by
  obtain ⟨again, unchanged⟩ := repeated_messages_change_nothing mapping_welcome
  refine ⟨mapping_welcome, again [], ?_, by decide +kernel⟩
  refine unchanged english "en" [.addCatalog "de" []] ?_
  intro call inside
  rw [List.mem_singleton.mp inside]
  have apart : "de" ≠ "en" := by decide
  exact .inl apart

end Translation

end Localization
