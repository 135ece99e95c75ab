import Localization.Proofs.Catalog.Clean

/-! # Wrapped fragments

A map whose only entry is a map under `default` is taken for a wrapper. Its shape is all that tells
it from messages, so a catalog of this shape is unwrapped once more whenever it is normalized. Any
other map gives the same messages with a wrapper around it and without one, and messages that are
normalized and have another shape are normal: merging from nothing leaves them as they are.
-/
namespace Localization

namespace Entries

theorem put_of_absent {entries : Entries} {k : Value} (h : get? entries k = none) (v : Value) :
    put entries k v = entries ++ [(k, v)] := by
  induction entries with
  | nil => rw [put, List.nil_append]
  | cons entry rest ih =>
    obtain ⟨k', v'⟩ := entry
    rw [get?_cons] at h
    rw [put]
    split
    · next here =>
      rw [if_pos here] at h
      cases h
    · next other =>
      rw [if_neg other] at h
      rw [ih h, List.cons_append]

end Entries

namespace Catalog

open Entries

theorem mergeInto_of_absent {source : Entries} (distinct : Distinct source) {output : Entries}
    (absent : ∀ e ∈ source, get? output e.1 = none) :
    mergeInto [] output source =
      output ++ (safeEntries source).map fun e => (e.1, mergeValue none e.2) := by
  induction source generalizing output with
  | nil => rw [mergeInto_nil, safeEntries, List.filter_nil, List.map_nil, List.append_nil]
  | cons entry rest ih =>
    obtain ⟨k, v⟩ := entry
    obtain ⟨first, others⟩ := List.pairwise_cons.mp distinct
    obtain ⟨here, later⟩ := List.forall_mem_cons.mp absent
    rw [mergeInto_cons, mergeEntry, safeEntries_cons]
    split
    · exact ih others later
    · have apart : ∀ e ∈ rest, get? (put output k (mergeValue none v)) e.1 = none := by
        intro e inside
        rw [get?_put, first e inside]
        exact later e inside
      rw [get?_nil, ih others apart, put_of_absent here, List.append_assoc, List.map_cons,
        List.singleton_append]

theorem merge_nil_eq {source : Entries} (distinct : Distinct source) :
    merge [] source = (safeEntries source).map fun e => (e.1, mergeValue none e.2) :=
  mergeInto_of_absent distinct fun _ _ => get?_nil _

def IsPlain (entries : Entries) : Prop := Distinct entries ∧ HasSafeKeys entries

def Normal (messages : Entries) : Prop := Throughout IsPlain (.map messages)

theorem lasting_isPlain : Lasting IsPlain where
  nil := ⟨lasting_distinct.nil, lasting_hasSafeKeys.nil⟩
  put v h safe := ⟨lasting_distinct.put v h.1 safe, lasting_hasSafeKeys.put v h.2 safe⟩

theorem normal_normalize {fragment : Value} {messages : Entries}
    (h : normalize fragment = .ok messages) : Normal messages :=
  throughout_normalize lasting_isPlain h

theorem merge_nil_of_plain {entries : Entries} (plain : IsPlain entries)
    (same : ∀ e ∈ entries, mergeValue none e.2 = e.2) : merge [] entries = entries := by
  have safe : safeEntries entries = entries := by
    refine List.filter_eq_self.mpr fun e inside => ?_
    rw [plain.2 e inside, Bool.not_false]
  have values : entries.map (fun e => (e.1, mergeValue none e.2)) = entries.map id := by
    refine List.map_congr_left fun e inside => ?_
    rw [same e inside, id]
  rw [merge_nil_eq plain.1, safe, values, List.map_id]

theorem mergeValue_none {v : Value} (h : Throughout IsPlain v) : mergeValue none v = v := by
  induction h with
  | leaf noMap => exact mergeValue_of_not_map none noMap
  | map here _ ih =>
    have nothing : entriesOf none = [] := rfl
    rw [mergeValue_map, nothing, merge_nil_of_plain here ih]

theorem Normal.merge_nil {messages : Entries} (h : Normal messages) :
    merge [] messages = messages :=
  merge_nil_of_plain h.parts.1 fun e inside => mergeValue_none (h.parts.2 e inside)

/-- A map with nothing but a map under `default`. -/
def wrap (inner : Entries) : Entries := [(defaultKey, .map inner)]

def IsWrapper (m : Entries) : Prop := ∃ inner, m = wrap inner

theorem ne_wrap (m : Entries) : m ≠ wrap m := by
  intro same
  have size := congrArg sizeOf same
  simp only [wrap, List.cons.sizeOf_spec, List.nil.sizeOf_spec, Prod.mk.sizeOf_spec,
    Value.map.sizeOf_spec] at size
  omega

theorem safe_defaultKey : isUnsafeKey defaultKey = false := by decide +kernel

theorem merge_nil_wrap (inner : Entries) : merge [] (wrap inner) = wrap (merge [] inner) := by
  have safe : safeEntries (wrap inner) = wrap inner := by
    rw [wrap, safeEntries_cons, safe_defaultKey]
    rfl
  have single : Distinct (wrap inner) := List.pairwise_singleton ..
  rw [merge_nil_eq single, safe]
  rfl

theorem normalize_wrap (m : Entries) : normalize (.map (wrap m)) = .ok (merge [] m) := rfl

theorem unwrap_of_not_wrapper {m : Entries} (bare : ¬ IsWrapper m) : unwrap (.map m) = .map m := by
  unfold unwrap
  split
  · next key inner shape =>
    split
    · next same =>
      rw [defaultKey, Value.sameKey_text] at same
      cases shape
      exact absurd ⟨inner, by rw [same, wrap, defaultKey]⟩ bare
    · exact shape.symm
  · rfl

theorem normalize_of_not_wrapper {m : Entries} (bare : ¬ IsWrapper m) :
    normalize (.map m) = .ok (merge [] m) := by
  rw [normalize, unwrap_of_not_wrapper bare]

theorem normalize_wrap_eq_iff (m : Entries) :
    normalize (.map (wrap m)) = normalize (.map m) ↔ ¬ IsWrapper m := by
  constructor
  · rintro same ⟨inner, rfl⟩
    rw [normalize_wrap, normalize_wrap, merge_nil_wrap] at same
    exact ne_wrap _ (Except.ok.inj same).symm
  · intro bare
    rw [normalize_wrap, normalize_of_not_wrapper bare]

theorem Normal.normalize_eq_iff {messages : Entries} (h : Normal messages) :
    normalize (.map messages) = .ok messages ↔ ¬ IsWrapper messages := by
  constructor
  · rintro same ⟨inner, rfl⟩
    have normal : Normal inner := h.parts.2 _ List.mem_cons_self
    rw [normalize_wrap, normal.merge_nil] at same
    exact ne_wrap inner (Except.ok.inj same)
  · intro bare
    rw [normalize_of_not_wrapper bare, h.merge_nil]

/-- Merged from nothing a map has the shape of a wrapper exactly when its safe entries have it. -/
theorem isWrapper_merge_nil_iff {m : Entries} (distinct : Distinct m) :
    IsWrapper (merge [] m) ↔ IsWrapper (safeEntries m) := by
  rw [merge_nil_eq distinct]
  constructor
  · rintro ⟨inner, same⟩
    obtain ⟨⟨k, v⟩, alone, entry⟩ := List.map_eq_singleton_iff.mp same
    obtain ⟨rfl, value⟩ := Prod.mk.inj entry
    cases v with
    | map entries => exact ⟨entries, alone⟩
    | _ =>
      rw [mergeValue_of_not_map none rfl] at value
      cases value
  · rintro ⟨inner, same⟩
    exact ⟨merge [] inner, by rw [same]; rfl⟩

/-- The second fragment is the first one, wraps it, or is what it is normalized to. -/
inductive Variant : Value → Value → Prop
  | same (fragment : Value) : Variant fragment fragment
  | wrapped {m : Entries} (bare : ¬ IsWrapper m) : Variant (.map m) (.map (wrap m))
  | normalized {fragment : Value} {messages : Entries} (normal : normalize fragment = .ok messages)
      (bare : ¬ IsWrapper messages) : Variant fragment (.map messages)

theorem Variant.normalize_eq {fragment other : Value} (h : Variant fragment other) :
    normalize other = normalize fragment := by
  cases h with
  | same => rfl
  | wrapped bare => exact (normalize_wrap_eq_iff _).mpr bare
  | normalized normal bare =>
    exact ((normal_normalize normal).normalize_eq_iff.mpr bare).trans normal.symm

def standard (fragment : Value) : Value :=
  match normalize fragment with
  | .ok messages => .map (wrap messages)
  | .error _ => fragment

theorem standard_of_ok {fragment : Value} {messages : Entries}
    (h : normalize fragment = .ok messages) : standard fragment = .map (wrap messages) := by
  rw [standard, h]

theorem normalize_standard (fragment : Value) :
    normalize (standard fragment) = normalize fragment := by
  cases result : normalize fragment with
  | error failure => rw [standard, result, result]
  | ok messages =>
    rw [standard_of_ok result, normalize_wrap, (normal_normalize result).merge_nil]

theorem Variant.standard_eq {fragment other : Value} (h : Variant fragment other) :
    standard other = standard fragment := by
  have same := h.normalize_eq
  cases h with
  | same => rfl
  | wrapped bare =>
    have normal := normalize_of_not_wrapper bare
    rw [standard_of_ok normal, standard_of_ok (same.trans normal)]
  | normalized normal bare => rw [standard_of_ok normal, standard_of_ok (same.trans normal)]

end Catalog

end Localization
