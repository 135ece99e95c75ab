import Localization.Catalog.Merge
import Localization.Proofs.Value.Key

/-! # What merged catalogs hold

What holds of the empty map and lasts when a value is put at a safe key holds of a normalized
catalog at every depth. So no two entries of it stand under one key, and each of its messages is
found where it stands. A merged map is followed key by key. Under a safe key it holds what the
second map has there, merged with what the first one has, or else what the first one has.
-/
namespace Localization

namespace Value

theorem sameKey_text (v : Value) (key : String) : v.sameKey (text key) = true ↔ v = text key := by
  cases v <;> simp [sameKey, sameScalar, quantity?]

end Value

namespace Entries

open Value

/-- No two entries stand under one key. -/
def Distinct (entries : Entries) : Prop :=
  entries.Pairwise fun a b => a.1.sameKey b.1 = false

instance (entries : Entries) : Decidable (Distinct entries) :=
  inferInstanceAs (Decidable (List.Pairwise _ _))

@[simp] theorem get?_nil (key : Value) : get? [] key = none := rfl

theorem get?_cons (k v : Value) (rest : Entries) (key : Value) :
    get? ((k, v) :: rest) key = if k.sameKey key then some v else get? rest key := by
  simp only [get?, List.find?_cons]
  split <;> simp [*]

theorem get?_congr {key other : Value} (h : key.sameKey other = true) (entries : Entries) :
    get? entries key = get? entries other := by
  simp only [get?, sameKey_comm _ key, sameKey_comm _ other, sameKey_congr h]

theorem get?_put (entries : Entries) (k v key : Value) :
    get? (put entries k v) key = if k.sameKey key then some v else get? entries key := by
  induction entries with
  | nil => rw [put, get?_cons]
  | cons entry rest ih =>
    obtain ⟨k', v'⟩ := entry
    rw [put]
    split
    · next same =>
      rw [get?_cons, get?_cons, sameKey_congr same]
      split <;> rfl
    · next differ =>
      rw [get?_cons, get?_cons, ih]
      by_cases here : k'.sameKey key = true
      · have other : ¬ k.sameKey key = true := by
          intro there
          rw [sameKey_comm, sameKey_congr there, sameKey_comm] at differ
          exact differ here
        rw [if_pos here, if_neg other, if_pos here]
      · simp only [if_neg here]

theorem mem_put {entries : Entries} {k v : Value} {e : Value × Value} (h : e ∈ put entries k v) :
    (e.1 = k ∨ ∃ old ∈ entries, old.1 = e.1) ∧ (e.2 = v ∨ ∃ old ∈ entries, old.2 = e.2) := by
  induction entries with
  | nil =>
    rw [put, List.mem_singleton] at h
    subst h
    exact ⟨.inl rfl, .inl rfl⟩
  | cons entry rest ih =>
    obtain ⟨k', v'⟩ := entry
    rw [put] at h
    split at h
    · rcases List.mem_cons.mp h with rfl | inside
      · exact ⟨.inr ⟨_, List.mem_cons_self, rfl⟩, .inl rfl⟩
      · exact ⟨.inr ⟨e, List.mem_cons_of_mem _ inside, rfl⟩,
          .inr ⟨e, List.mem_cons_of_mem _ inside, rfl⟩⟩
    · rcases List.mem_cons.mp h with rfl | inside
      · exact ⟨.inr ⟨_, List.mem_cons_self, rfl⟩, .inr ⟨_, List.mem_cons_self, rfl⟩⟩
      · obtain ⟨key, value⟩ := ih inside
        exact ⟨key.imp_right fun ⟨old, there, same⟩ => ⟨old, List.mem_cons_of_mem _ there, same⟩,
          value.imp_right fun ⟨old, there, same⟩ => ⟨old, List.mem_cons_of_mem _ there, same⟩⟩

theorem mem_of_get? {entries : Entries} {key v : Value} (h : get? entries key = some v) :
    ∃ k, (k, v) ∈ entries := by
  obtain ⟨⟨k, v'⟩, found, same⟩ := Option.map_eq_some_iff.mp h
  exact ⟨k, same ▸ List.mem_of_find?_eq_some found⟩

theorem Distinct.put {entries : Entries} (h : Distinct entries) (k v : Value) :
    Distinct (entries.put k v) := by
  induction entries with
  | nil => exact List.pairwise_singleton ..
  | cons entry rest ih =>
    obtain ⟨first, others⟩ := List.pairwise_cons.mp h
    rw [Entries.put]
    split
    · exact List.pairwise_cons.mpr ⟨first, others⟩
    · next differ =>
      refine List.pairwise_cons.mpr ⟨?_, ih others⟩
      intro e inside
      rcases (mem_put inside).1 with key | ⟨old, there, same⟩
      · rw [key]
        exact Bool.eq_false_iff.mpr differ
      · rw [← same]
        exact first old there

theorem Distinct.get?_tail {k v : Value} {rest : Entries} (h : Distinct ((k, v) :: rest))
    {key : Value} (here : k.sameKey key = true) : get? rest key = none := by
  have first := (List.pairwise_cons.mp h).1
  rw [get?, Option.map_eq_none_iff, List.find?_eq_none]
  intro e inside
  rw [sameKey_comm, ← sameKey_congr here, first e inside]
  exact Bool.false_ne_true

end Entries

namespace Catalog

open Value Entries

theorem mergeInto_nil (target output : Entries) : mergeInto target output [] = output := rfl

theorem mergeInto_cons (target output : Entries) (entry : Value × Value) (rest : Entries) :
    mergeInto target output (entry :: rest) =
      mergeInto target (mergeEntry target output entry) rest := rfl

theorem mergeValue_map (old : Option Value) (entries : Entries) :
    mergeValue old (.map entries) = .map (merge (entriesOf old) entries) := rfl

theorem mergeValue_of_not_map (old : Option Value) {v : Value} (h : v.isMap = false) :
    mergeValue old v = v := by
  cases v with
  | map entries => cases h
  | _ => rfl

/-- Every map in a value has a property. -/
inductive Throughout (P : Entries → Prop) : Value → Prop
  | leaf {v : Value} (noMap : v.isMap = false) : Throughout P v
  | map {entries : Entries} (here : P entries) (inner : ∀ e ∈ entries, Throughout P e.2) :
      Throughout P (.map entries)

/-- The empty map has a property, and putting a value at a safe key keeps it. -/
structure Lasting (P : Entries → Prop) : Prop where
  nil : P []
  put {entries : Entries} {k : Value} (v : Value) : P entries → isUnsafeKey k = false →
    P (entries.put k v)

section Throughout

variable {P : Entries → Prop}

theorem Throughout.parts {entries : Entries} (h : Throughout P (.map entries)) :
    P entries ∧ ∀ e ∈ entries, Throughout P e.2 := by
  cases h with
  | leaf noMap => cases noMap
  | map here inner => exact ⟨here, inner⟩

theorem Lasting.throughout_nil (lasting : Lasting P) : Throughout P (.map []) :=
  .map lasting.nil fun _ inside => by cases inside

theorem Throughout.put {entries : Entries} {k v : Value} (h : Throughout P (.map entries))
    (lasting : Lasting P) (safe : isUnsafeKey k = false) (value : Throughout P v) :
    Throughout P (.map (entries.put k v)) := by
  obtain ⟨here, inner⟩ := h.parts
  refine .map (lasting.put v here safe) ?_
  intro e inside
  rcases (mem_put inside).2 with new | ⟨old, there, same⟩
  · exact new ▸ value
  · exact same ▸ inner old there

theorem Throughout.entriesOf {entries : Entries} (h : Throughout P (.map entries))
    (lasting : Lasting P) (key : Value) : Throughout P (.map (entriesOf (get? entries key))) := by
  cases found : get? entries key with
  | none => exact lasting.throughout_nil
  | some v =>
    obtain ⟨k, inside⟩ := mem_of_get? found
    have value : Throughout P v := h.parts.2 (k, v) inside
    cases v with
    | map inner => exact value
    | _ => exact lasting.throughout_nil

mutual

theorem throughout_mergeValue (lasting : Lasting P) : (v : Value) → {old : Option Value} →
    Throughout P (.map (entriesOf old)) → Throughout P (mergeValue old v)
  | .map entries, old, h => by
    rw [mergeValue_map]
    exact throughout_mergeInto lasting entries h h
  | .null, _, _ | .bool _, _, _ | .int _, _, _ | .float _, _, _ | .decimal _, _, _ | .text _, _, _
  | .octets _, _, _ | .date _, _, _ | .moment _, _, _ | .list _, _, _ | .tuple _, _, _ => .leaf rfl

theorem throughout_mergeEntry (lasting : Lasting P) : (entry : Value × Value) →
    {target output : Entries} → Throughout P (.map target) → Throughout P (.map output) →
    Throughout P (.map (mergeEntry target output entry))
  | (key, value), target, output, before, h => by
    rw [mergeEntry]
    split
    · exact h
    · next safe =>
      refine h.put lasting (Bool.eq_false_iff.mpr safe) ?_
      exact throughout_mergeValue lasting value (before.entriesOf lasting key)

theorem throughout_mergeInto (lasting : Lasting P) : (source : Entries) →
    {target output : Entries} → Throughout P (.map target) → Throughout P (.map output) →
    Throughout P (.map (mergeInto target output source))
  | [], _, _, _, h => h
  | entry :: rest, target, output, before, h => by
    rw [mergeInto_cons]
    exact throughout_mergeInto lasting rest before (throughout_mergeEntry lasting entry before h)

end

theorem throughout_merge (lasting : Lasting P) {target : Entries}
    (h : Throughout P (.map target)) (source : Entries) :
    Throughout P (.map (merge target source)) := throughout_mergeInto lasting source h h

theorem throughout_normalize (lasting : Lasting P) {fragment : Value} {messages : Entries}
    (h : normalize fragment = .ok messages) : Throughout P (.map messages) := by
  rw [normalize] at h
  split at h
  · cases h
    exact throughout_merge lasting lasting.throughout_nil _
  · cases h

end Throughout

/-- No map in a value has two entries under one key. -/
inductive Tidy : Value → Prop
  | leaf {v : Value} (noMap : v.isMap = false) : Tidy v
  | map {entries : Entries} (distinct : Distinct entries) (inner : ∀ e ∈ entries, Tidy e.2) :
      Tidy (.map entries)

mutual

def isTidy : Value → Bool
  | .map entries => decide (Distinct entries) && areTidy entries
  | _ => true

def isTidyEntry : Value × Value → Bool
  | (_, v) => isTidy v

def areTidy : Entries → Bool
  | [] => true
  | entry :: rest => isTidyEntry entry && areTidy rest

end

mutual

theorem tidy_iff : (v : Value) → (Tidy v ↔ isTidy v = true)
  | .map entries => by
    rw [isTidy, Bool.and_eq_true, decide_eq_true_eq, areTidy_iff entries]
    refine ⟨fun h => ?_, fun h => .map h.1 h.2⟩
    cases h with
    | leaf noMap => cases noMap
    | map distinct inner => exact ⟨distinct, inner⟩
  | .null | .bool _ | .int _ | .float _ | .decimal _ | .text _ | .octets _ | .date _ | .moment _
  | .list _ | .tuple _ => iff_of_true (.leaf rfl) rfl

theorem areTidy_iff : (entries : Entries) →
    (areTidy entries = true ↔ ∀ e ∈ entries, Tidy e.2)
  | [] => iff_of_true rfl fun _ inside => by cases inside
  | (k, v) :: rest => by
    rw [areTidy, isTidyEntry, Bool.and_eq_true, ← tidy_iff v, areTidy_iff rest,
      List.forall_mem_cons]

end

instance (v : Value) : Decidable (Tidy v) := decidable_of_iff _ (tidy_iff v).symm

theorem lasting_distinct : Lasting Distinct where
  nil := .nil
  put v h _ := h.put _ v

theorem tidy_of_throughout {v : Value} (h : Throughout Distinct v) : Tidy v := by
  induction h with
  | leaf noMap => exact .leaf noMap
  | map here _ ih => exact .map here ih

theorem tidy_normalize {fragment : Value} {messages : Entries}
    (h : normalize fragment = .ok messages) : Tidy (.map messages) :=
  tidy_of_throughout (throughout_normalize lasting_distinct h)

/-- The entries of a map that are not left out when it is merged into another one. -/
def safeEntries (source : Entries) : Entries := source.filter fun entry => !isUnsafeKey entry.1

theorem safeEntries_cons (k v : Value) (rest : Entries) :
    safeEntries ((k, v) :: rest) =
      if isUnsafeKey k = true then safeEntries rest else (k, v) :: safeEntries rest := by
  rw [safeEntries, List.filter_cons]
  cases isUnsafeKey k <;> rfl

theorem mem_of_mem_safeEntries {source : Entries} {e : Value × Value}
    (h : e ∈ safeEntries source) : e ∈ source := (List.mem_filter.mp h).1

theorem distinct_safeEntries {source : Entries} (h : Distinct source) :
    Distinct (safeEntries source) := h.sublist List.filter_sublist

theorem get?_safeEntries (source : Entries) {key : String} (safe : isUnsafe key = false) :
    get? (safeEntries source) (text key) = get? source (text key) := by
  induction source with
  | nil => rfl
  | cons entry rest ih =>
    obtain ⟨k, v⟩ := entry
    rw [safeEntries_cons, get?_cons]
    split
    · next skipped =>
      have differ : ¬ k.sameKey (text key) = true := by
        intro same
        rw [(sameKey_text k key).mp same] at skipped
        exact Bool.false_ne_true (safe.symm.trans skipped)
      rw [if_neg differ, ih]
    · rw [get?_cons, ih]

theorem get?_mergeInto (target : Entries) {source : Entries} (distinct : Distinct source)
    (output : Entries) (key : Value) :
    get? (mergeInto target output source) key =
      ((get? (safeEntries source) key).map (mergeValue (get? target key))).or
        (get? output key) := by
  induction source generalizing output with
  | nil => rw [mergeInto_nil]; rfl
  | cons entry rest ih =>
    obtain ⟨k, v⟩ := entry
    rw [mergeInto_cons, ih (List.pairwise_cons.mp distinct).2, mergeEntry, safeEntries_cons]
    split
    · rfl
    · next safe =>
      rw [get?_put, get?_cons]
      by_cases here : k.sameKey key = true
      · have tail : Distinct ((k, v) :: safeEntries rest) := by
          have whole := distinct_safeEntries distinct
          rwa [safeEntries_cons, if_neg safe] at whole
        rw [tail.get?_tail here, if_pos here, if_pos here, get?_congr here]
        rfl
      · rw [if_neg here, if_neg here]

/-- Under a key a merged map holds what the second map has under it, merged with what the first
one has, or else what the first one has. -/
theorem get?_merge (target : Entries) {source : Entries} (distinct : Distinct source)
    (key : Value) :
    get? (merge target source) key =
      ((get? (safeEntries source) key).map (mergeValue (get? target key))).or (get? target key) :=
  get?_mergeInto target distinct target key

theorem get?_merge_text (target : Entries) {source : Entries} (distinct : Distinct source)
    {key : String} (safe : isUnsafe key = false) :
    get? (merge target source) (text key) =
      ((get? source (text key)).map (mergeValue (get? target (text key)))).or
        (get? target (text key)) := by
  rw [get?_merge target distinct, get?_safeEntries source safe]

/-- Whether a value has something else than a map at a path, at a part of it that comes
before, or anything at its end. -/
def defines : Value → List String → Bool
  | _, [] => true
  | .map entries, key :: rest =>
    match get? entries (text key) with
    | some v => defines v rest
    | none => false
  | _, _ :: _ => true

theorem child?_eq_some {node : Value} {key : String} {v : Value} :
    child? node key = some v ↔ isUnsafe key = false ∧ v ≠ .null ∧
      ∃ entries, node = .map entries ∧ get? entries (text key) = some v := by
  unfold child?
  cases safe : isUnsafe key with
  | true => simp
  | false =>
    cases node with
    | map entries =>
      simp only [Bool.false_eq_true, ↓reduceIte, true_and, map.injEq, exists_eq_left']
      split
      · next null => simp [null, eq_comm]
      · next other =>
        refine ⟨fun h => ⟨?_, h⟩, And.right⟩
        rintro rfl
        exact other h
    | _ => simp

theorem mergeValue_ne_null (old : Option Value) {v : Value} (h : v ≠ .null) :
    mergeValue old v ≠ .null := by
  cases kind : v.isMap with
  | false => rwa [mergeValue_of_not_map old kind]
  | true =>
    cases v with
    | map entries => simp [mergeValue_map]
    | _ => cases kind

theorem walk?_mergeValue {v : Value} (tidy : Tidy v) (old : Option Value) {path : List String}
    {message : String} (h : walk? v path = some (.text message)) :
    walk? (mergeValue old v) path = some (.text message) := by
  induction path generalizing v old with
  | nil =>
    cases h
    rw [mergeValue_of_not_map old rfl]
    rfl
  | cons key rest ih =>
    rw [walk?] at h
    obtain ⟨next, first, reached⟩ := Option.bind_eq_some_iff.mp h
    obtain ⟨safe, notNull, entries, rfl, found⟩ := child?_eq_some.mp first
    cases tidy with
    | leaf noMap => cases noMap
    | map distinct inner =>
      have merged := get?_merge_text (entriesOf old) distinct safe
      rw [found, Option.map_some, Option.some_or] at merged
      obtain ⟨k, inside⟩ := mem_of_get? found
      have step : child? (.map (merge (entriesOf old) entries)) key =
          some (mergeValue (get? (entriesOf old) (text key)) next) :=
        child?_eq_some.mpr ⟨safe, mergeValue_ne_null _ notNull, _, rfl, merged⟩
      rw [mergeValue_map, walk?, step, Option.bind_some]
      have tidy : Tidy next := inner (k, next) inside
      exact ih tidy _ reached

theorem walk?_of_not_defines {v : Value} {path : List String} (h : defines v path = false) :
    walk? v path = none := by
  induction path generalizing v with
  | nil => cases h
  | cons key rest ih =>
    rw [walk?, Option.bind_eq_none_iff]
    intro next step
    obtain ⟨-, -, entries, rfl, found⟩ := child?_eq_some.mp step
    rw [defines, found] at h
    exact ih h

theorem isMap_of_not_defines {v : Value} {path : List String} (h : defines v path = false) :
    v.isMap = true := by
  cases path with
  | nil => cases h
  | cons key rest =>
    cases v with
    | map entries => rfl
    | _ => cases h

theorem walk?_leaf {v : Value} (h : v.isMap = false) (key : String) (rest : List String) :
    walk? v (key :: rest) = none := by
  rw [walk?, Option.bind_eq_none_iff]
  intro next step
  obtain ⟨-, -, entries, rfl, -⟩ := child?_eq_some.mp step
  cases h

theorem walk?_empty (key : String) (rest : List String) :
    walk? (.map []) (key :: rest) = none := by
  rw [walk?, Option.bind_eq_none_iff]
  intro next step
  obtain ⟨-, -, entries, same, found⟩ := child?_eq_some.mp step
  cases same
  cases found

/-- A path of several keys leads through the entries under the first one. -/
theorem walk?_entriesOf (entries : Entries) {key : String} (safe : isUnsafe key = false)
    (second : String) (rest : List String) :
    walk? (.map entries) (key :: second :: rest) =
      walk? (.map (entriesOf (get? entries (text key)))) (second :: rest) := by
  rw [walk?]
  cases step : child? (.map entries) key with
  | none =>
    rw [Option.bind_none]
    cases found : get? entries (text key) with
    | none => exact (walk?_empty second rest).symm
    | some v =>
      have null : v = .null := by
        rcases Classical.em (v = .null) with null | notNull
        · exact null
        · rw [child?_eq_some.mpr ⟨safe, notNull, entries, rfl, found⟩] at step
          cases step
      rw [null]
      exact (walk?_empty second rest).symm
  | some v =>
    obtain ⟨-, -, entries', same, found⟩ := child?_eq_some.mp step
    cases same
    rw [Option.bind_some, found]
    cases kind : v.isMap with
    | false =>
      rw [walk?_leaf kind]
      cases v with
      | map inner => cases kind
      | _ => exact (walk?_empty second rest).symm
    | true =>
      cases v with
      | map inner => rfl
      | _ => cases kind

theorem walk?_mergeValue_of_not_defines {v : Value} (tidy : Tidy v) (old : Option Value)
    {path : List String} (h : defines v path = false) :
    walk? (mergeValue old v) path = walk? (.map (entriesOf old)) path := by
  induction path generalizing v old with
  | nil => cases h
  | cons key rest ih =>
    cases tidy with
    | leaf noMap => rw [isMap_of_not_defines h] at noMap; cases noMap
    | @map entries distinct inner =>
      rw [mergeValue_map]
      cases safe : isUnsafe key with
      | true =>
        have stopped (node : Value) : child? node key = none := by
          unfold child?
          rw [if_pos safe]
        simp only [walk?, stopped]
      | false =>
        have merged := get?_merge_text (entriesOf old) distinct safe
        rw [defines] at h
        cases found : get? entries (text key) with
        | none =>
          rw [found, Option.map_none, Option.none_or] at merged
          rw [walk?, walk?]
          unfold child?
          simp only [merged]
        | some next =>
          rw [found] at h
          rw [found, Option.map_some, Option.some_or] at merged
          obtain ⟨k, inside⟩ := mem_of_get? found
          have step : child? (.map (merge (entriesOf old) entries)) key =
              some (mergeValue (get? (entriesOf old) (text key)) next) := by
            refine child?_eq_some.mpr ⟨safe, mergeValue_ne_null _ ?_, _, rfl, merged⟩
            rintro rfl
            cases isMap_of_not_defines h
          have tidy : Tidy next := inner (k, next) inside
          rw [walk?, step, Option.bind_some, ih tidy _ h]
          cases rest with
          | nil => cases h
          | cons second rest => exact (walk?_entriesOf _ safe second rest).symm

end Catalog

end Localization
