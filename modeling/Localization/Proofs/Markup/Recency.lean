import Localization.Markup.Parse
import Localization.Proofs.Since
import Mathlib.Data.List.Induction

/-! # What a cache keeps

A key is used when an entry is put at it, or when the entry at it is read. After any operations
a cache holds the distinct keys used last, as many as it may hold, in the order of their last
uses, each with the value that was put last. So an entry that gives way is the one whose last
use lies furthest back.
-/
namespace Localization

section Repetitions

variable {κ : Type} [BEq κ] [LawfulBEq κ]

theorem nodup_eraseDups : (keys : List κ) → keys.eraseDups.Nodup
  | [] => List.nodup_nil
  | key :: rest => by
    rw [List.eraseDups_cons, List.nodup_cons]
    refine ⟨?_, nodup_eraseDups _⟩
    rw [List.mem_eraseDups, List.mem_filter, beq_self_eq_true]
    exact fun inside => Bool.false_ne_true inside.2
termination_by keys => keys.length
decreasing_by exact Nat.lt_succ_of_le (List.length_filter_le ..)

theorem eraseDups_filter (p : κ → Bool) : (keys : List κ) →
    (keys.filter p).eraseDups = keys.eraseDups.filter p
  | [] => rfl
  | key :: rest => by
    have others := eraseDups_filter p (rest.filter fun other => !other == key)
    rw [List.filter_filter] at others
    rw [List.eraseDups_cons, List.filter_cons, List.filter_cons, ← others]
    cases kept : p key with
    | true =>
      rw [if_pos rfl, if_pos rfl, List.eraseDups_cons, List.filter_filter]
      simp only [Bool.and_comm]
    | false =>
      rw [if_neg Bool.false_ne_true, if_neg Bool.false_ne_true]
      congr 1
      refine List.filter_congr fun other _ => ?_
      by_cases same : other = key
      · rw [same, kept, Bool.false_and]
      · rw [beq_eq_false_iff_ne.mpr same, Bool.not_false, Bool.and_true]
termination_by keys => keys.length
decreasing_by exact Nat.lt_succ_of_le (List.length_filter_le ..)

/-- Without a member, the first of the other keys are among the first ones and one more. -/
theorem take_filter_take {keys : List κ} (distinct : keys.Nodup) (key : κ) (n : Nat) :
    ((keys.take (n + 1)).filter fun other => !other == key).take n =
      (keys.filter fun other => !other == key).take n := by
  induction keys generalizing n with
  | nil => rfl
  | cons first rest ih =>
    obtain ⟨fresh, others⟩ := List.nodup_cons.mp distinct
    rw [List.take_succ_cons, List.filter_cons, List.filter_cons]
    by_cases same : first = key
    · subst same
      have whole : (rest.filter fun other => !other == first) = rest := by
        refine List.filter_eq_self.mpr fun other inside => ?_
        rw [Bool.not_eq_true', beq_eq_false_iff_ne]
        rintro rfl
        exact fresh inside
      have part : ((rest.take n).filter fun other => !other == first) = rest.take n := by
        refine List.filter_eq_self.mpr fun other inside => ?_
        exact List.filter_eq_self.mp whole other (List.mem_of_mem_take inside)
      rw [beq_self_eq_true, Bool.not_true, if_neg Bool.false_ne_true, if_neg Bool.false_ne_true,
        whole, part, List.take_take, Nat.min_self]
    · rw [beq_eq_false_iff_ne.mpr same, Bool.not_false, if_pos rfl, if_pos rfl]
      cases n with
      | zero => rfl
      | succ n => rw [List.take_succ_cons, List.take_succ_cons, ih others]

/-- Of two members of a list without its later repetitions, the second one first comes after the
first one. -/
theorem exists_split_of_eraseDups {keys newer older : List κ} {key other : κ}
    (split : keys.eraseDups = newer ++ other :: older) (inside : key ∈ newer) :
    ∃ front back, keys = front ++ other :: back ∧ other ∉ front ∧ key ∈ front := by
  have distinct := nodup_eraseDups keys
  have there : other ∈ keys := by
    rw [← List.mem_eraseDups, split]
    exact List.mem_append_right _ List.mem_cons_self
  obtain ⟨front, back, rfl, fresh⟩ := List.eq_append_cons_of_mem there
  refine ⟨front, back, rfl, fresh, ?_⟩
  have first : front.contains other = false := by rwa [← Bool.not_eq_true, List.contains_iff_mem]
  rw [split] at distinct
  rw [List.eraseDups_append, List.cons_removeAll, if_pos first, List.eraseDups_cons] at split
  have apart : other ∉ newer := by
    intro before
    exact (List.nodup_append.mp distinct).2.2 other before other List.mem_cons_self rfl
  obtain ⟨same, -⟩ := append_cons_inj split (mt List.mem_eraseDups.mp fresh) apart
  rwa [← List.mem_eraseDups, same]

end Repetitions

namespace Cache

/-- What is done with a cache. -/
inductive Operation (κ α : Type) where
  | get (key : κ)
  | put (key : κ) (value : α)
  /-- Asks whether an entry is present. -/
  | test (key : κ)
  | clear

variable {κ α : Type}

def LastPut (operations : List (Operation κ α)) (key : κ) (value : α) : Prop :=
  Since (fun operation => operation = .clear ∨ ∃ other, operation = .put key other)
    (fun _ operation => operation = .put key value) operations

section LastPut

variable {operations : List (Operation κ α)} {k key : κ} {v value : α}

theorem lastPut_put :
    LastPut (operations ++ [.put k v]) key value ↔
      k = key ∧ v = value ∨ k ≠ key ∧ LastPut operations key value := by
  simp [LastPut, since_snoc]

theorem lastPut_get :
    LastPut (operations ++ [.get k]) key value ↔ LastPut operations key value := by
  simp [LastPut, since_snoc]

theorem lastPut_test :
    LastPut (operations ++ [.test k]) key value ↔ LastPut operations key value := by
  simp [LastPut, since_snoc]

theorem not_lastPut_clear : ¬ LastPut (operations ++ [.clear]) key value := by
  simp [LastPut, since_snoc]

theorem LastPut.unique (h : LastPut operations key v) (h' : LastPut operations key value) :
    v = value := by
  induction operations using List.reverseRecOn with
  | nil => exact absurd h not_since_nil
  | append_singleton operations last ih =>
    cases last with
    | get other => exact ih (lastPut_get.mp h) (lastPut_get.mp h')
    | test other => exact ih (lastPut_test.mp h) (lastPut_test.mp h')
    | clear => exact absurd h not_lastPut_clear
    | put other given =>
      rcases lastPut_put.mp h with ⟨same, rfl⟩ | ⟨differ, h⟩ <;>
        rcases lastPut_put.mp h' with ⟨same', rfl⟩ | ⟨differ', h'⟩
      · rfl
      · exact absurd same differ'
      · exact absurd same' differ
      · exact ih h h'

end LastPut

/-- The keys of a cache, the most recently used one first. -/
def recentKeys (cache : Cache κ α) : List κ := (cache.entries.map Prod.fst).reverse

theorem size_eq (cache : Cache κ α) : cache.size = cache.recentKeys.length := by
  rw [recentKeys, List.length_reverse, List.length_map, size]

theorem mem_recentKeys {cache : Cache κ α} {key : κ} :
    key ∈ cache.recentKeys ↔ ∃ value, (key, value) ∈ cache.entries := by
  simp [recentKeys]

theorem recentKeys_trim (cache : Cache κ α) :
    cache.trim.recentKeys = cache.recentKeys.take cache.capacity := by
  simp only [recentKeys, trim, List.map_drop, List.reverse_drop, List.length_map,
    List.take_eq_take_iff, List.length_reverse]
  omega

variable [BEq κ]

theorem recentKeys_renew (cache : Cache κ α) (key : κ) (value : α) :
    (cache.renew key value).recentKeys =
      key :: cache.recentKeys.filter fun other => !other == key := by
  simp only [recentKeys, renew, List.map_append, List.reverse_append, List.filter_reverse,
    List.filter_map]
  rfl

theorem recentKeys_put (cache : Cache κ α) (key : κ) (value : α) :
    (cache.put key value).recentKeys =
      (key :: cache.recentKeys.filter fun other => !other == key).take cache.capacity := by
  rw [put, recentKeys_trim, recentKeys_renew]
  rfl

theorem get_of_some {cache : Cache κ α} {key : κ} {value : α}
    (found : cache.peek? key = some value) : cache.get key = (some value, cache.renew key value) := by
  rw [get, found]

theorem get_of_none {cache : Cache κ α} {key : κ} (absent : cache.peek? key = none) :
    cache.get key = (none, cache) := by
  rw [get, absent]

theorem get_fst (cache : Cache κ α) (key : κ) : (cache.get key).1 = cache.peek? key := by
  cases found : cache.peek? key with
  | some value => rw [get_of_some found]
  | none => rw [get_of_none found]

def operate (cache : Cache κ α) : Operation κ α → Cache κ α
  | .get key => (cache.get key).2
  | .put key value => cache.put key value
  | .test _ => cache
  | .clear => cache.clear

/-- The cache after several operations. -/
def after (cache : Cache κ α) (operations : List (Operation κ α)) : Cache κ α :=
  operations.foldl operate cache

/-- The keys used since the cache was cleared, the last use first, after one more operation.
Reading an absent entry uses nothing. -/
def usesThen (cache : Cache κ α) (past : List κ) : Operation κ α → List κ
  | .get key => if cache.contains key then key :: past else past
  | .put key _ => key :: past
  | .test _ => past
  | .clear => []

/-- The keys used since the cache was cleared, the last use first. -/
def uses (cache : Cache κ α) (past : List κ) : List (Operation κ α) → List κ
  | [] => past
  | operation :: rest => (cache.operate operation).uses (cache.usesThen past operation) rest

/-- Of keys that were used, the last use first, one was used after the last use of another. -/
def UsedAfter (uses : List κ) (key other : κ) : Prop :=
  ∃ newer older, uses = newer ++ other :: older ∧ other ∉ newer ∧ key ∈ newer

/-- After operations a cache holds the entries of the distinct keys used last, each with the value
put last at its key, and the entry that gives way to a new one is the least recently used. -/
structure KeepsRecent (capacity : Nat) (operations : List (Operation κ α)) (uses : List κ)
    (cache : Cache κ α) : Prop where
  size_le : cache.size ≤ capacity
  recentKeys_eq : cache.recentKeys = uses.eraseDups.take capacity
  mem_uses (key : κ) : key ∈ uses ↔ ∃ value, LastPut operations key value
  get_some (key : κ) (value : α) : (cache.get key).1 = some value ↔
    key ∈ uses.eraseDups.take capacity ∧ LastPut operations key value
  get_none (key : κ) : (cache.get key).1 = none ↔ key ∉ uses.eraseDups.take capacity
  dropped (key : κ) (value : α) (lost : κ) : lost ∈ cache.recentKeys →
    lost ∉ (cache.put key value).recentKeys →
    ∀ other ∈ cache.recentKeys, other ≠ lost → UsedAfter uses other lost

theorem after_snoc (cache : Cache κ α) (operations : List (Operation κ α))
    (last : Operation κ α) :
    cache.after (operations ++ [last]) = (cache.after operations).operate last :=
  List.foldl_append

theorem uses_snoc (cache : Cache κ α) (past : List κ) (operations : List (Operation κ α))
    (last : Operation κ α) :
    cache.uses past (operations ++ [last]) =
      (cache.after operations).usesThen (cache.uses past operations) last := by
  induction operations generalizing cache past with
  | nil => rfl
  | cons operation rest ih => exact ih _ _

theorem capacity_operate (cache : Cache κ α) (operation : Operation κ α) :
    (cache.operate operation).capacity = cache.capacity := by
  cases operation with
  | get key =>
    cases found : cache.peek? key with
    | some value => rw [operate, get_of_some found, renew]
    | none => rw [operate, get_of_none found]
  | put key value => rfl
  | test key => rfl
  | clear => rfl

/-- The entries of a cache are those of the distinct keys used last, with the values put last. -/
structure Tracks (operations : List (Operation κ α)) (uses : List κ) (cache : Cache κ α) :
    Prop where
  recentKeys_eq : cache.recentKeys = uses.eraseDups.take cache.capacity
  mem_uses (key : κ) : key ∈ uses ↔ ∃ value, LastPut operations key value
  lastPut : ∀ entry ∈ cache.entries, LastPut operations entry.1 entry.2

theorem tracks_empty (capacity : Nat) : Tracks [] [] (empty capacity : Cache κ α) := by
  refine ⟨List.take_nil.symm, ?_, fun entry inside => by cases inside⟩
  intro key
  exact iff_of_false List.not_mem_nil fun ⟨value, last⟩ => not_since_nil last

variable [LawfulBEq κ]

theorem contains_iff {cache : Cache κ α} {key : κ} :
    cache.contains key = true ↔ key ∈ cache.recentKeys := by
  rw [contains, peek?, List.lookup_isSome_iff, mem_recentKeys]
  constructor
  · rintro ⟨entry, inside, same⟩
    exact ⟨entry.2, eq_of_beq same ▸ inside⟩
  · rintro ⟨value, inside⟩
    exact ⟨_, inside, beq_self_eq_true key⟩

theorem mem_of_peek? {cache : Cache κ α} {key : κ} {value : α}
    (found : cache.peek? key = some value) : (key, value) ∈ cache.entries := by
  obtain ⟨before, after, parts, -⟩ := List.lookup_eq_some_iff.mp found
  rw [parts]
  exact List.mem_append_right _ List.mem_cons_self

theorem mem_renew {cache : Cache κ α} {key : κ} {value : α} {entry : κ × α}
    (inside : entry ∈ (cache.renew key value).entries) :
    entry = (key, value) ∨ entry.1 ≠ key ∧ entry ∈ cache.entries := by
  rcases List.mem_append.mp inside with old | new
  · obtain ⟨old, differ⟩ := List.mem_filter.mp old
    exact .inr ⟨by simpa using differ, old⟩
  · exact .inl (List.mem_singleton.mp new)

theorem Tracks.nodup {operations : List (Operation κ α)} {uses : List κ} {cache : Cache κ α}
    (h : Tracks operations uses cache) : cache.recentKeys.Nodup := by
  rw [h.recentKeys_eq]
  exact (nodup_eraseDups uses).sublist (List.take_sublist ..)

/-- A use makes a key the most recent one of the distinct keys, among those that are kept too. -/
theorem take_eraseDups_cons (uses : List κ) (key : κ) (n : Nat) :
    (key :: (uses.eraseDups.take n).filter fun other => !other == key).take n =
      (key :: uses).eraseDups.take n := by
  rw [List.eraseDups_cons, eraseDups_filter]
  cases n with
  | zero => rfl
  | succ n =>
    rw [List.take_succ_cons, List.take_succ_cons, take_filter_take (nodup_eraseDups uses)]

theorem Tracks.put {operations : List (Operation κ α)} {uses : List κ} {cache : Cache κ α}
    (h : Tracks operations uses cache) (key : κ) (value : α) :
    Tracks (operations ++ [.put key value]) (key :: uses) (cache.put key value) where
  recentKeys_eq := by
    rw [recentKeys_put, h.recentKeys_eq]
    exact take_eraseDups_cons uses key cache.capacity
  mem_uses other := by
    simp only [lastPut_put, List.mem_cons, h.mem_uses]
    by_cases same : other = key
    · subst same
      simp
    · simp [same, Ne.symm same]
  lastPut entry inside := by
    rcases mem_renew (List.mem_of_mem_drop inside) with rfl | ⟨differ, old⟩
    · exact lastPut_put.mpr (.inl ⟨rfl, rfl⟩)
    · exact lastPut_put.mpr (.inr ⟨differ.symm, h.lastPut entry old⟩)

/-- Reading an entry that is present only makes it the most recent one. -/
theorem Tracks.renew {operations : List (Operation κ α)} {uses : List κ} {cache : Cache κ α}
    (h : Tracks operations uses cache) {key : κ} {value : α}
    (found : cache.peek? key = some value) :
    Tracks (operations ++ [.get key]) (key :: uses) (cache.renew key value) where
  recentKeys_eq := by
    have inside : key ∈ cache.recentKeys := mem_recentKeys.mpr ⟨value, mem_of_peek? found⟩
    have shorter : (cache.recentKeys.filter fun other => !other == key).length <
        cache.recentKeys.length := by
      refine List.length_filter_lt_length_iff_exists.mpr ⟨key, inside, ?_⟩
      simp
    have bound : cache.recentKeys.length ≤ cache.capacity := by
      rw [h.recentKeys_eq]
      exact List.length_take_le ..
    -- Nothing gives way, since the key was among those that the cache holds.
    have fits : (key :: cache.recentKeys.filter fun other => !other == key).length ≤
        cache.capacity := Nat.le_trans shorter bound
    rw [recentKeys_renew, ← List.take_of_length_le fits, h.recentKeys_eq]
    exact take_eraseDups_cons uses key cache.capacity
  mem_uses other := by
    have used : key ∈ uses := by
      have inside := mem_recentKeys.mpr ⟨value, mem_of_peek? found⟩
      rw [h.recentKeys_eq] at inside
      exact List.mem_eraseDups.mp (List.mem_of_mem_take inside)
    simp only [lastPut_get, List.mem_cons, ← h.mem_uses]
    exact ⟨fun inside => inside.elim (fun same => same ▸ used) id, .inr⟩
  lastPut entry inside := by
    rcases mem_renew inside with rfl | ⟨-, old⟩
    · exact lastPut_get.mpr (h.lastPut _ (mem_of_peek? found))
    · exact lastPut_get.mpr (h.lastPut entry old)

theorem Tracks.operate {operations : List (Operation κ α)} {uses : List κ} {cache : Cache κ α}
    (h : Tracks operations uses cache) (operation : Operation κ α) :
    Tracks (operations ++ [operation]) (cache.usesThen uses operation)
      (cache.operate operation) := by
  cases operation with
  | put key value => exact h.put key value
  | get key =>
    cases found : cache.peek? key with
    | some value =>
      rw [Cache.operate, get_of_some found, usesThen, contains, found]
      exact h.renew found
    | none =>
      rw [Cache.operate, get_of_none found, usesThen, contains, found]
      refine ⟨h.recentKeys_eq, fun other => ?_, fun entry inside => ?_⟩
      · exact (h.mem_uses other).trans (exists_congr fun _ => lastPut_get.symm)
      · exact lastPut_get.mpr (h.lastPut entry inside)
  | test key =>
    refine ⟨h.recentKeys_eq, fun other => ?_, fun entry inside => ?_⟩
    · exact (h.mem_uses other).trans (exists_congr fun _ => lastPut_test.symm)
    · exact lastPut_test.mpr (h.lastPut entry inside)
  | clear =>
    refine ⟨List.take_nil.symm, ?_, fun entry inside => by cases inside⟩
    intro other
    exact iff_of_false List.not_mem_nil fun ⟨value, last⟩ => not_lastPut_clear last

theorem tracks_after (capacity : Nat) (operations : List (Operation κ α)) :
    ((empty capacity).after operations).capacity = capacity ∧
      Tracks operations ((empty capacity).uses [] operations)
        ((empty capacity).after operations) := by
  induction operations using List.reverseRecOn with
  | nil => exact ⟨rfl, tracks_empty capacity⟩
  | append_singleton operations last ih =>
    rw [after_snoc, uses_snoc]
    exact ⟨(capacity_operate _ last).trans ih.1, ih.2.operate last⟩

/-- An entry that gives way is the last one by recency, of a full cache that lacks the new key. -/
theorem recentKeys_of_dropped {cache : Cache κ α} (bound : cache.recentKeys.length ≤ cache.capacity)
    {key : κ} {value : α} {lost : κ} (inside : lost ∈ cache.recentKeys)
    (gone : lost ∉ (cache.put key value).recentKeys) :
    ∃ others, cache.recentKeys = others ++ [lost] := by
  rw [recentKeys_put] at gone
  generalize cache.recentKeys = keys at *
  cases size : cache.capacity with
  | zero =>
    rw [size, Nat.le_zero, List.length_eq_zero_iff] at bound
    rw [bound] at inside
    cases inside
  | succ n =>
    rw [size] at gone bound
    rw [List.take_succ_cons, List.mem_cons, not_or] at gone
    have kept : lost ∈ keys.filter fun other => !other == key :=
      List.mem_filter.mpr ⟨inside, by simpa using gone.1⟩
    rw [← List.take_append_drop n (keys.filter _), List.mem_append] at kept
    have last := kept.resolve_left gone.2
    have enough := List.length_pos_of_mem last
    rw [List.length_drop] at enough
    -- More than all but one of the keys remain beside the new one, so it is none of them.
    have whole : keys.filter (fun other => !other == key) = keys := by
      refine List.filter_sublist.eq_of_length ?_
      have le := List.length_filter_le (fun other => !other == key) keys
      omega
    rw [whole] at last enough
    have single : (keys.drop n).length = 1 := by
      rw [List.length_drop]
      omega
    obtain ⟨final, same⟩ := List.length_eq_one_iff.mp single
    rw [same, List.mem_singleton] at last
    subst last
    exact ⟨keys.take n, by rw [← same, List.take_append_drop]⟩

/-- Whatever is done with an empty cache, it then holds exactly the entries of the distinct keys
used last, as many as it may hold, with the values put last. -/
theorem keeps_recent (capacity : Nat) (operations : List (Operation κ α)) :
    KeepsRecent capacity operations ((empty capacity).uses [] operations)
      ((empty capacity).after operations) := by
  obtain ⟨size, tracks⟩ := @tracks_after κ α _ _ capacity operations
  generalize (empty capacity).uses [] operations = uses at tracks
  generalize (empty capacity).after operations = cache at size tracks
  have keys : cache.recentKeys = uses.eraseDups.take capacity := size ▸ tracks.recentKeys_eq
  have bound : cache.recentKeys.length ≤ capacity := by
    rw [keys]
    exact List.length_take_le ..
  have value (key : κ) (v : α) : (cache.get key).1 = some v → LastPut operations key v := by
    rw [get_fst]
    exact fun found => tracks.lastPut _ (mem_of_peek? found)
  have present (key : κ) : (cache.get key).1.isSome = true ↔ key ∈ uses.eraseDups.take capacity := by
    rw [get_fst, ← keys]
    exact contains_iff
  refine ⟨?_, keys, tracks.mem_uses, ?_, ?_, ?_⟩
  · rwa [size_eq]
  · intro key v
    constructor
    · intro found
      exact ⟨(present key).mp (by rw [found]; rfl), value key v found⟩
    · rintro ⟨inside, last⟩
      obtain ⟨other, found⟩ := Option.isSome_iff_exists.mp ((present key).mpr inside)
      rw [found, (value key other found).unique last]
  · intro key
    rw [← present, Bool.not_eq_true, Option.isSome_eq_false_iff, Option.isNone_iff_eq_none]
  · intro key v lost inside gone other there differ
    obtain ⟨others, last⟩ := recentKeys_of_dropped (size ▸ bound) inside gone
    have split : uses.eraseDups = others ++ lost :: uses.eraseDups.drop capacity := by
      rw [← List.singleton_append, ← List.append_assoc, ← last, keys, List.take_append_drop]
    refine exists_split_of_eraseDups split ?_
    rw [last, List.mem_append, List.mem_singleton] at there
    exact there.resolve_right differ

end Cache

namespace Markup.ParseCache

def mark (c : Char) : List Segment := [.text [c]]

/-- The first entry is read, so the second one gives way to the third. Then the second one is
absent and reading it uses nothing, nor does the test, so the first entry gives way to the fourth. -/
def readAndTested : List (Cache.Operation (List Char) (List Segment)) :=
  [.put ['a'] (mark 'a'), .put ['b'] (mark 'b'), .get ['a'], .put ['c'] (mark 'c'), .get ['b'],
    .test ['a'], .put ['d'] (mark 'd')]

theorem readAndTested_kept :
    ofCapacity? 2 = .ok (.empty 2) ∧
      Cache.KeepsRecent 2 readAndTested [['d'], ['c'], ['a'], ['b'], ['a']]
        ((Cache.empty 2).after readAndTested) ∧
      ((Cache.empty 2).after readAndTested).recentKeys = [['d'], ['c']] := by
  have kept := Cache.keeps_recent 2 readAndTested
  exact ⟨rfl, kept, kept.recentKeys_eq.trans rfl⟩

end Markup.ParseCache

end Localization
