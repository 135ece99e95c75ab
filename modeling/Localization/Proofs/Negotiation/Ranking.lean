import Localization.Negotiation.Ranking

/-! # What a ranking keeps

A ranking has the items of the list in another order, whatever the order is that they are compared
in. Where all of them compare, each item goes after all those that it is not less than, so no item
stands before a better one, items that are equally good keep their order, and leaving items out
changes nothing in the order of the others.
-/
namespace Localization.Negotiation

variable {α : Type} {lt : α → α → Bool}

theorem place_perm (items : List α) (item : α) : (place lt items item).Perm (item :: items) := by
  unfold place
  refine List.perm_middle.trans (List.Perm.cons item ?_)
  rw [List.take_append_drop]

theorem foldl_place_perm (rest items : List α) :
    (rest.foldl (place lt) items).Perm (items ++ rest) := by
  induction rest generalizing items with
  | nil => simp
  | cons item rest ih =>
    refine (ih (place lt items item)).trans ?_
    exact ((place_perm items item).append_right rest).trans List.perm_middle.symm

theorem spanDescending_append (last : α) (rest : List α) :
    (spanDescending lt last rest).1 ++ (spanDescending lt last rest).2 = rest := by
  induction rest generalizing last with
  | nil => rfl
  | cons next rest ih =>
    unfold spanDescending
    split
    · exact congrArg (next :: ·) (ih next)
    · rfl

theorem spanAscending_append (last : α) (rest : List α) :
    (spanAscending lt last rest).1 ++ (spanAscending lt last rest).2 = rest := by
  induction rest generalizing last with
  | nil => rfl
  | cons next rest ih =>
    unfold spanAscending
    split
    · rfl
    · exact congrArg (next :: ·) (ih next)

theorem firstRun_perm (items : List α) :
    ((firstRun lt items).1 ++ (firstRun lt items).2).Perm items := by
  cases items with
  | nil => exact .nil
  | cons a items =>
    cases items with
    | nil => exact .refl [a]
    | cons b rest =>
      simp only [firstRun]
      split
      · refine ((List.reverse_perm _).append_right _).trans ?_
        simp [spanDescending_append]
      · simp [spanAscending_append]

theorem ascending_perm (items : List α) : (ascending lt items).Perm items :=
  (foldl_place_perm _ _).trans (firstRun_perm items)

theorem ranked_perm (items : List α) : (ranked lt items).Perm items :=
  (List.reverse_perm _).trans ((ascending_perm items.reverse).trans (List.reverse_perm items))

theorem ranked_singleton (a : α) : ranked lt [a] = [a] := rfl

/-- Items of which `lt` decides which is less: of two at most one, and a third item cannot be
level with both. -/
structure Comparable (lt : α → α → Bool) (items : List α) : Prop where
  asymm : ∀ a ∈ items, ∀ b ∈ items, lt a b = true → lt b a = false
  between : ∀ a ∈ items, ∀ b ∈ items, ∀ c ∈ items, lt a c = true → lt a b = true ∨ lt b c = true

theorem Comparable.mono {items others : List α} (h : Comparable lt items)
    (subset : others ⊆ items) : Comparable lt others where
  asymm a ha b hb := h.asymm a (subset ha) b (subset hb)
  between a ha b hb c hc := h.between a (subset ha) b (subset hb) c (subset hc)

theorem Comparable.lt_of_lt_of_not_lt {items : List α} (h : Comparable lt items) {a b c : α}
    (ha : a ∈ items) (hb : b ∈ items) (hc : c ∈ items) (less : lt a c = true)
    (level : lt b c = false) : lt a b = true := by
  refine (h.between a ha b hb c hc less).resolve_right ?_
  rw [level]
  exact Bool.false_ne_true

theorem Comparable.not_lt_trans {items : List α} (h : Comparable lt items) {a b c : α}
    (ha : a ∈ items) (hb : b ∈ items) (hc : c ∈ items) (first : lt a b = false)
    (second : lt b c = false) : lt a c = false := by
  rw [Bool.eq_false_iff]
  intro less
  rcases h.between a ha b hb c hc less with left | right
  · exact Bool.false_ne_true (first.symm.trans left)
  · exact Bool.false_ne_true (second.symm.trans right)

def Ascending (lt : α → α → Bool) (items : List α) : Prop :=
  items.Pairwise fun a b => lt b a = false

def inserted (lt : α → α → Bool) (items : List α) (item : α) : List α :=
  items.filter (!lt item ·) ++ item :: items.filter (lt item ·)

theorem mem_inserted {items : List α} {item a : α} :
    a ∈ inserted lt items item ↔ a = item ∨ a ∈ items := by
  simp only [inserted, List.mem_append, List.mem_cons, List.mem_filter]
  cases lt item a <;> simp [or_comm]

theorem inserted_subset (items : List α) (item : α) (rest : List α) :
    inserted lt items item ++ rest ⊆ items ++ item :: rest := by
  intro a
  simp only [List.mem_append, List.mem_cons, mem_inserted]
  rintro ((rfl | old) | later)
  · exact .inr (.inl rfl)
  · exact .inl old
  · exact .inr (.inr later)

theorem Comparable.head {items rest : List α} {item : α}
    (h : Comparable lt (items ++ item :: rest)) : Comparable lt (item :: items) :=
  h.mono (List.cons_subset.mpr ⟨by simp, List.subset_append_left items _⟩)

theorem Comparable.step {items rest : List α} {item : α}
    (h : Comparable lt (items ++ item :: rest)) : Comparable lt (inserted lt items item ++ rest) :=
  h.mono (inserted_subset items item rest)

theorem Ascending.filter_append_filter {items : List α} {item : α} (h : Ascending lt items)
    (comparable : Comparable lt (item :: items)) :
    items.filter (!lt item ·) ++ items.filter (lt item ·) = items := by
  induction items with
  | nil => rfl
  | cons a rest ih =>
    obtain ⟨first, others⟩ := List.pairwise_cons.mp h
    cases greater : lt item a with
    | false =>
      have fewer : item :: rest ⊆ item :: a :: rest :=
        List.cons_subset_cons item (List.subset_cons_self a rest)
      simpa [greater] using ih others (comparable.mono fewer)
    | true =>
      have all : ∀ b ∈ a :: rest, lt item b = true := by
        intro b inside
        rcases List.mem_cons.mp inside with rfl | later
        · exact greater
        · exact comparable.lt_of_lt_of_not_lt (by simp) (by simp [later]) (by simp) greater
            (first b later)
      have none : (a :: rest).filter (!lt item ·) = [] :=
        List.filter_eq_nil_iff.mpr fun b inside => by simp [all b inside]
      rw [none, List.filter_eq_self.mpr all, List.nil_append]

theorem Ascending.inserted {items : List α} {item : α} (h : Ascending lt items)
    (comparable : Comparable lt (item :: items)) : Ascending lt (inserted lt items item) := by
  have greater {b : α} (kept : b ∈ items.filter (lt item ·)) : lt b item = false := by
    obtain ⟨inside, less⟩ := List.mem_filter.mp kept
    exact comparable.asymm item List.mem_cons_self b (List.mem_cons_of_mem item inside) less
  refine List.pairwise_append.mpr ⟨h.sublist List.filter_sublist,
    List.pairwise_cons.mpr ⟨fun b => greater, h.sublist List.filter_sublist⟩, ?_⟩
  intro a before b after
  obtain ⟨old, level⟩ := List.mem_filter.mp before
  have notLess : lt item a = false := by simpa using level
  rcases List.mem_cons.mp after with rfl | later
  · exact notLess
  · -- Neither is what follows less than the new item, nor that less than what stands before it.
    exact comparable.not_lt_trans (List.mem_cons_of_mem item (List.mem_filter.mp later).1)
      List.mem_cons_self (List.mem_cons_of_mem item old) (greater later) notLess

theorem Ascending.foldl_inserted {items rest : List α} (h : Ascending lt items)
    (comparable : Comparable lt (items ++ rest)) :
    Ascending lt (rest.foldl (Negotiation.inserted lt) items) := by
  induction rest generalizing items with
  | nil => exact h
  | cons item rest ih => exact ih (h.inserted comparable.head) comparable.step

/-- Halving finds the end of the items that the new one is not less than. -/
theorem placeBetween_eq {front back : List α} {item : α} (level : ∀ a ∈ front, lt item a = false)
    (greater : ∀ a ∈ back, lt item a = true) {low high : Nat} (least : low ≤ front.length)
    (most : front.length ≤ high) (bound : high ≤ (front ++ back).length) :
    placeBetween lt (front ++ back) item low high = front.length := by
  induction measure : high - low using Nat.strongRecOn generalizing low high with
  | ind size ih =>
    unfold placeBetween
    by_cases apart : low < high
    · rw [dif_pos apart]
      have inside : low + (high - low) / 2 < (front ++ back).length := by omega
      simp only [List.getElem?_eq_getElem inside]
      by_cases early : low + (high - low) / 2 < front.length
      · have notLess : lt item (front ++ back)[low + (high - low) / 2] = false := by
          rw [List.getElem_append_left early]
          exact level _ (List.getElem_mem early)
        rw [notLess, if_neg Bool.false_ne_true]
        exact ih _ (by omega) early most bound rfl
      · have less : lt item (front ++ back)[low + (high - low) / 2] = true := by
          rw [List.getElem_append_right (Nat.le_of_not_lt early)]
          exact greater _ (List.getElem_mem _)
        rw [if_pos less]
        exact ih _ (by omega) least (by omega) (by omega) rfl
    · rw [dif_neg apart]
      omega

theorem place_append {front back : List α} {item : α} (level : ∀ a ∈ front, lt item a = false)
    (greater : ∀ a ∈ back, lt item a = true) :
    place lt (front ++ back) item = front ++ item :: back := by
  have found := placeBetween_eq level greater (Nat.zero_le _) (by simp) (Nat.le_refl _)
  simp only [place, found, List.take_left, List.drop_left]

theorem place_eq_inserted {items : List α} {item : α} (h : Ascending lt items)
    (comparable : Comparable lt (item :: items)) :
    place lt items item = inserted lt items item := by
  have placed : place lt (items.filter (!lt item ·) ++ items.filter (lt item ·)) item =
      inserted lt items item :=
    place_append (fun a inside => by simpa using (List.mem_filter.mp inside).2)
      fun a inside => (List.mem_filter.mp inside).2
  rwa [h.filter_append_filter comparable] at placed

theorem foldl_place {items rest : List α} (h : Ascending lt items)
    (comparable : Comparable lt (items ++ rest)) :
    rest.foldl (place lt) items = rest.foldl (inserted lt) items := by
  induction rest generalizing items with
  | nil => rfl
  | cons item rest ih =>
    rw [List.foldl_cons, List.foldl_cons, place_eq_inserted h comparable.head]
    exact ih (h.inserted comparable.head) comparable.step

theorem spanAscending_eq {front : List α} {last : α} {rest : List α}
    (h : Ascending lt (front ++ [last])) (comparable : Comparable lt (front ++ last :: rest)) :
    (spanAscending lt last rest).1.foldl (inserted lt) (front ++ [last]) =
      front ++ last :: (spanAscending lt last rest).1 := by
  induction rest generalizing front last with
  | nil => rfl
  | cons next rest ih =>
    unfold spanAscending
    cases less : lt next last with
    | true => rfl
    | false =>
      have level : ∀ a ∈ front ++ [last], lt next a = false := by
        intro a inside
        rcases List.mem_append.mp inside with before | same
        · have ordered := (List.pairwise_append.mp h).2.2 a before last (by simp)
          exact comparable.not_lt_trans (by simp) (by simp) (by simp [before]) less ordered
        · rw [List.mem_singleton.mp same]
          exact less
      have step : inserted lt (front ++ [last]) next = (front ++ [last]) ++ [next] := by
        rw [inserted, List.filter_eq_self.mpr fun a inside => by simp [level a inside],
          List.filter_eq_nil_iff.mpr fun a inside => by simp [level a inside]]
      have ordered : Ascending lt ((front ++ [last]) ++ [next]) := by
        rw [← step]
        exact h.inserted (comparable.mono (by simp))
      have later := ih ordered (comparable.mono (by simp))
      simpa [step] using later

theorem spanDescending_eq {last : α} {back rest : List α} (h : Ascending lt (last :: back))
    (comparable : Comparable lt (last :: back ++ rest)) :
    (spanDescending lt last rest).1.foldl (inserted lt) (last :: back) =
      (spanDescending lt last rest).1.reverse ++ last :: back := by
  induction rest generalizing last back with
  | nil => rfl
  | cons next rest ih =>
    unfold spanDescending
    cases less : lt next last with
    | false => rfl
    | true =>
      have below : ∀ a ∈ last :: back, lt next a = true := by
        intro a inside
        rcases List.mem_cons.mp inside with rfl | later
        · exact less
        · exact comparable.lt_of_lt_of_not_lt (by simp) (by simp [later]) (by simp) less
            ((List.pairwise_cons.mp h).1 a later)
      have step : inserted lt (last :: back) next = next :: last :: back := by
        rw [inserted, List.filter_eq_nil_iff.mpr fun a inside => by simp [below a inside],
          List.filter_eq_self.mpr below, List.nil_append]
      have ordered := h.inserted comparable.head
      have others := comparable.step
      rw [step] at ordered others
      have later := ih ordered others
      simpa [step] using later

theorem firstRun_eq {items : List α} (comparable : Comparable lt items) :
    ∃ taken, items = taken ++ (firstRun lt items).2 ∧
      (firstRun lt items).1 = taken.foldl (inserted lt) [] := by
  cases items with
  | nil => exact ⟨[], rfl, rfl⟩
  | cons a items =>
    cases items with
    | nil => exact ⟨[a], rfl, rfl⟩
    | cons b rest =>
      have single : Ascending lt [a] := List.pairwise_singleton _ a
      have whole : Comparable lt ([a] ++ b :: rest) := comparable
      have pair := single.inserted whole.head
      cases less : lt b a with
      | true =>
        have two : inserted lt [a] b = [b, a] := by simp [inserted, less]
        rw [two] at pair
        refine ⟨a :: b :: (spanDescending lt b rest).1, ?_, ?_⟩
        · simp [firstRun, less, spanDescending_append]
        · have others := whole.step
          rw [two] at others
          have run := spanDescending_eq pair others
          simp only [firstRun, less, ↓reduceIte, List.foldl_cons]
          rw [show inserted lt [] a = [a] from rfl, two, run]
          simp
      | false =>
        have two : inserted lt [a] b = [a, b] := by simp [inserted, less]
        rw [two] at pair
        have ordered : Ascending lt ([a] ++ [b]) := pair
        refine ⟨a :: b :: (spanAscending lt b rest).1, ?_, ?_⟩
        · simp [firstRun, less, spanAscending_append]
        · have run := spanAscending_eq ordered whole
          simp only [firstRun, less, Bool.false_eq_true, ↓reduceIte, List.foldl_cons]
          rw [show inserted lt [] a = [a] from rfl, two]
          exact run.symm

theorem ascending_eq {items : List α} (comparable : Comparable lt items) :
    ascending lt items = items.foldl (inserted lt) [] := by
  obtain ⟨taken, whole, run⟩ := firstRun_eq comparable
  have ordered : Ascending lt (firstRun lt items).1 := by
    rw [run]
    refine Ascending.foldl_inserted .nil (comparable.mono ?_)
    rw [List.nil_append, whole]
    exact List.subset_append_left taken _
  have others : Comparable lt ((firstRun lt items).1 ++ (firstRun lt items).2) :=
    comparable.mono (firstRun_perm items).subset
  have placed := foldl_place ordered others
  rw [run, ← List.foldl_append, ← whole] at placed
  simp only [ascending]
  rw [run, placed]

theorem filter_foldl_inserted {items rest : List α} {level : α → Bool} (h : Ascending lt items)
    (comparable : Comparable lt (items ++ rest))
    (same : ∀ a ∈ items ++ rest, ∀ b ∈ items ++ rest, level a = true → level b = true →
      lt a b = false) :
    (rest.foldl (inserted lt) items).filter level = (items ++ rest).filter level := by
  induction rest generalizing items with
  | nil => simp
  | cons item rest ih =>
    have subset : inserted lt items item ++ rest ⊆ items ++ item :: rest :=
      inserted_subset items item rest
    have later := ih (h.inserted comparable.head) comparable.step
      fun a ha b hb => same a (subset ha) b (subset hb)
    have step : (inserted lt items item).filter level = (items ++ [item]).filter level := by
      cases counts : level item with
      | false =>
        have parts := congrArg (List.filter level) (h.filter_append_filter comparable.head)
        simp only [inserted, List.filter_append, List.filter_cons, counts] at parts ⊢
        simpa using parts
      | true =>
        have none : ∀ a ∈ items, level a = true → lt item a = false := fun a inside also =>
          same item (by simp) a (by simp [inside]) counts also
        have greater : (items.filter (lt item ·)).filter level = [] :=
          List.filter_eq_nil_iff.mpr fun a inside also => by
            obtain ⟨old, less⟩ := List.mem_filter.mp inside
            exact Bool.false_ne_true ((none a old also).symm.trans less)
        have rest : (items.filter (!lt item ·)).filter level = items.filter level := by
          rw [List.filter_filter]
          refine List.filter_congr fun a inside => ?_
          cases also : level a with
          | false => rfl
          | true => simp [none a inside also]
        simp [inserted, List.filter_append, counts, greater, rest]
    rw [List.foldl_cons, later, List.filter_append, step, ← List.filter_append, List.append_assoc]
    rfl

theorem foldl_inserted_sublist {items others rest more : List α} (h : Ascending lt items)
    (comparable : Comparable lt (items ++ rest)) (fewer : others.Sublist items)
    (left : more.Sublist rest) :
    (more.foldl (inserted lt) others).Sublist (rest.foldl (inserted lt) items) := by
  induction left generalizing items others with
  | slnil => exact fewer
  | @cons more rest item left ih =>
    refine ih (h.inserted comparable.head) comparable.step ?_
    rw [← h.filter_append_filter comparable.head] at fewer
    exact fewer.trans ((List.Sublist.refl _).append (List.sublist_cons_self item _))
  | @cons_cons more rest item left ih =>
    refine ih (h.inserted comparable.head) comparable.step ?_
    exact (fewer.filter _).append ((fewer.filter _).cons_cons item)

theorem Comparable.reverse {items : List α} (h : Comparable lt items) :
    Comparable lt items.reverse :=
  h.mono fun _ inside => List.mem_reverse.mp inside

theorem ranked_pairwise {items : List α} (h : Comparable lt items) :
    (ranked lt items).Pairwise fun a b => lt a b = false := by
  rw [ranked, List.pairwise_reverse, ascending_eq h.reverse]
  exact Ascending.foldl_inserted .nil h.reverse

theorem filter_ranked {items : List α} {level : α → Bool} (h : Comparable lt items)
    (same : ∀ a ∈ items, ∀ b ∈ items, level a = true → level b = true → lt a b = false) :
    (ranked lt items).filter level = items.filter level := by
  have kept : (items.reverse.foldl (inserted lt) []).filter level = items.reverse.filter level :=
    filter_foldl_inserted .nil h.reverse fun a ha b hb =>
      same a (List.mem_reverse.mp ha) b (List.mem_reverse.mp hb)
  rw [ranked, List.filter_reverse, ascending_eq h.reverse, kept,
    List.filter_reverse, List.reverse_reverse]

theorem ranked_sublist {items others : List α} (h : Comparable lt items)
    (fewer : others.Sublist items) : (ranked lt others).Sublist (ranked lt items) := by
  rw [ranked, ranked, ascending_eq h.reverse, ascending_eq (h.mono fewer.subset).reverse]
  exact (foldl_inserted_sublist .nil h.reverse .slnil fewer.reverse).reverse

end Localization.Negotiation
