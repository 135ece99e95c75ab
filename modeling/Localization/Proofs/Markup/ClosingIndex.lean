import Localization.Markup.Scan

/-! # The index of closing tags

The index holds for each name the places of its closing tags in ascending order. Bisection
therefore finds the nearest one after a place, and that is the one at which a search through
the text stops.
-/
namespace Localization.Markup

/-- The first `k` members of an array are the ones that are at most `x`. -/
structure PartsAt (places : Array Nat) (x k : Nat) : Prop where
  below (i v : Nat) : i < k → places[i]? = some v → v ≤ x
  above (i v : Nat) : k ≤ i → places[i]? = some v → x < v

theorem getElem?_lt {places : Array Nat} (ascending : places.toList.Pairwise (· < ·))
    {i j v w : Nat} (lt : i < j) (first : places[i]? = some v) (second : places[j]? = some w) :
    v < w := by
  rw [← Array.getElem?_toList] at first second
  obtain ⟨hi, rfl⟩ := List.getElem?_eq_some_iff.mp first
  obtain ⟨hj, rfl⟩ := List.getElem?_eq_some_iff.mp second
  exact List.pairwise_iff_getElem.mp ascending i j hi hj lt

/-- The search narrows down to the border between the members up to `x` and those after it. -/
theorem bisect_partsAt {places : Array Nat} (ascending : places.toList.Pairwise (· < ·)) {x : Nat}
    {fuel low high : Nat} (ordered : low ≤ high) (bound : high ≤ places.size)
    (enough : high - low ≤ fuel)
    (below : ∀ i v, i < low → places[i]? = some v → v ≤ x)
    (above : ∀ i v, high ≤ i → places[i]? = some v → x < v) :
    PartsAt places x (bisect places x fuel low high) := by
  induction fuel generalizing low high with
  | zero =>
    have same : low = high := by omega
    subst same
    exact ⟨below, above⟩
  | succ fuel ih =>
    rw [bisect]
    split
    · next less =>
      have inside : (low + high) / 2 < places.size := by omega
      have found : places[(low + high) / 2]? = some places[(low + high) / 2] :=
        Array.getElem?_eq_getElem inside
      dsimp only
      rw [Array.getD_eq_getD_getElem?, found, Option.getD_some]
      generalize places[(low + high) / 2] = middle at found
      split
      · next after =>
        refine ih (by omega) (by omega) (by omega) below ?_
        intro i v le there
        rcases Nat.eq_or_lt_of_le le with rfl | lt
        · rw [found] at there
          cases there
          exact after
        · have := getElem?_lt ascending lt found there
          omega
      · next before =>
        refine ih (by omega) bound (by omega) ?_ above
        intro i v lt there
        rcases Nat.eq_or_lt_of_le (Nat.le_of_lt_succ lt) with rfl | lt
        · rw [found] at there
          cases there
          omega
        · have := getElem?_lt ascending lt there found
          omega
    · next done =>
      have same : low = high := by omega
      subst same
      exact ⟨below, above⟩

/-- When the members up to `x` come before those after it, the first of the latter is found. -/
theorem firstAfter?_eq {places : Array Nat} (ascending : places.toList.Pairwise (· < ·)) {x : Nat}
    {before after : List Nat} (parts : places.toList = before ++ after)
    (below : ∀ v ∈ before, v ≤ x) (above : ∀ v ∈ after, x < v) :
    firstAfter? places x = after.head? := by
  have border : PartsAt places x (countUpTo places x) := by
    refine bisect_partsAt ascending (Nat.zero_le _) (Nat.le_refl _) (by omega) ?_ ?_
    · intro i v lt
      omega
    · intro i v le there
      have inside := (Array.getElem?_eq_some_iff.mp there).1
      omega
  have view (i : Nat) : places[i]? = (before ++ after)[i]? := by
    rw [← Array.getElem?_toList, parts]
  rw [firstAfter?, view]
  generalize countUpTo places x = k at border
  rcases Nat.lt_trichotomy k before.length with lt | rfl | lt
  · have there : places[k]? = some before[k] := by
      rw [view, List.getElem?_append_left lt, List.getElem?_eq_getElem lt]
    have := border.above k _ (Nat.le_refl k) there
    have := below _ (List.getElem_mem lt)
    omega
  · rw [List.getElem?_append_right (Nat.le_refl _), Nat.sub_self, List.head?_eq_getElem?]
  · cases after with
    | nil =>
      rw [List.append_nil, List.head?_nil, List.getElem?_eq_none (Nat.le_of_lt lt)]
    | cons v rest =>
      have there : places[before.length]? = some v := by
        rw [view, List.getElem?_append_right (Nat.le_refl _), Nat.sub_self]
        rfl
      have := border.below before.length v lt there
      have := above v List.mem_cons_self
      omega

def closingPlaces (name : List Char) (place : Nat) : List Char → List Nat
  | [] => []
  | c :: rest =>
    if closes name (c :: rest) then place :: closingPlaces name (place + 1) rest
    else closingPlaces name (place + 1) rest

theorem le_of_mem_closingPlaces {name cs : List Char} {place v : Nat}
    (h : v ∈ closingPlaces name place cs) : place ≤ v := by
  induction cs generalizing place with
  | nil => cases h
  | cons c rest ih =>
    rw [closingPlaces] at h
    split at h
    · rcases List.mem_cons.mp h with rfl | later
      · exact Nat.le_refl _
      · have := ih later
        omega
    · have := ih h
      omega

theorem closingPlaces_ascending (name : List Char) (place : Nat) (cs : List Char) :
    (closingPlaces name place cs).Pairwise (· < ·) := by
  induction cs generalizing place with
  | nil => exact .nil
  | cons c rest ih =>
    rw [closingPlaces]
    split
    · refine List.pairwise_cons.mpr ⟨?_, ih (place + 1)⟩
      intro v later
      exact le_of_mem_closingPlaces later
    · exact ih (place + 1)

theorem closingPlaces_split (name : List Char) (place : Nat) (cs : List Char) (k : Nat) :
    ∃ before, closingPlaces name place cs = before ++ closingPlaces name (place + k) (cs.drop k) ∧
      ∀ v ∈ before, v < place + k := by
  induction k generalizing place cs with
  | zero => exact ⟨[], rfl, fun v inside => by cases inside⟩
  | succ k ih =>
    cases cs with
    | nil => exact ⟨[], rfl, fun v inside => by cases inside⟩
    | cons c rest =>
      obtain ⟨before, same, bound⟩ := ih (place + 1) rest
      rw [closingPlaces, List.drop_succ_cons, same, Nat.add_right_comm place 1 k]
      split
      · refine ⟨place :: before, rfl, ?_⟩
        intro v inside
        rcases List.mem_cons.mp inside with rfl | inside
        · omega
        · have := bound v inside
          omega
      · refine ⟨before, rfl, ?_⟩
        intro v inside
        have := bound v inside
        omega

theorem places_cons (key : List Char) (places : Array Nat) (rest : ClosingIndex)
    (name : List Char) :
    ClosingIndex.places ((key, places) :: rest) name =
      if name = key then places else ClosingIndex.places rest name := by
  rw [ClosingIndex.places, List.lookup_cons]
  by_cases same : name = key
  · rw [if_pos same, same, beq_self_eq_true]
    rfl
  · have test : (name == key) = false := by simpa using same
    rw [if_neg same, test]
    rfl

theorem places_addClosing (index : ClosingIndex) (name other : List Char) (place : Nat) :
    ((addClosing index name place).places other).toList =
      (index.places other).toList ++ if other = name then [place] else [] := by
  induction index with
  | nil =>
    rw [addClosing, places_cons]
    split <;> rfl
  | cons entry rest ih =>
    obtain ⟨key, places⟩ := entry
    rw [addClosing]
    by_cases same : key = name
    · rw [if_pos (by simpa using same), places_cons, places_cons, same]
      split <;> simp
    · rw [if_neg (by simpa using same), places_cons, places_cons]
      split
      · next here =>
        have differ : ¬ other = name := here ▸ same
        rw [if_neg differ, List.append_nil]
      · exact ih

theorem places_foldl (name : List Char) (place : Nat) (cs : List Char) (index : ClosingIndex) :
    (((closingTags place cs).foldl (fun index (tag, place) => addClosing index tag place)
      index).places name).toList =
      (index.places name).toList ++ closingPlaces name place cs := by
  induction cs generalizing place index with
  | nil => exact (List.append_nil _).symm
  | cons c rest ih =>
    rw [closingTags, closingPlaces, closes]
    cases closing? (c :: rest) with
    | none => exact ih (place + 1) index
    | some tag =>
      dsimp only
      rw [List.foldl_cons, ih, places_addClosing, List.append_assoc]
      by_cases same : name = lowerName tag
      · rw [if_pos same, if_pos (by simpa using same.symm), List.singleton_append]
      · rw [if_neg same, if_neg (by simpa using Ne.symm same), List.nil_append]

theorem places_closingIndex (cs name : List Char) :
    ((closingIndex cs).places name).toList = closingPlaces name 0 cs := by
  rw [closingIndex]
  exact places_foldl name 0 cs []

theorem firstAfter?_closingIndex (cs name : List Char) (x : Nat) :
    firstAfter? ((closingIndex cs).places name) x =
      (closingPlaces name (x + 1) (cs.drop (x + 1))).head? := by
  obtain ⟨before, parts, bound⟩ := closingPlaces_split name 0 cs (x + 1)
  have places := places_closingIndex cs name
  rw [Nat.zero_add] at parts bound
  refine firstAfter?_eq ?_ (places.trans parts) ?_ ?_
  · rw [places]
    exact closingPlaces_ascending name 0 cs
  · intro v inside
    exact Nat.le_of_lt_succ (bound v inside)
  · intro v inside
    exact le_of_mem_closingPlaces inside

theorem cutAtClosing?_eq (name : List Char) (place : Nat) (cs : List Char) :
    cutAtClosing? name cs = (closingPlaces name place cs).head?.map fun close =>
      (cs.take (close - place), cs.drop (close - place + name.length + 3)) := by
  induction cs generalizing place with
  | nil => rfl
  | cons c rest ih =>
    rw [cutAtClosing?, closingPlaces]
    split
    · simp
    · rw [ih (place + 1), Option.map_map]
      cases found : (closingPlaces name (place + 1) rest).head? with
      | none => rfl
      | some close =>
        have le := le_of_mem_closingPlaces (List.mem_of_head? found)
        have shift : close - place = close - (place + 1) + 1 := by omega
        have after : close - (place + 1) + 1 + name.length + 2 =
            close - (place + 1) + name.length + 3 := by omega
        simp only [Option.map_some, Function.comp, shift, List.take_succ_cons, List.drop_succ_cons,
          after]

end Localization.Markup
