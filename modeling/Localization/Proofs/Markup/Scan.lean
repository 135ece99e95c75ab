import Localization.Proofs.Markup.ClosingIndex

/-! # The segmentation in one pass

The reader comes to the segments of the definition. It keeps the place of the last `>` that
it found; this place has been passed, or it is still that of the next `>`, since the names of
tags hold none. When there is no `>` any more, no slot can follow.
-/
namespace Localization.Markup

open Text

theorem cutAt?_eq (sep : Char) (cs : List Char) :
    cutAt? sep cs = (cs.findIdx? (· == sep)).map fun k => (cs.take k, cs.drop (k + 1)) := by
  induction cs with
  | nil => rfl
  | cons c rest ih =>
    rw [cutAt?, List.findIdx?_cons]
    by_cases same : c = sep
    · simp [same]
    · have differ : (c == sep) = false := by simpa using same
      rw [if_neg same, ih, differ, Option.map_map]
      simp only [Bool.false_eq_true, ↓reduceIte, Option.map_map]
      rfl

theorem nextEnd?_cons (place : Nat) {c : Char} (rest : List Char) (h : c ≠ '>') :
    nextEnd? place (c :: rest) = nextEnd? (place + 1) rest := by
  have differ : (c == '>') = false := by simpa using h
  rw [nextEnd?, nextEnd?, List.findIdx?_cons, differ]
  simp only [Bool.false_eq_true, ↓reduceIte, Option.map_map]
  congr 1
  funext k
  rw [Function.comp]
  omega

theorem nextEnd?_cons_self (place : Nat) (rest : List Char) :
    nextEnd? place ('>' :: rest) = some place := rfl

theorem nextEnd?_takeWhile (place : Nat) (cs : List Char) :
    nextEnd? place cs = nextEnd? (place + (cs.takeWhile isTagNameChar).length)
      (cs.drop (cs.takeWhile isTagNameChar).length) := by
  induction cs generalizing place with
  | nil => rfl
  | cons c rest ih =>
    rw [List.takeWhile_cons]
    split
    · next inName =>
      have differ : c ≠ '>' := by
        rintro rfl
        exact absurd inName (by decide)
      rw [nextEnd?_cons place rest differ, ih, List.length_cons, List.drop_succ_cons]
      congr 1
      omega
    · rfl

theorem nextEnd?_eq_none {place : Nat} {cs : List Char} :
    nextEnd? place cs = none ↔ '>' ∉ cs := by
  rw [nextEnd?, Option.map_eq_none_iff, List.findIdx?_eq_none_iff]
  constructor
  · intro none inside
    have := none '>' inside
    simp at this
  · intro absent c inside
    have differ : c ≠ '>' := fun same => absent (same ▸ inside)
    simpa using differ

theorem le_of_nextEnd? {place tagEnd : Nat} {cs : List Char} (h : nextEnd? place cs = some tagEnd) :
    place ≤ tagEnd := by
  obtain ⟨k, -, rfl⟩ := Option.map_eq_some_iff.mp h
  exact Nat.le_add_right place k

theorem cutAt?_of_nextEnd? {place tagEnd : Nat} {cs : List Char}
    (h : nextEnd? place cs = some tagEnd) :
    cutAt? '>' cs = some (cs.take (tagEnd - place), cs.drop (tagEnd + 1 - place)) := by
  obtain ⟨k, found, rfl⟩ := Option.map_eq_some_iff.mp h
  have before : place + k - place = k := by omega
  have after : place + k + 1 - place = k + 1 := by omega
  rw [cutAt?_eq, found, before, after]
  rfl

theorem tagName?_eq {cs name : List Char} (h : tagName? cs = some name) :
    name = cs.takeWhile isTagNameChar := by
  cases cs with
  | nil => cases h
  | cons c rest =>
    rw [tagName?] at h
    split at h
    · cases h
      rfl
    · cases h

theorem openingName?_eq {cs name : List Char} (h : openingName? cs = some name) :
    name = cs.takeWhile isTagNameChar := by
  rw [openingName?] at h
  obtain ⟨other, found, ends⟩ := Option.bind_eq_some_iff.mp h
  split at ends
  · cases ends
    exact tagName?_eq found
  · cases ends

theorem opening?_eq (cs : List Char) :
    opening? cs = (openingName? cs).bind fun name =>
      (cutAt? '>' (cs.drop name.length)).map fun (attributes, after) =>
        (name, attributes, after) := by
  rw [opening?, openingName?]
  cases tagName? cs with
  | none => rfl
  | some name =>
    simp only [Option.bind_eq_bind, Option.bind_some]
    split <;> rfl

theorem slotText?_of_openingName?_none {cs : List Char} (h : openingName? cs = none) :
    slotText? cs = none := by
  rw [slotText?, opening?_eq, h]
  rfl

theorem slotText?_of_not_mem {cs : List Char} (h : '>' ∉ cs) : slotText? cs = none := by
  rw [slotText?, opening?_eq]
  cases openingName? cs with
  | none => rfl
  | some name =>
    have absent : '>' ∉ cs.drop name.length := fun inside => h (List.mem_of_mem_drop inside)
    have none : nextEnd? 0 (cs.drop name.length) = none := nextEnd?_eq_none.mpr absent
    rw [Option.bind_some, cutAt?_eq, Option.map_eq_none_iff.mp none]
    rfl

theorem segmentsFrom_of_not_mem {cs : List Char} (h : '>' ∉ cs) (pending : List Char)
    {steps : Nat} (le : cs.length ≤ steps) :
    segmentsFrom steps pending cs = pure (finishText pending cs) := by
  induction cs generalizing pending steps with
  | nil => cases steps <;> rfl
  | cons c rest ih =>
    have absent : '>' ∉ rest := fun inside => h (List.mem_cons_of_mem c inside)
    cases steps with
    | zero => cases le
    | succ steps =>
      have none : (if c = '<' then slotText? rest else none) = none := by
        rw [slotText?_of_not_mem absent, ite_self]
      rw [segmentsFrom, none]
      dsimp only
      rw [ih absent (c :: pending) (Nat.le_of_succ_le_succ le), finishText, finishText,
        List.reverse_cons, List.append_assoc, List.singleton_append]

/-- The reader stands at its place in the text, and the place of a `>` that it keeps has been
passed or is that of the next one. -/
structure Position.At (cs : List Char) (p : Position) : Prop where
  rest : p.rest = cs.drop p.place
  memo : p.tagEnd ≤ p.place ∨ nextEnd? p.place p.rest = some p.tagEnd

/-- The place that is kept serves for a tag that begins at the position. -/
theorem currentEnd?_eq {found place : Nat} {rest name : List Char}
    (memo : found ≤ place ∨ nextEnd? place ('<' :: rest) = some found)
    (opening : openingName? rest = some name) :
    currentEnd? found (place + 1 + name.length) (rest.drop name.length) =
      nextEnd? (place + 1) rest := by
  have skip : nextEnd? (place + 1) rest =
      nextEnd? (place + 1 + name.length) (rest.drop name.length) := by
    rw [openingName?_eq opening]
    exact nextEnd?_takeWhile (place + 1) rest
  rw [currentEnd?, skip]
  split
  · rfl
  · next kept =>
    rcases memo with passed | next
    · omega
    · rw [nextEnd?_cons place rest (by decide), skip] at next
      exact next.symm

theorem Position.At.skip {cs : List Char} {place tagEnd : Nat} {c : Char}
    {rest pending : List Char} (placed : At cs ⟨place, c :: rest, pending, tagEnd⟩)
    (before : List Char) : At cs ⟨place + 1, rest, before, tagEnd⟩ := by
  obtain ⟨here, memo⟩ := placed
  refine ⟨?_, ?_⟩
  · dsimp only at here ⊢
    rw [← List.drop_drop, ← here]
    rfl
  · rcases memo with passed | next
    · exact .inl (Nat.le_succ_of_le passed)
    · by_cases same : c = '>'
      · rw [same, nextEnd?_cons_self] at next
        cases next
        exact .inl (Nat.le_succ place)
      · rw [nextEnd?_cons place rest same] at next
        exact .inr next

theorem drop_opening {cs rest name : List Char} {place tagEnd : Nat} (here : rest = cs.drop place)
    (opening : openingName? rest = some name) (next : nextEnd? place rest = some tagEnd) :
    nextEnd? (place + name.length) (rest.drop name.length) = some tagEnd ∧
      (rest.drop name.length).drop (tagEnd + 1 - (place + name.length)) = cs.drop (tagEnd + 1) := by
  have shifted : nextEnd? (place + name.length) (rest.drop name.length) = some tagEnd := by
    rw [← next, openingName?_eq opening]
    exact (nextEnd?_takeWhile place rest).symm
  have le := le_of_nextEnd? shifted
  refine ⟨shifted, ?_⟩
  rw [here, List.drop_drop, List.drop_drop]
  congr 1
  omega

theorem slotText?_eq {cs rest name : List Char} {place tagEnd : Nat} (here : rest = cs.drop place)
    (opening : openingName? rest = some name) (next : nextEnd? place rest = some tagEnd) :
    slotText? rest =
      (firstAfter? ((closingIndex cs).places (lowerName name)) tagEnd).map fun close =>
        ⟨lowerName name,
          (rest.drop name.length).take (tagEnd - (place + name.length)),
          (cs.drop (tagEnd + 1)).take (close - (tagEnd + 1)),
          cs.drop (close + name.length + 3)⟩ := by
  obtain ⟨shifted, body⟩ := drop_opening here opening next
  rw [slotText?, opening?_eq, opening, Option.bind_some, cutAt?_of_nextEnd? shifted, body]
  simp only [Option.map_some, Option.bind_eq_bind, Option.bind_some]
  rw [cutAtClosing?_eq (lowerName name) (tagEnd + 1), firstAfter?_closingIndex]
  cases found : (closingPlaces (lowerName name) (tagEnd + 1) (cs.drop (tagEnd + 1))).head? with
  | none => rfl
  | some close =>
    have after := le_of_mem_closingPlaces (List.mem_of_head? found)
    have size : (lowerName name).length = name.length := List.length_map _
    simp only [Option.map_some, Option.bind_some, List.drop_drop, size]
    congr 3
    omega

theorem lt_of_firstAfter? {cs name : List Char} {x close : Nat}
    (h : firstAfter? ((closingIndex cs).places name) x = some close) : x < close := by
  rw [firstAfter?_closingIndex] at h
  exact le_of_mem_closingPlaces (List.mem_of_head? h)

theorem slot_of_no_candidate {c : Char} {rest : List Char}
    (h : (if c = '<' then openingName? rest else none) = none) :
    (if c = '<' then slotText? rest else none) = none := by
  split
  · next bracket =>
    rw [if_pos bracket] at h
    exact slotText?_of_openingName?_none h
  · rfl

theorem candidate_eq_some {c : Char} {rest name : List Char}
    (h : (if c = '<' then openingName? rest else none) = some name) :
    c = '<' ∧ openingName? rest = some name := by
  split at h
  · next bracket => exact ⟨bracket, h⟩
  · cases h

theorem Position.At.behind (cs : List Char) {name : List Char} {tagEnd close : Nat}
    (h : firstAfter? ((closingIndex cs).places (lowerName name)) tagEnd = some close) :
    At cs ⟨close + name.length + 3, cs.drop (close + name.length + 3), [], tagEnd⟩ := by
  have after := lt_of_firstAfter? h
  refine ⟨rfl, .inl ?_⟩
  dsimp only
  omega

theorem scanFrom_eq (cs : List Char) {fuel : Nat} {p : Position} (placed : p.At cs)
    (enough : p.rest.length < fuel) {steps : Nat} (le : p.rest.length ≤ steps) :
    scanFrom (closingIndex cs) fuel p = segmentsFrom steps p.pending p.rest := by
  induction fuel generalizing p steps with
  | zero => omega
  | succ fuel ih =>
    obtain ⟨place, text, pending, found⟩ := p
    cases text with
    | nil => cases steps <;> rfl
    | cons c rest =>
      have skipped := placed.skip (c :: pending)
      have here : rest = cs.drop (place + 1) := skipped.rest
      have size : (c :: rest).length = rest.length + 1 := rfl
      dsimp only at enough le ⊢
      obtain ⟨steps, rfl⟩ : ∃ n, steps = n + 1 := ⟨steps - 1, by omega⟩
      rw [scanFrom]
      dsimp only
      cases candidate : (if c = '<' then openingName? rest else none) with
      | none =>
        rw [segmentsFrom, slot_of_no_candidate candidate]
        exact ih skipped (by dsimp only; omega) (by dsimp only; omega)
      | some name =>
        obtain ⟨rfl, opening⟩ := candidate_eq_some candidate
        dsimp only
        rw [currentEnd?_eq placed.memo opening]
        cases next : nextEnd? (place + 1) rest with
        | none =>
          -- Without a `>` no slot can follow, and all that is left is plain text.
          have absent : '>' ∉ '<' :: rest := by
            refine nextEnd?_eq_none.mp (?_ : nextEnd? place ('<' :: rest) = none)
            rw [nextEnd?_cons place rest (by decide)]
            exact next
          exact (segmentsFrom_of_not_mem absent pending le).symm
        | some tagEnd =>
          have before := le_of_nextEnd? next
          rw [segmentsFrom, if_pos rfl, slotText?_eq here opening next]
          dsimp only
          cases closing : firstAfter? ((closingIndex cs).places (lowerName name)) tagEnd with
          | none =>
            have moved : Position.At cs ⟨place + 1, rest, '<' :: pending, tagEnd⟩ :=
              ⟨here, .inr next⟩
            exact ih moved (by dsimp only; omega) (by dsimp only; omega)
          | some close =>
            have after := lt_of_firstAfter? closing
            have body := (drop_opening here opening next).2
            have rejoined : (cs.drop (tagEnd + 1)).drop (close + name.length + 3 - (tagEnd + 1)) =
                cs.drop (close + name.length + 3) := by
              rw [List.drop_drop]
              congr 1
              omega
            have shorter : (cs.drop (close + name.length + 3)).length ≤ rest.length := by
              rw [here, List.length_drop, List.length_drop]
              omega
            have others := ih (.behind cs closing) (by dsimp only; omega)
              (by dsimp only; omega : _ ≤ steps)
            simp only [body, rejoined, Option.map_some]
            rw [others]

/-- One pass comes to the segments of the definition, with the same reports. -/
theorem scanSegments_eq (cs : List Char) {steps : Nat} (le : cs.length ≤ steps) :
    scanSegments cs = segmentsFrom steps [] cs :=
  scanFrom_eq cs (p := ⟨0, cs, [], 0⟩) ⟨rfl, .inl (Nat.le_refl 0)⟩ (Nat.lt_succ_self _) le

end Localization.Markup
