import Localization.Markup.Segment
import Localization.Proofs.Text.Casing
import Localization.Proofs.Text.Span

/-! # Tags as they are written

An opening tag is read from a text exactly when the text begins with a name, with attributes
that hold no `>`, and with a `>` after them. A closing tag cannot reach over a `<`, so it lies
on one side of the place where two texts are joined if the second one begins with a `<`.
-/
namespace Localization.Markup

open Text

structure IsTagName (name : List Char) : Prop where
  start : ∃ c rest, name = c :: rest ∧ c.isAlpha = true
  chars : ∀ c ∈ name, isTagNameChar c = true

theorem toNat_lt_of_isTagNameChar {c : Char} (h : isTagNameChar c = true) : c.toNat < 128 := by
  rw [isTagNameChar, Bool.or_eq_true, beq_iff_eq] at h
  rcases h with word | rfl
  · exact toNat_lt_of_isAlphanum word
  · decide

theorem IsTagName.ascii {name : List Char} (h : IsTagName name) : ∀ c ∈ name, c.toNat < 128 :=
  fun c inside => toNat_lt_of_isTagNameChar (h.chars c inside)

theorem IsTagName.not_mem {name : List Char} (h : IsTagName name) {c : Char}
    (other : isTagNameChar c = false) : c ∉ name := by
  intro inside
  rw [h.chars c inside] at other
  cases other

theorem IsTagName.lower_lowerName {name : List Char} (h : IsTagName name) :
    lower (lowerName name) = lowerName name :=
  lower_map_toLower h.ascii

theorem length_lowerName (name : List Char) : (lowerName name).length = name.length :=
  List.length_map _

theorem isTagNameChar_of_isAlpha {c : Char} (h : c.isAlpha = true) : isTagNameChar c = true := by
  simp [isTagNameChar, Char.isAlphanum, h]

theorem isTagNameChar_toLower (c : Char) :
    isTagNameChar c.toLower = isTagNameChar c ∧ c.toLower.isAlpha = c.isAlpha := by
  by_cases ascii : c.toNat < 128
  · exact ascii_forall (P := fun c =>
      isTagNameChar c.toLower = isTagNameChar c ∧ c.toLower.isAlpha = c.isAlpha)
      (by decide +kernel) ascii
  · rw [toLower_of_not_ascii ascii]
    exact ⟨rfl, rfl⟩

theorem IsTagName.of_lowerName {name written : List Char} (h : IsTagName name)
    (same : lowerName written = lowerName name) : IsTagName written := by
  constructor
  · obtain ⟨c, rest, rfl, letter⟩ := h.start
    obtain ⟨d, others, rfl, first, -⟩ := List.map_eq_cons_iff.mp same
    refine ⟨d, others, rfl, ?_⟩
    rw [← (isTagNameChar_toLower d).2, first, (isTagNameChar_toLower c).2, letter]
  · intro c inside
    have lowered : c.toLower ∈ lowerName name := same ▸ List.mem_map_of_mem inside
    obtain ⟨d, there, equal⟩ := List.mem_map.mp lowered
    rw [← (isTagNameChar_toLower c).1, ← equal, (isTagNameChar_toLower d).1]
    exact h.chars d there

theorem tagName?_append {name rest : List Char} (h : IsTagName name)
    (ends : ∀ c ∈ rest.head?, isTagNameChar c = false) : tagName? (name ++ rest) = some name := by
  have whole : (name ++ rest).takeWhile isTagNameChar = name :=
    takeWhile_append_of_stop h.chars ends
  obtain ⟨c, others, rfl, letter⟩ := h.start
  rw [List.cons_append] at whole ⊢
  rw [tagName?, if_pos letter, whole]

theorem tagName?_eq_some {cs name : List Char} (h : tagName? cs = some name) :
    IsTagName name ∧ ∃ rest, cs = name ++ rest ∧ ∀ c ∈ rest.head?, isTagNameChar c = false := by
  cases cs with
  | nil => cases h
  | cons c rest =>
    rw [tagName?] at h
    split at h
    · next letter =>
      cases h
      have inName := List.all_eq_true.mp (List.all_takeWhile (p := isTagNameChar) (l := c :: rest))
      refine ⟨⟨⟨c, rest.takeWhile isTagNameChar, ?_, letter⟩, inName⟩, ?_⟩
      · rw [List.takeWhile_cons, if_pos (isTagNameChar_of_isAlpha letter)]
      · refine ⟨(c :: rest).dropWhile isTagNameChar, List.takeWhile_append_dropWhile.symm, ?_⟩
        intro d first
        have stopped := List.head?_dropWhile_not isTagNameChar (c :: rest)
        rw [first] at stopped
        exact stopped
    · cases h

theorem not_isTagNameChar_of_endsName {c : Char} {rest : List Char}
    (h : endsName (c :: rest) = true) : isTagNameChar c = false := by
  have mark : c = '>' ∨ c = '/' ∨ isBlank c = true := by simpa [endsName, or_assoc] using h
  rcases mark with rfl | rfl | blank
  · decide
  · decide
  · cases inName : isTagNameChar c with
    | false => rfl
    | true =>
      have apart := ascii_forall (P := fun c => isBlank c = true → isTagNameChar c = false)
        (by decide +kernel) (toNat_lt_of_isTagNameChar inName) blank
      rw [inName] at apart
      cases apart

theorem endsName_append (attributes after : List Char) :
    endsName (attributes ++ '>' :: after) = endsName (attributes ++ ['>']) := by
  cases attributes <;> rfl

theorem cutAt?_append {sep : Char} {before : List Char} (h : sep ∉ before) (after : List Char) :
    cutAt? sep (before ++ sep :: after) = some (before, after) := by
  induction before with
  | nil => simp [cutAt?]
  | cons c rest ih =>
    have differ : c ≠ sep := fun same => h (same ▸ List.mem_cons_self)
    rw [List.cons_append, cutAt?, if_neg differ, ih fun inside => h (List.mem_cons_of_mem c inside)]
    rfl

theorem cutAt?_eq_some {sep : Char} {cs before after : List Char}
    (h : cutAt? sep cs = some (before, after)) : cs = before ++ sep :: after ∧ sep ∉ before := by
  induction cs generalizing before with
  | nil => cases h
  | cons c rest ih =>
    rw [cutAt?] at h
    split at h
    · next same =>
      cases h
      exact ⟨by rw [same]; rfl, List.not_mem_nil⟩
    · next differ =>
      obtain ⟨⟨first, others⟩, found, same⟩ := Option.map_eq_some_iff.mp h
      cases same
      obtain ⟨rfl, absent⟩ := ih found
      refine ⟨rfl, ?_⟩
      rintro (_ | ⟨_, inside⟩)
      · exact differ rfl
      · exact absent inside

theorem opening?_append {name attributes : List Char} (isName : IsTagName name)
    (ends : endsName (attributes ++ ['>']) = true) (noEnd : '>' ∉ attributes) (after : List Char) :
    opening? (name ++ (attributes ++ '>' :: after)) = some (name, attributes, after) := by
  have next : ∀ c ∈ (attributes ++ '>' :: after).head?, isTagNameChar c = false := by
    intro c first
    cases attributes with
    | nil =>
      cases first
      decide
    | cons d rest =>
      cases first
      exact not_isTagNameChar_of_endsName ends
  rw [opening?, tagName?_append isName next]
  simp only [Option.bind_eq_bind, Option.bind_some, List.drop_left]
  rw [endsName_append, if_pos ends, cutAt?_append noEnd]
  rfl

theorem opening?_eq_some {cs name attributes after : List Char}
    (h : opening? cs = some (name, attributes, after)) :
    IsTagName name ∧ endsName (attributes ++ ['>']) = true ∧ '>' ∉ attributes ∧
      cs = name ++ (attributes ++ '>' :: after) := by
  rw [opening?] at h
  obtain ⟨other, found, h⟩ := Option.bind_eq_some_iff.mp h
  obtain ⟨isName, rest, rfl, -⟩ := tagName?_eq_some found
  rw [List.drop_left] at h
  dsimp only at h
  split at h
  · next ends =>
    obtain ⟨⟨before, behind⟩, cut, same⟩ := Option.map_eq_some_iff.mp h
    cases same
    obtain ⟨rfl, absent⟩ := cutAt?_eq_some cut
    exact ⟨isName, endsName_append _ _ ▸ ends, absent, rfl⟩
  · cases h

theorem closing?_eq_some_iff {cs name : List Char} :
    closing? cs = some name ↔ IsTagName name ∧ ∃ rest, cs = '<' :: '/' :: (name ++ '>' :: rest) := by
  constructor
  · intro h
    rw [closing?.eq_def] at h
    split at h
    · next rest =>
      obtain ⟨other, found, h⟩ := Option.bind_eq_some_iff.mp h
      obtain ⟨isName, rest, rfl, -⟩ := tagName?_eq_some found
      rw [List.drop_left] at h
      split at h
      · next last =>
        cases h
        obtain ⟨more, rfl⟩ := List.head?_eq_some_iff.mp (beq_iff_eq.mp last)
        exact ⟨isName, more, rfl⟩
      · cases h
    · cases h
  · rintro ⟨isName, rest, rfl⟩
    have next : ∀ c ∈ ('>' :: rest).head?, isTagNameChar c = false := by
      intro c first
      cases first
      decide
    rw [closing?, tagName?_append isName next]
    simp

theorem closes_iff {name cs : List Char} :
    closes name cs = true ↔ ∃ written rest, IsTagName written ∧ lowerName written = name ∧
      cs = '<' :: '/' :: (written ++ '>' :: rest) := by
  constructor
  · intro h
    rw [closes] at h
    split at h
    · next written found =>
      obtain ⟨isName, rest, rfl⟩ := closing?_eq_some_iff.mp found
      exact ⟨written, rest, isName, beq_iff_eq.mp h, rfl⟩
    · cases h
  · rintro ⟨written, rest, isName, rfl, rfl⟩
    rw [closes, closing?_eq_some_iff.mpr ⟨isName, rest, rfl⟩]
    exact beq_self_eq_true _

theorem closes_append (name : List Char) (c : Char) (cs rest : List Char) :
    closes name (c :: (cs ++ '<' :: rest)) = closes name (c :: cs) := by
  rw [Bool.eq_iff_iff, closes_iff, closes_iff]
  constructor
  · rintro ⟨written, after, isName, lowered, same⟩
    obtain ⟨rfl, same⟩ := List.cons.inj same
    have tag : cs ++ '<' :: rest = ('/' :: (written ++ ['>'])) ++ after := by simpa using same
    rcases List.append_eq_append_iff.mp tag with ⟨excess, whole, last⟩ | ⟨more, rfl, -⟩
    · -- What the tag would hold beyond the first text begins with a `<`, unless it is empty.
      cases excess with
      | nil =>
        rw [List.append_nil] at whole
        exact ⟨written, [], isName, lowered, by rw [← whole]⟩
      | cons d excess =>
        obtain ⟨rfl, -⟩ := List.cons.inj last
        have inside : '<' ∈ '/' :: (written ++ ['>']) := by simp [whole]
        have absent := isName.not_mem (c := '<') (by decide)
        simp [absent] at inside
    · exact ⟨written, more, isName, lowered, by simp⟩
  · rintro ⟨written, after, isName, lowered, same⟩
    obtain ⟨rfl, rfl⟩ := List.cons.inj same
    exact ⟨written, after ++ '<' :: rest, isName, lowered, by simp⟩

/-- A search through two texts of which the second begins with a `<` goes through the first
one by itself. -/
theorem cutAtClosing?_append (name cs rest : List Char) :
    cutAtClosing? name (cs ++ '<' :: rest) =
      match cutAtClosing? name cs with
      | some (content, after) => some (content, after ++ '<' :: rest)
      | none => (cutAtClosing? name ('<' :: rest)).map fun (content, after) =>
          (cs ++ content, after) := by
  induction cs with
  | nil =>
    show cutAtClosing? name ('<' :: rest) = (cutAtClosing? name ('<' :: rest)).map _
    cases cutAtClosing? name ('<' :: rest) <;> rfl
  | cons c cs ih =>
    rw [List.cons_append, cutAtClosing?, closes_append, cutAtClosing?.eq_def name (c :: cs)]
    dsimp only
    split
    · next here =>
      obtain ⟨written, after, -, rfl, same⟩ := closes_iff.mp here
      obtain ⟨-, rfl⟩ := List.cons.inj same
      simp [length_lowerName]
    · rw [ih]
      cases cutAtClosing? name cs with
      | some found => rfl
      | none => cases cutAtClosing? name ('<' :: rest) <;> rfl

theorem cutAtClosing?_closing {written : List Char} (isName : IsTagName written)
    (after : List Char) :
    cutAtClosing? (lowerName written) ('<' :: '/' :: (written ++ '>' :: after)) =
      some ([], after) := by
  have here : closes (lowerName written) ('<' :: '/' :: (written ++ '>' :: after)) = true :=
    closes_iff.mpr ⟨written, after, isName, rfl, rfl⟩
  rw [cutAtClosing?, if_pos here]
  simp [length_lowerName]

theorem cutAtClosing?_eq_some {name cs content after : List Char}
    (h : cutAtClosing? name cs = some (content, after)) :
    cutAtClosing? name content = none ∧ ∃ written, IsTagName written ∧
      lowerName written = name ∧ cs = content ++ '<' :: '/' :: (written ++ '>' :: after) := by
  induction cs generalizing content with
  | nil => cases h
  | cons c rest ih =>
    rw [cutAtClosing?] at h
    split at h
    · next here =>
      obtain ⟨written, behind, isName, rfl, same⟩ := closes_iff.mp here
      cases h
      obtain ⟨rfl, rfl⟩ := List.cons.inj same
      refine ⟨rfl, written, isName, rfl, ?_⟩
      simp [length_lowerName]
    · next isOpen =>
      obtain ⟨⟨first, behind⟩, found, same⟩ := Option.map_eq_some_iff.mp h
      cases same
      obtain ⟨unclosed, written, isName, lowered, rfl⟩ := ih found
      refine ⟨?_, written, isName, lowered, rfl⟩
      rw [closes_append] at isOpen
      rw [cutAtClosing?, if_neg isOpen, unclosed]
      rfl

/-- No closing tag of a name is found in a text exactly when none stands in it, whatever the
case of its letters. -/
theorem cutAtClosing?_eq_none_iff {name cs : List Char} (h : IsTagName name) :
    cutAtClosing? (lowerName name) cs = none ↔
      ∀ before written after, lowerName written = lowerName name →
        cs ≠ before ++ '<' :: '/' :: (written ++ '>' :: after) := by
  constructor
  · intro none before written after same whole
    rw [whole, cutAtClosing?_append, ← same, cutAtClosing?_closing (h.of_lowerName same)] at none
    cases earlier : cutAtClosing? (lowerName written) before with
    | some found => simp [earlier] at none
    | none => simp [earlier] at none
  · intro absent
    cases found : cutAtClosing? (lowerName name) cs with
    | none => rfl
    | some item =>
      obtain ⟨-, written, -, same, whole⟩ := cutAtClosing?_eq_some found
      exact absurd whole (absent _ written _ same)

theorem cutAtClosing?_of_not_mem (name : List Char) {cs : List Char} (h : '<' ∉ cs) :
    cutAtClosing? name cs = none := by
  cases found : cutAtClosing? name cs with
  | none => rfl
  | some item =>
    obtain ⟨-, written, -, -, rfl⟩ := cutAtClosing?_eq_some found
    simp at h

end Localization.Markup
