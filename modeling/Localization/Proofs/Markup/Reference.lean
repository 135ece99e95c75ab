import Localization.Markup.Reference
import Localization.Proofs.Text.Span
import Localization.Trace

/-! # How references are read

References are resolved one after the other. What is left behind one is a suffix of what stood
behind its ampersand, so the bound on their number plays no part. A reference that ends in a
semicolon is read the same whatever follows it.
-/
namespace Localization.Markup

open Text

theorem lookup_namedReferences (name : String) : namedReferences.lookup name =
    (capitalsAToK.lookup name).or ((capitalsLToR.lookup name).or ((capitalsSToZ.lookup name).or
      ((smallAToB.lookup name).or ((smallCToE.lookup name).or ((smallFToK.lookup name).or
        ((smallLToM.lookup name).or ((smallNToP.lookup name).or ((smallQToS.lookup name).or
          (smallTToZ.lookup name))))))))) := by
  simp only [namedReferences, List.lookup_append, Option.or_assoc]

def Leaves (cs after : List Char) : Prop := ∃ read, cs = read ++ after ∧ '&' ∉ read

theorem Leaves.suffix {cs after : List Char} (h : Leaves cs after) : after <:+ cs := by
  obtain ⟨read, rfl, -⟩ := h
  exact List.suffix_append read after

theorem Leaves.trans {cs after last : List Char} (h : Leaves cs after) (more : Leaves after last) :
    Leaves cs last := by
  obtain ⟨read, rfl, none⟩ := h
  obtain ⟨others, rfl, noneAfter⟩ := more
  exact ⟨read ++ others, (List.append_assoc ..).symm, by simp [none, noneAfter]⟩

theorem leaves_drop {cs : List Char} {n : Nat} (h : '&' ∉ cs.take n) : Leaves cs (cs.drop n) :=
  ⟨cs.take n, (List.take_append_drop n cs).symm, h⟩

theorem leaves_drop_takeWhile {p : Char → Bool} (apart : p '&' = false) (cs : List Char) :
    Leaves cs (cs.drop (cs.takeWhile p).length) := by
  refine leaves_drop fun inside => ?_
  rw [← List.prefix_iff_eq_take.mp (List.takeWhile_prefix p)] at inside
  exact Bool.false_ne_true (apart.symm.trans (List.mem_takeWhile_imp inside))

theorem leaves_skipSemicolon (cs : List Char) : Leaves cs (skipSemicolon cs) := by
  unfold skipSemicolon
  split
  · exact ⟨[';'], rfl, by decide⟩
  · exact ⟨[], rfl, List.not_mem_nil⟩

theorem readNumber?_leaves {cs after : List Char} {meaning : Except Failure (List Char)}
    (h : readNumber? cs = some (meaning, after)) : Leaves cs after := by
  rw [readNumber?.eq_def] at h
  dsimp only at h
  split at h
  · cases h
    exact (leaves_drop_takeWhile (by decide) cs).trans (leaves_skipSemicolon _)
  split at h
  · next x rest _ =>
    split at h
    · next hex =>
      cases h
      have mark : x ≠ '&' := by
        rintro rfl
        simp at hex
      have first : Leaves (x :: rest) rest := ⟨[x], rfl, by simpa using mark.symm⟩
      exact (first.trans (leaves_drop_takeWhile (by decide) rest)).trans (leaves_skipSemicolon _)
    · cases h
  · cases h

theorem longestBare?_le {name meaning : List Char} {n k : Nat}
    (h : longestBare? name n = some (meaning, k)) : k ≤ n := by
  induction n with
  | zero => cases h
  | succ n ih =>
    rw [longestBare?] at h
    split at h
    · cases h
    · split at h
      · cases h
        exact Nat.le_refl _
      · exact Nat.le_succ_of_le (ih h)

theorem readName?_leaves {cs meaning after : List Char}
    (h : readName? cs = some (meaning, after)) : Leaves cs after := by
  rw [readName?.eq_def] at h
  generalize whole : (cs.takeWhile isReferenceChar).take 32 = name at h
  have begins : name <+: cs := by
    rw [← whole]
    exact (List.take_prefix ..).trans (List.takeWhile_prefix _)
  have absent : '&' ∉ name := by
    rw [← whole]
    intro inside
    exact absurd (List.mem_takeWhile_imp (List.mem_of_mem_take inside)) (by decide)
  have within {n : Nat} (le : n ≤ name.length) : Leaves cs (cs.drop n) := by
    refine leaves_drop fun inside => absent ?_
    obtain ⟨rest, rfl⟩ := begins
    rw [List.take_append_of_le_length le] at inside
    exact List.mem_of_mem_take inside
  dsimp only at h
  split at h
  · cases h
    exact (within le_rfl).trans (leaves_skipSemicolon _)
  split at h
  · next found =>
    cases h
    exact within (longestBare?_le found)
  · cases h

theorem readReference?_leaves {cs after : List Char} {meaning : Except Failure (List Char)}
    (h : readReference? cs = some (meaning, after)) : Leaves cs after := by
  rw [readReference?.eq_def] at h
  split at h
  · next rest =>
    have first : Leaves ('#' :: rest) rest := ⟨['#'], rfl, by decide⟩
    exact first.trans (readNumber?_leaves h)
  · obtain ⟨parts, read, same⟩ := Option.map_eq_some_iff.mp h
    cases same
    exact readName?_leaves read

theorem unescapeFrom_congr {cs : List Char} {m n : Nat} (hm : cs.length ≤ m) (hn : cs.length ≤ n) :
    unescapeFrom m cs = unescapeFrom n cs := by
  induction m generalizing cs n with
  | zero =>
    obtain rfl := List.eq_nil_of_length_eq_zero (Nat.le_zero.mp hm)
    simp only [unescapeFrom]
  | succ m ih =>
    cases cs with
    | nil => simp only [unescapeFrom]
    | cons c rest =>
      cases n with
      | zero => cases hn
      | succ n =>
        have left := Nat.le_of_succ_le_succ hm
        have right := Nat.le_of_succ_le_succ hn
        rw [unescapeFrom, unescapeFrom, ih left right]
        cases read : (if c = '&' then readReference? rest else none) with
        | none => rfl
        | some parts =>
          obtain ⟨meaning, after⟩ := parts
          have begins := (Option.ite_none_right_eq_some.mp read).2
          have shorter := (readReference?_leaves begins).suffix.length_le
          simp only [ih (shorter.trans left) (shorter.trans right)]

theorem unescape_cons {c : Char} {rest : List Char}
    (plain : (if c = '&' then readReference? rest else none) = none) :
    unescape (c :: rest) = (unescape rest).map (c :: ·) := by
  rw [unescape, List.length_cons, unescapeFrom, plain]
  rfl

theorem unescape_of_read {rest after : List Char} {meaning : Except Failure (List Char)}
    (read : readReference? rest = some (meaning, after)) :
    unescape ('&' :: rest) = meaning.bind fun first => (unescape after).map (first ++ ·) := by
  have shorter := (readReference?_leaves read).suffix.length_le
  rw [unescape, unescape, List.length_cons, unescapeFrom, if_pos rfl, read]
  dsimp only
  rw [unescapeFrom_congr shorter (Nat.le_refl _)]
  cases meaning with
  | error failure => rfl
  | ok first => cases unescapeFrom after.length after <;> rfl

/-- What stands before every ampersand is not changed. -/
theorem unescape_append {before : List Char} (h : '&' ∉ before) (after : List Char) :
    unescape (before ++ after) = (unescape after).map (before ++ ·) := by
  induction before with
  | nil => cases resolved : unescape after <;> exact resolved
  | cons c before ih =>
    obtain ⟨differ, others⟩ := not_or.mp (mt List.mem_cons.mpr h)
    rw [List.cons_append, unescape_cons (if_neg (Ne.symm differ)), ih others]
    cases unescape after <;> rfl

theorem readNumber?_closed {digits : List Char} (nonempty : digits ≠ [])
    (each : ∀ c ∈ digits, c.isDigit = true) (rest : List Char) :
    readNumber? (digits ++ ';' :: rest) = some (decimalMeaning digits, rest) := by
  have whole : (digits ++ ';' :: rest).takeWhile Char.isDigit = digits :=
    takeWhile_append_of_stop each (forall_head?_cons.mpr (by decide))
  rw [readNumber?.eq_def, whole]
  dsimp only
  rw [if_pos (by simp [nonempty]), List.drop_left]
  rfl

theorem readName?_closed {name meaning : List Char} (short : name.length ≤ 32)
    (each : ∀ c ∈ name, isReferenceChar c = true) (known : named? name = some meaning)
    (rest : List Char) : readName? (name ++ ';' :: rest) = some (meaning, rest) := by
  have whole : (name ++ ';' :: rest).takeWhile isReferenceChar = name :=
    takeWhile_append_of_stop each (forall_head?_cons.mpr (by decide))
  rw [readName?, whole, List.take_of_length_le short, List.drop_left]
  simp [known, skipSemicolon]

theorem unescape_numbered {digits : List Char} (nonempty : digits ≠ [])
    (each : ∀ c ∈ digits, c.isDigit = true) (short : digits.length ≤ maxWholeDigits)
    (rest : List Char) :
    unescape ('&' :: '#' :: digits ++ ';' :: rest) =
      (unescape rest).map (numbered (ofDigits digits) ++ ·) := by
  have read : readReference? ('#' :: (digits ++ ';' :: rest)) =
      some (decimalMeaning digits, rest) := readNumber?_closed nonempty each rest
  rw [decimalMeaning, if_neg (Nat.not_lt.mpr short)] at read
  exact unescape_of_read read

theorem readReference?_of_name {cs : List Char} (noNumber : cs.head? ≠ some '#') :
    readReference? cs = (readName? cs).map fun (meaning, after) => (.ok meaning, after) := by
  refine readReference?.eq_2 _ fun digits same => noNumber ?_
  rw [same]
  rfl

theorem unescape_named {name meaning : List Char} (short : name.length ≤ 32)
    (each : ∀ c ∈ name, isReferenceChar c = true) (known : named? name = some meaning)
    (rest : List Char) :
    unescape ('&' :: name ++ ';' :: rest) = (unescape rest).map (meaning ++ ·) := by
  have noNumber : (name ++ ';' :: rest).head? ≠ some '#' := by
    cases name with
    | nil => exact fun same => absurd (Option.some.inj same) (by decide)
    | cons c others =>
      rintro ⟨⟩
      exact absurd (each '#' List.mem_cons_self) (by decide)
  have read := readReference?_of_name noNumber
  rw [readName?_closed short each known rest] at read
  exact unescape_of_read read

/-- A reference in base ten of more digits than are read as one number. -/
def HasLongReference (cs : List Char) : Prop :=
  ∃ before digits after, cs = before ++ '&' :: '#' :: (digits ++ after) ∧
    maxWholeDigits < digits.length ∧ ∀ c ∈ digits, c.isDigit = true

theorem HasLongReference.of_suffix {cs rest : List Char} (h : HasLongReference rest)
    (inside : rest <:+ cs) : HasLongReference cs := by
  obtain ⟨front, rfl⟩ := inside
  obtain ⟨before, digits, after, rfl, long⟩ := h
  exact ⟨front ++ before, digits, after, (List.append_assoc ..).symm, long⟩

/-- No reference reaches over an ampersand, so what begins with one is resolved by itself. -/
theorem isOk_unescape_append {before rest : List Char}
    (h : (unescape (before ++ '&' :: rest)).isOk) : (unescape ('&' :: rest)).isOk := by
  match before with
  | [] => exact h
  | c :: before =>
    rw [List.cons_append] at h
    cases read : (if c = '&' then readReference? (before ++ '&' :: rest) else none) with
    | none =>
      rw [unescape_cons read, isOk_map] at h
      exact isOk_unescape_append h
    | some parts =>
      obtain ⟨meaning, after⟩ := parts
      obtain ⟨rfl, begins⟩ := Option.ite_none_right_eq_some.mp read
      rw [unescape_of_read begins] at h
      obtain ⟨passed, split, absent⟩ := readReference?_leaves begins
      obtain ⟨left, rfl, rfl⟩ : ∃ left, before = passed ++ left ∧ after = left ++ '&' :: rest := by
        obtain ⟨left, whole, same⟩ | ⟨left, whole, same⟩ := List.append_eq_append_iff.mp split
        · cases left with
          | nil => exact ⟨[], by simpa using whole.symm, by simpa using same.symm⟩
          | cons d left =>
            obtain ⟨rfl, -⟩ := List.cons.inj same
            simp [whole] at absent
        · exact ⟨left, whole, same⟩
      cases meaning with
      | error failure => cases h
      | ok first =>
        have others : (unescape (left ++ '&' :: rest)).isOk := by
          rw [← isOk_map (first ++ ·)]
          exact h
        exact isOk_unescape_append others
termination_by before.length

theorem readReference?_error {cs after : List Char} {failure : Failure}
    (h : readReference? cs = some (.error failure, after)) :
    ∃ digits rest, cs = '#' :: (digits ++ rest) ∧ failure = .digits digits.length ∧
      maxWholeDigits < digits.length ∧ ∀ c ∈ digits, c.isDigit = true := by
  rw [readReference?.eq_def] at h
  split at h
  · next cs =>
    rw [readNumber?.eq_def] at h
    dsimp only at h
    split at h
    · obtain ⟨meaning, -⟩ := Prod.mk.inj (Option.some.inj h)
      rw [decimalMeaning] at meaning
      split at meaning
      · next long =>
        cases meaning
        exact ⟨_, _, congrArg _ List.takeWhile_append_dropWhile.symm, rfl, long,
          List.all_eq_true.mp List.all_takeWhile⟩
      · cases meaning
    split at h
    · split at h <;> cases h
    · cases h
  · obtain ⟨parts, -, same⟩ := Option.map_eq_some_iff.mp h
    cases same

theorem unescape_error {cs : List Char} {failure : Failure} (h : unescape cs = .error failure) :
    HasLongReference cs ∧ ∃ count, failure = .digits count ∧ maxWholeDigits < count := by
  match cs with
  | [] => cases h
  | c :: rest =>
    cases read : (if c = '&' then readReference? rest else none) with
    | none =>
      rw [unescape_cons read] at h
      cases others : unescape rest with
      | ok resolved =>
        rw [others] at h
        cases h
      | error fault =>
        obtain ⟨long, count⟩ := unescape_error others
        rw [others] at h
        cases h
        exact ⟨long.of_suffix (List.suffix_cons c rest), count⟩
    | some parts =>
      obtain ⟨meaning, after⟩ := parts
      obtain ⟨rfl, begins⟩ := Option.ite_none_right_eq_some.mp read
      rw [unescape_of_read begins] at h
      cases meaning with
      | error fault =>
        obtain ⟨digits, tail, rfl, rfl, long, each⟩ := readReference?_error begins
        cases h
        exact ⟨⟨[], digits, tail, rfl, long, each⟩, _, rfl, long⟩
      | ok first =>
        cases others : unescape after with
        | ok resolved =>
          rw [others] at h
          cases h
        | error fault =>
          have inside := (readReference?_leaves begins).suffix
          have shorter := inside.length_le
          obtain ⟨long, count⟩ := unescape_error others
          rw [others] at h
          cases h
          exact ⟨long.of_suffix (inside.trans (List.suffix_cons ..)), count⟩
termination_by cs.length

theorem not_isOk_unescape {cs : List Char} (h : HasLongReference cs) : ¬ (unescape cs).isOk := by
  obtain ⟨before, digits, after, rfl, long, each⟩ := h
  refine mt isOk_unescape_append ?_
  have whole : (digits ++ after).takeWhile Char.isDigit = digits ++ after.takeWhile Char.isDigit :=
    List.takeWhile_append_of_pos each
  have more : maxWholeDigits < (digits ++ after.takeWhile Char.isDigit).length := by
    rw [List.length_append]
    omega
  have some : (digits ++ after.takeWhile Char.isDigit).isEmpty = false := by
    rw [← Bool.not_eq_true, List.isEmpty_iff_length_eq_zero]
    omega
  have read : ∃ rest, readReference? ('#' :: (digits ++ after)) =
      Option.some (decimalMeaning (digits ++ after.takeWhile Char.isDigit), rest) := by
    refine ⟨skipSemicolon
      ((digits ++ after).drop (digits ++ after.takeWhile Char.isDigit).length), ?_⟩
    rw [readReference?, readNumber?.eq_def, whole]
    dsimp only
    rw [some]
    rfl
  obtain ⟨rest, read⟩ := read
  rw [unescape_of_read read, decimalMeaning, if_pos more]
  exact Bool.false_ne_true

/-- A text is resolved unless it holds a reference whose number is too long to be read. -/
theorem unescape_isOk_iff (cs : List Char) : (unescape cs).isOk ↔ ¬ HasLongReference cs := by
  refine ⟨fun done long => not_isOk_unescape long done, fun short => ?_⟩
  cases resolved : unescape cs with
  | ok others => rfl
  | error failure => exact absurd (unescape_error resolved).1 short

/-- A reference by a number of five thousand digits. -/
def longNumber : List Char := "&#".toList ++ (List.replicate 5000 '1' ++ [';'])

theorem hasLongReference_longNumber (before : List Char) :
    HasLongReference (before ++ longNumber) := by
  refine ⟨before, List.replicate 5000 '1', [';'], rfl, ?_, fun c inside => ?_⟩
  · rw [List.length_replicate]
    decide
  · rw [List.eq_of_mem_replicate inside]
    rfl

theorem not_mem_longNumber {c : Char} (apart : c ∉ ['&', '#', '1', ';']) : c ∉ longNumber := by
  simp only [List.mem_cons, List.not_mem_nil, or_false, not_or] at apart
  simp [longNumber, List.mem_replicate, apart, -List.reduceReplicate]

end Localization.Markup
