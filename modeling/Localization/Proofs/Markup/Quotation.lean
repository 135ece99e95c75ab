import Localization.Proofs.Markup.SafeAttributes
import Localization.Proofs.Text.Span

/-! # Attributes in every form of quotation

An attribute is written behind blanks: a name and an equals sign, with or without blanks around
it, and then a value in double or in single quotation marks or a bare value; an empty value may be
left out with the equals sign. A text of such attributes is read name by name and value by value.
Nothing is read when the quotation of the last value does not end.
-/
namespace Localization.Markup

open Text

theorem cutAt?_of_not_mem {sep : Char} {cs : List Char} (h : sep ∉ cs) : cutAt? sep cs = none := by
  cases found : cutAt? sep cs with
  | none => rfl
  | some parts =>
    obtain ⟨before, after⟩ := parts
    rw [(cutAt?_eq_some found).1] at h
    simp at h

def Blank (cs : List Char) : Prop := ∀ c ∈ cs, isBlank c = true

def quotationMarks : List Char := ['"', '\'']

/-- A value that needs no quotation. -/
structure IsBare (value : List Char) : Prop where
  nonempty : value ≠ []
  noBlank : ∀ c ∈ value, isBlank c = false
  noEnd : ∀ c ∈ value, c ∉ ['"', '\'', '=', '<', '>', '\x60']

inductive WritesValue : List Char → List Char → Prop
  | omitted : WritesValue [] []
  | quoted {left right value : List Char} {mark : Char} (before : Blank left) (after : Blank right)
      (isMark : mark ∈ quotationMarks) (noMark : mark ∉ value) :
      WritesValue value (left ++ '=' :: (right ++ mark :: (value ++ [mark])))
  | bare {left right value : List Char} (before : Blank left) (after : Blank right)
      (isBare : IsBare value) : WritesValue value (left ++ '=' :: (right ++ value))

/-- Texts of attributes, each behind blanks, in any of the forms. -/
inductive Writes : Attributes → List Char → Prop
  | nil : Writes [] []
  | cons {name value blanks text cs : List Char} {attributes : Attributes} (blank : Blank blanks)
      (apart : blanks ≠ []) (isName : IsAttributeName name) (written : WritesValue value text)
      (more : Writes attributes cs) :
      Writes ((name, value) :: attributes) (blanks ++ (name ++ (text ++ cs)))

/-- An attribute behind blanks whose quotation does not end. -/
inductive WritesUnclosed : List Char → Prop
  | mk {name value blanks left right : List Char} {mark : Char} (blank : Blank blanks)
      (apart : blanks ≠ []) (isName : IsAttributeName name) (before : Blank left)
      (after : Blank right) (isMark : mark ∈ quotationMarks) (noMark : mark ∉ value) :
      WritesUnclosed (blanks ++ (name ++ (left ++ '=' :: (right ++ mark :: value))))

/-- What can stand behind an attribute: nothing, or blanks and the name of another one. -/
structure Follows (rest : List Char) : Prop where
  apart : ∀ c ∈ rest.head?, isBlank c = true
  next : ∀ c ∈ (rest.dropWhile isBlank).head?, isAttributeNameChar c = true

theorem not_isBlank_of_isAttributeNameChar {c : Char} (h : isAttributeNameChar c = true) :
    isBlank c = false := by
  have apart (low : c.toNat < 128) : isAttributeNameChar c = true → isBlank c = false :=
    ascii_forall (P := fun c => isAttributeNameChar c = true → isBlank c = false)
      (by decide +kernel) low
  have allowed := h
  simp only [isAttributeNameChar, Bool.or_eq_true, beq_iff_eq] at allowed
  rcases allowed with (((word | rfl) | rfl) | rfl) | rfl
  · exact apart (toNat_lt_of_isAlphanum word) h
  all_goals decide

theorem not_isAttributeNameChar_of_isBlank {c : Char} (h : isBlank c = true) :
    isAttributeNameChar c = false := by
  cases begins : isAttributeNameChar c with
  | false => rfl
  | true =>
    rw [not_isBlank_of_isAttributeNameChar begins] at h
    cases h

theorem follows_nil : Follows [] := by
  constructor <;> intro c none <;> cases none

theorem follows_name {blanks name : List Char} (blank : Blank blanks) (apart : blanks ≠ [])
    (isName : IsAttributeName name) (rest : List Char) : Follows (blanks ++ (name ++ rest)) := by
  obtain ⟨c, others, rfl⟩ := List.exists_cons_of_ne_nil isName.1
  have begins : isAttributeNameChar c = true := isName.2 c List.mem_cons_self
  constructor
  · obtain ⟨d, more, rfl⟩ := List.exists_cons_of_ne_nil apart
    exact forall_head?_cons.mpr (blank d List.mem_cons_self)
  · rw [List.cons_append, dropWhile_append_of_stop blank
      (forall_head?_cons.mpr (not_isBlank_of_isAttributeNameChar begins))]
    exact forall_head?_cons.mpr begins

theorem isBareChar_iff {c : Char} :
    isBareChar c = true ↔ isBlank c = false ∧ c ∉ ['"', '\'', '=', '<', '>', '\x60'] := by
  simp [isBareChar, isValueEnd, and_assoc]

theorem isBlank_mark {mark : Char} (isMark : mark ∈ quotationMarks) : isBlank mark = false := by
  rcases List.mem_cons.mp isMark with rfl | last
  · rfl
  · obtain rfl := List.mem_singleton.mp last
    rfl

theorem readValue?_mark {right : List Char} {mark : Char} (after : Blank right)
    (isMark : mark ∈ quotationMarks) (rest : List Char) :
    readValue? (right ++ mark :: rest) = cutAt? mark rest := by
  rw [readValue?, dropWhile_append_of_stop after (forall_head?_cons.mpr (isBlank_mark isMark))]
  rcases List.mem_cons.mp isMark with rfl | last
  · rfl
  · obtain rfl := List.mem_singleton.mp last
    rfl

theorem readValue?_bare {right value rest : List Char} (after : Blank right)
    (isBare : IsBare value) (follows : Follows rest) :
    readValue? (right ++ (value ++ rest)) = some (value, rest) := by
  have chars : ∀ c ∈ value, isBareChar c = true := fun c inside =>
    isBareChar_iff.mpr ⟨isBare.noBlank c inside, isBare.noEnd c inside⟩
  have stop : ∀ c ∈ rest.head?, isBareChar c = false := fun c first => by
    simp [isBareChar, follows.apart c first]
  obtain ⟨c, others, rfl⟩ := List.exists_cons_of_ne_nil isBare.nonempty
  have begins : ∀ d ∈ (c :: others ++ rest).head?, isBlank d = false :=
    forall_head?_cons.mpr (isBare.noBlank c List.mem_cons_self)
  have noMark := isBare.noEnd c List.mem_cons_self
  rw [readValue?, dropWhile_append_of_stop after begins]
  split
  · next same =>
    obtain ⟨rfl, -⟩ := List.cons.inj same
    simp at noMark
  · next same =>
    obtain ⟨rfl, -⟩ := List.cons.inj same
    simp at noMark
  · rw [takeWhile_append_of_stop chars stop, dropWhile_append_of_stop chars stop]

theorem readAttribute?_equals {name left : List Char} (isName : IsAttributeName name)
    (before : Blank left) (rest : List Char) :
    readAttribute? (name ++ (left ++ '=' :: rest)) =
      (readValue? rest).map fun (value, rest) => ((name, value), rest) := by
  have stop : ∀ c ∈ (left ++ '=' :: rest).head?, isAttributeNameChar c = false := by
    cases left with
    | nil => exact forall_head?_cons.mpr (by decide)
    | cons d left =>
      exact forall_head?_cons.mpr
        (not_isAttributeNameChar_of_isBlank (before d List.mem_cons_self))
  have equals : (left ++ '=' :: rest).dropWhile isBlank = '=' :: rest :=
    dropWhile_append_of_stop before (forall_head?_cons.mpr (by decide))
  simp only [readAttribute?, takeWhile_append_of_stop isName.2 stop,
    dropWhile_append_of_stop isName.2 stop, equals]

/-- A name without an equals sign behind it has the empty value, and the blanks behind it are left
for what follows. -/
theorem readAttribute?_alone {name rest : List Char} (isName : IsAttributeName name)
    (follows : Follows rest) : readAttribute? (name ++ rest) = some ((name, []), rest) := by
  have stop : ∀ c ∈ rest.head?, isAttributeNameChar c = false := fun c first =>
    not_isAttributeNameChar_of_isBlank (follows.apart c first)
  simp only [readAttribute?, takeWhile_append_of_stop isName.2 stop,
    dropWhile_append_of_stop isName.2 stop]
  split
  · next equals =>
    have begins := follows.next '=' (by rw [equals]; rfl)
    exact absurd begins (by decide)
  · rfl

theorem readAttribute?_written {name value text rest : List Char} (isName : IsAttributeName name)
    (written : WritesValue value text) (follows : Follows rest) :
    readAttribute? (name ++ (text ++ rest)) = some ((name, value), rest) := by
  cases written with
  | omitted => exact readAttribute?_alone isName follows
  | @quoted left right value mark before after isMark noMark =>
    have parts : left ++ '=' :: (right ++ mark :: (value ++ [mark])) ++ rest =
        left ++ '=' :: (right ++ mark :: (value ++ mark :: rest)) := by simp
    rw [parts, readAttribute?_equals isName before, readValue?_mark after isMark,
      cutAt?_append noMark]
    rfl
  | @bare left right value before after isBare =>
    have parts : left ++ '=' :: (right ++ value) ++ rest =
        left ++ '=' :: (right ++ (value ++ rest)) := by simp
    rw [parts, readAttribute?_equals isName before, readValue?_bare after isBare follows]
    rfl

theorem occurrencesFrom_blanks {blanks : List Char} (blank : Blank blanks) (steps : Nat)
    (cs : List Char) :
    occurrencesFrom (steps + blanks.length) (blanks ++ cs) = occurrencesFrom steps cs := by
  induction blanks with
  | nil => rfl
  | cons c blanks ih =>
    have noName : ¬ isAttributeNameChar c = true :=
      Bool.eq_false_iff.mp (not_isAttributeNameChar_of_isBlank (blank c List.mem_cons_self))
    have step : steps + (c :: blanks).length = steps + blanks.length + 1 := rfl
    rw [step, List.cons_append, occurrencesFrom, if_neg noName]
    exact ih fun d inside => blank d (List.mem_cons_of_mem c inside)

theorem occurrencesFrom_of_blank {cs : List Char} (blank : ∀ c ∈ cs, isBlank c = true)
    (steps : Nat) : occurrencesFrom steps cs = some [] := by
  induction cs generalizing steps with
  | nil => cases steps <;> rfl
  | cons c rest ih =>
    cases steps with
    | zero => rfl
    | succ steps =>
      have noName := not_isAttributeNameChar_of_isBlank (blank c List.mem_cons_self)
      rw [occurrencesFrom, if_neg (Bool.not_eq_true _ ▸ noName)]
      exact ih (fun d inside => blank d (List.mem_cons_of_mem c inside)) steps

theorem occurrencesFrom_name {name : List Char} (isName : IsAttributeName name) (steps : Nat)
    (cs : List Char) :
    occurrencesFrom (steps + 1) (name ++ cs) =
      (readAttribute? (name ++ cs)).bind fun (item, rest) =>
        (occurrencesFrom steps rest).map (item :: ·) := by
  obtain ⟨c, others, rfl⟩ := List.exists_cons_of_ne_nil isName.1
  rw [List.cons_append, occurrencesFrom, if_pos (isName.2 c List.mem_cons_self)]
  cases readAttribute? (c :: (others ++ cs)) <;> rfl

theorem Writes.follows {attributes : Attributes} {cs : List Char} (written : Writes attributes cs)
    {rest : List Char} (follows : Follows rest) : Follows (cs ++ rest) := by
  cases written with
  | nil => exact follows
  | @cons name value blanks text cs attributes blank apart isName written more =>
    simp only [List.append_assoc]
    exact follows_name blank apart isName _

theorem occurrencesFrom_append {attributes : Attributes} {cs : List Char}
    (written : Writes attributes cs) {rest : List Char} (follows : Follows rest) {steps : Nat}
    (enough : (cs ++ rest).length ≤ steps) : ∃ left, rest.length ≤ left ∧
      occurrencesFrom steps (cs ++ rest) = (occurrencesFrom left rest).map (attributes ++ ·) := by
  induction written generalizing steps with
  | nil =>
    refine ⟨steps, enough, ?_⟩
    simp
  | @cons name value blanks text cs attributes blank apart isName written more ih =>
    have long : 1 ≤ name.length := List.length_pos_iff.mpr isName.1
    simp only [List.length_append] at enough
    -- The blanks are passed over one by one, and one more step reads the attribute.
    obtain ⟨steps, rfl⟩ : ∃ k, steps = k + 1 + blanks.length :=
      ⟨steps - 1 - blanks.length, by omega⟩
    obtain ⟨left, room, others⟩ := @ih steps (by rw [List.length_append]; omega)
    refine ⟨left, room, ?_⟩
    rw [List.append_assoc, occurrencesFrom_blanks blank, List.append_assoc,
      occurrencesFrom_name isName, List.append_assoc,
      readAttribute?_written isName written (more.follows follows)]
    simp only [Option.bind_some, others, Option.map_map]
    rfl

theorem WritesUnclosed.follows {cs : List Char} (unclosed : WritesUnclosed cs) : Follows cs := by
  cases unclosed with
  | mk blank apart isName before after isMark noMark => exact follows_name blank apart isName _

theorem WritesUnclosed.occurrencesFrom {cs : List Char} (unclosed : WritesUnclosed cs)
    {steps : Nat} (enough : cs.length ≤ steps) : occurrencesFrom steps cs = none := by
  cases unclosed with
  | @mk name value blanks left right mark blank apart isName before after isMark noMark =>
    have long : 1 ≤ name.length := List.length_pos_iff.mpr isName.1
    simp only [List.length_append] at enough
    obtain ⟨steps, rfl⟩ : ∃ k, steps = k + 1 + blanks.length :=
      ⟨steps - 1 - blanks.length, by omega⟩
    rw [occurrencesFrom_blanks blank, occurrencesFrom_name isName,
      readAttribute?_equals isName before, readValue?_mark after isMark, cutAt?_of_not_mem noMark]
    rfl

theorem keepFirst_of_nodup {attributes : Attributes} (distinct : (attributes.map Prod.fst).Nodup) :
    keepFirst attributes = attributes := by
  suffices run : ∀ items kept : Attributes, ((kept ++ items).map Prod.fst).Nodup →
      items.foldl (fun kept item =>
        if kept.any (fun other => other.1 == item.1) then kept else kept ++ [item]) kept =
        kept ++ items from
    run attributes [] distinct
  intro items
  induction items with
  | nil => simp
  | cons item items ih =>
    intro kept distinct
    have unseen : ¬ kept.any (fun other => other.1 == item.1) = true := by
      intro seen
      obtain ⟨other, inside, same⟩ := List.any_eq_true.mp seen
      rw [List.map_append, List.nodup_append] at distinct
      exact distinct.2.2 other.1 (List.mem_map_of_mem inside) item.1 (by simp) (beq_iff_eq.mp same)
    have next := ih (kept ++ [item])
    rw [List.append_assoc, List.singleton_append] at next
    rw [List.foldl_cons, if_neg unseen]
    exact next distinct

theorem scanAttributes_of_writes {attributes : Attributes} {cs : List Char}
    (written : Writes attributes cs) (distinct : (attributes.map Prod.fst).Nodup) :
    scanAttributes cs = some attributes := by
  obtain ⟨left, -, listed⟩ := occurrencesFrom_append written follows_nil (Nat.le_refl _)
  have none : occurrencesFrom left [] = some [] := by cases left <;> rfl
  rw [none, List.append_nil] at listed
  rw [scanAttributes, listed]
  simp [keepFirst_of_nodup distinct]

/-- Attributes with distinct names are read back from whatever is written of them, and nothing is
read when a quotation behind them does not end. -/
theorem scanAttributes_written {attributes : Attributes} {cs : List Char}
    (written : Writes attributes cs) (distinct : (attributes.map Prod.fst).Nodup) :
    scanAttributes cs = some attributes ∧
      ∀ last, WritesUnclosed last → scanAttributes (cs ++ last) = none := by
  refine ⟨scanAttributes_of_writes written distinct, fun last unclosed => ?_⟩
  obtain ⟨left, room, listed⟩ := occurrencesFrom_append written unclosed.follows (Nat.le_refl _)
  rw [scanAttributes, listed, unclosed.occurrencesFrom room]
  rfl

/-- Values that hold blanks, ends of tags, equals signs and the other quotation mark. -/
def fourForms : Attributes :=
  [("a-b".toList, "x >\"".toList), ("c:d".toList, []), ("E.f".toList, "/g/".toList),
    ("h_1".toList, "'=".toList)]

theorem fourForms_read :
    let text := "\n a-b = 'x >\"' c:d\u2003E.f=\t/g/ h_1=\"'=\"".toList
    let last := " i ='\"".toList
    Writes fourForms text ∧ (fourForms.map Prod.fst).Nodup ∧ scanAttributes text = some fourForms ∧
      WritesUnclosed last ∧ scanAttributes (text ++ last) = none := by
  intro text last
  have name {word : List Char} (nonempty : word ≠ [])
      (chars : word.all isAttributeNameChar = true) : IsAttributeName word :=
    ⟨nonempty, List.all_eq_true.mp chars⟩
  have blanks {word : List Char} (all : word.all isBlank = true) : Blank word :=
    List.all_eq_true.mp all
  have bare : IsBare "/g/".toList := by
    constructor <;> simp [isBlank]
  have parts : text =
      "\n ".toList ++ ("a-b".toList ++
        (([' '] ++ '=' :: ([' '] ++ '\'' :: ("x >\"".toList ++ ['\'']))) ++
      ([' '] ++ ("c:d".toList ++ ([] ++
      (['\u2003'] ++ ("E.f".toList ++ (([] ++ '=' :: (['\t'] ++ "/g/".toList)) ++
      ([' '] ++ ("h_1".toList ++ (([] ++ '=' :: ([] ++ '"' :: ("'=".toList ++ ['"']))) ++
      []))))))))))) := by decide
  have written : Writes fourForms text := by
    rw [parts]
    refine .cons (blanks (by decide)) (by decide) (name (by decide) (by decide))
      (.quoted (blanks (by decide)) (blanks (by decide)) (by decide) (by decide)) ?_
    refine .cons (blanks (by decide)) (by decide) (name (by decide) (by decide)) .omitted ?_
    refine .cons (blanks (by decide)) (by decide) (name (by decide) (by decide))
      (.bare (blanks (by decide)) (blanks (by decide)) bare) ?_
    exact .cons (blanks (by decide)) (by decide) (name (by decide) (by decide))
      (.quoted (blanks (by decide)) (blanks (by decide)) (by decide) (by decide)) .nil
  have unclosed : WritesUnclosed last := by
    have parts : last = [' '] ++ (['i'] ++ ([' '] ++ '=' :: ([] ++ '\'' :: ['"']))) := by decide
    rw [parts]
    exact .mk (blanks (by decide)) (by decide) (name (by decide) (by decide)) (blanks (by decide))
      (blanks (by decide)) (by decide) (by decide)
  have distinct : (fourForms.map Prod.fst).Nodup := by decide
  obtain ⟨read, refused⟩ := scanAttributes_written written distinct
  exact ⟨written, distinct, read, unclosed, refused last unclosed⟩

end Localization.Markup
