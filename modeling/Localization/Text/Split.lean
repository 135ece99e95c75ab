/-! # Blanks and separators

The blank characters are those of every script, the four information separators and
the next-line control included. The zero-width space and the byte order mark are not
blank. Trimming removes blanks from both ends.

Text is cut at every occurrence of one character, so that joining the parts with that
character gives the text back.
-/
namespace Localization.Text

def isBlank (c : Char) : Bool :=
  let n := c.toNat
  (0x09 ≤ n && n ≤ 0x0D) || (0x1C ≤ n && n ≤ 0x20) || n == 0x85 || n == 0xA0 || n == 0x1680 ||
    (0x2000 ≤ n && n ≤ 0x200A) || n == 0x2028 || n == 0x2029 || n == 0x202F || n == 0x205F ||
    n == 0x3000

def dropRightWhile (p : Char → Bool) (cs : List Char) : List Char :=
  (cs.reverse.dropWhile p).reverse

def trim (cs : List Char) : List Char := dropRightWhile isBlank (cs.dropWhile isBlank)

/-- The blanks that may stand around a number; the information separators are not among
them. -/
def isNumberBlank (c : Char) : Bool := isBlank c && !('\x1c' ≤ c && c ≤ '\x1f')

def trimNumber (cs : List Char) : List Char :=
  dropRightWhile isNumberBlank (cs.dropWhile isNumberBlank)

def trimString (s : String) : String := String.ofList (trim s.toList)

theorem dropRightWhile_append {p : Char → Bool} (cs ds : List Char) (h : ∀ c ∈ ds, p c = true) :
    dropRightWhile p (cs ++ ds) = dropRightWhile p cs := by
  simp only [dropRightWhile, List.reverse_append]
  rw [List.dropWhile_append_of_pos (fun c hc => h c (List.mem_reverse.1 hc))]

/-- The parts between the occurrences of a character; one more part than occurrences. -/
def splitAt (sep : Char) : List Char → List (List Char)
  | [] => [[]]
  | c :: rest =>
    if c = sep then [] :: splitAt sep rest
    else match splitAt sep rest with
      | [] => [[c]]
      | part :: parts => (c :: part) :: parts

def joinWith (sep : List Char) : List (List Char) → List Char
  | [] => []
  | [part] => part
  | part :: parts => part ++ sep ++ joinWith sep parts

def splitString (sep : Char) (s : String) : List String :=
  (splitAt sep s.toList).map String.ofList

/-- The text before the first occurrence of a character and the text after it. -/
def cutAt? (sep : Char) : List Char → Option (List Char × List Char)
  | [] => none
  | c :: rest =>
    if c = sep then some ([], rest) else (cutAt? sep rest).map fun (a, b) => (c :: a, b)

theorem splitAt_ne_nil (sep : Char) (cs : List Char) : splitAt sep cs ≠ [] := by
  cases cs with
  | nil => simp [splitAt]
  | cons c rest =>
    simp only [splitAt]
    split
    · simp
    · split <;> simp

theorem splitAt_append_cons (sep : Char) (front rest : List Char) :
    splitAt sep (front ++ sep :: rest) = splitAt sep front ++ splitAt sep rest := by
  induction front with
  | nil => simp [splitAt]
  | cons c front ih =>
    simp only [List.cons_append, splitAt, ih]
    split
    · rfl
    · cases parts : splitAt sep front with
      | nil => exact absurd parts (splitAt_ne_nil sep front)
      | cons part others => rfl

theorem joinWith_splitAt (sep : Char) (cs : List Char) :
    joinWith [sep] (splitAt sep cs) = cs := by
  induction cs with
  | nil => rfl
  | cons c rest ih =>
    simp only [splitAt]
    split
    · next h =>
      subst h
      cases hs : splitAt c rest with
      | nil => exact absurd hs (splitAt_ne_nil c rest)
      | cons part parts => rw [hs] at ih; simp [joinWith, ih]
    · cases hs : splitAt sep rest with
      | nil => exact absurd hs (splitAt_ne_nil sep rest)
      | cons part parts =>
        rw [hs] at ih
        cases parts with
        | nil => simpa [joinWith] using ih
        | cons next more => simp only [joinWith] at ih ⊢; simp [← ih]

theorem not_mem_of_mem_splitAt {sep : Char} {cs part : List Char} (h : part ∈ splitAt sep cs) :
    sep ∉ part := by
  induction cs generalizing part with
  | nil =>
    rw [splitAt, List.mem_singleton] at h
    rw [h]
    exact List.not_mem_nil
  | cons c rest ih =>
    rw [splitAt] at h
    split at h
    · rcases List.mem_cons.mp h with rfl | inside
      · exact List.not_mem_nil
      · exact ih inside
    · next differ =>
      cases hs : splitAt sep rest with
      | nil => exact absurd hs (splitAt_ne_nil sep rest)
      | cons first parts =>
        rw [hs] at h
        rcases List.mem_cons.mp h with rfl | inside
        · have apart : sep ∉ first := ih (hs ▸ List.mem_cons_self)
          simp [apart, Ne.symm differ]
        · exact ih (hs ▸ List.mem_cons_of_mem first inside)

theorem mem_joinWith {sep : List Char} {parts : List (List Char)} {c : Char}
    (h : c ∈ joinWith sep parts) : c ∈ sep ∨ ∃ part ∈ parts, c ∈ part := by
  induction parts with
  | nil => cases h
  | cons part rest ih =>
    cases rest with
    | nil => exact .inr ⟨part, List.mem_cons_self, h⟩
    | cons next more =>
      rw [joinWith, List.mem_append, List.mem_append] at h
      · rcases h with (first | between) | later
        · exact .inr ⟨part, List.mem_cons_self, first⟩
        · exact .inl between
        · refine (ih later).imp_right ?_
          rintro ⟨other, inside, there⟩
          exact ⟨other, List.mem_cons_of_mem _ inside, there⟩
      · exact fun empty => by cases empty

/-- Every other character than the separator stands in a part. -/
theorem exists_mem_splitAt {sep c : Char} {cs : List Char} (h : c ∈ cs) (differ : c ≠ sep) :
    ∃ part ∈ splitAt sep cs, c ∈ part := by
  rw [← joinWith_splitAt sep cs] at h
  exact (mem_joinWith h).resolve_left fun inside => differ (List.mem_singleton.mp inside)

theorem joinWith_concat (sep : List Char) (parts : List (List Char)) (last : List Char) :
    joinWith sep (parts ++ [last]) = last ∨
      ∃ front, joinWith sep (parts ++ [last]) = front ++ (sep ++ last) := by
  induction parts with
  | nil => exact .inl rfl
  | cons part rest ih =>
    right
    have step : joinWith sep (part :: (rest ++ [last])) =
        part ++ sep ++ joinWith sep (rest ++ [last]) := by
      cases rest <;> rfl
    rw [List.cons_append, step]
    rcases ih with same | ⟨front, same⟩
    · exact ⟨part, by rw [same, List.append_assoc]⟩
    · exact ⟨part ++ sep ++ front, by rw [same, List.append_assoc (part ++ sep)]⟩

/-- The last part is what follows the last separator, or the whole text. -/
theorem getLast?_splitAt (sep : Char) (cs : List Char) :
    ∃ last, (splitAt sep cs).getLast? = some last ∧ sep ∉ last ∧
      (cs = last ∨ ∃ front, cs = front ++ sep :: last) := by
  have parts := List.dropLast_concat_getLast (splitAt_ne_nil sep cs)
  refine ⟨_, List.getLast?_eq_some_getLast (splitAt_ne_nil sep cs),
    not_mem_of_mem_splitAt (List.getLast_mem _), ?_⟩
  have whole := joinWith_splitAt sep cs
  rw [← parts] at whole
  rcases joinWith_concat [sep] (splitAt sep cs).dropLast _ with same | ⟨front, same⟩
  · exact .inl (whole.symm.trans same)
  · exact .inr ⟨front, whole.symm.trans same⟩

end Localization.Text
