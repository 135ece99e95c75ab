import Localization.Proofs.Template.Pieces
import Localization.Proofs.Text.Casing
import Mathlib.Data.List.TakeWhile

/-! # The grammar of placeholders

Between two double braces stand a name, a kind of format and an argument with commas between them,
where the argument, or it and the kind, may be left out, and blanks around each of them. What is
read as a placeholder is exactly what is written so. No character of a word is blank, so a text
splits in one way only into placeholders and characters at which none begins.
-/
namespace Localization.Template

open Text

def blankRanges : List (Nat × Nat) :=
  [(0x09, 0x0D), (0x1C, 0x20), (0x85, 0x85), (0xA0, 0xA0), (0x1680, 0x1680), (0x2000, 0x200A),
   (0x2028, 0x2028), (0x2029, 0x2029), (0x202F, 0x202F), (0x205F, 0x205F), (0x3000, 0x3000)]

theorem isBlank_eq (c : Char) : isBlank c = inRanges blankRanges c.toNat := by
  have single (n k : Nat) : (n == k) = (decide (k ≤ n) && decide (n ≤ k)) := by
    rw [Bool.eq_iff_iff]
    simp
    omega
  simp [isBlank, inRanges, blankRanges, single, Bool.or_assoc]

theorem not_isNameChar_of_isBlank {c : Char} (h : isBlank c = true) : isNameChar c = false := by
  by_cases ascii : c.toNat < 128
  · exact ascii_forall (P := fun c => isBlank c = true → isNameChar c = false)
      (by decide +kernel) ascii h
  · have apart : (blankRanges.all fun a => wideAlphanumerics.all fun b =>
        Nat.blt a.2 b.1 || Nat.blt b.2 a.1) = true := by decide +kernel
    have noLetter : c.isAlphanum = false :=
      Bool.eq_false_iff.mpr fun letter => ascii (toNat_lt_of_isAlphanum letter)
    have noMark (mark : Char) (low : mark.toNat < 128) : c ≠ mark := fun same => ascii (same ▸ low)
    have wide : inRanges wideAlphanumerics c.toNat = false := by
      rw [isBlank_eq, inRanges, List.any_eq_true] at h
      obtain ⟨a, blank, inBlank⟩ := h
      rw [inRanges, List.any_eq_false]
      intro b letter inLetter
      have := List.all_eq_true.mp (List.all_eq_true.mp apart a blank) b letter
      simp at this inBlank inLetter
      omega
    simp [isNameChar, isWord, isAlphanumeric, noLetter, wide, noMark '_' (by decide),
      noMark '.' (by decide), noMark '-' (by decide)]

theorem isNameChar_of_isWord {c : Char} (h : isWord c = true) : isNameChar c = true := by
  simp [isNameChar, h]

/-- A word over a class of characters with blanks around it. -/
inductive Field (p : Char → Bool) (word : List Char) : List Char → Prop
  | mk (before after : List Char) (leads : ∀ c ∈ before, isBlank c = true) (nonempty : word ≠ [])
      (chars : ∀ c ∈ word, p c = true) (trails : ∀ c ∈ after, isBlank c = true) :
      Field p word (before ++ (word ++ after))

/-- What may follow a kind of format: a comma and an argument. -/
inductive ArgumentPart : Option (List Char) → List Char → Prop
  | absent : ArgumentPart none []
  | present {argument field : List Char} (word : Field isNameChar argument field) :
      ArgumentPart (some argument) (',' :: field)

/-- What may follow a name: a comma, a kind of format, and what may follow that. -/
inductive KindPart : Option (List Char) → Option (List Char) → List Char → Prop
  | absent : KindPart none none []
  | present {kind field tail : List Char} {argument : Option (List Char)}
      (word : Field isWord kind field) (rest : ArgumentPart argument tail) :
      KindPart (some kind) argument (',' :: (field ++ tail))

inductive Written (p : Placeholder) : List Char → Prop
  | mk {field tail : List Char} (word : Field isNameChar p.name field)
      (rest : KindPart p.kind p.argument tail) :
      Written p ('\x7b' :: '\x7b' :: (field ++ (tail ++ ['\x7d', '\x7d'])))

theorem field_of_readField? {p : Char → Bool} {cs word rest : List Char}
    (h : readField? p cs = some (word, rest)) :
    ∃ field, Field p word field ∧ cs = field ++ rest := by
  simp only [readField?] at h
  split at h
  · cases h
  · next nonempty =>
    cases h
    refine ⟨_, ⟨cs.takeWhile isBlank, ((cs.dropWhile isBlank).dropWhile p).takeWhile isBlank,
      ?_, ?_, ?_, ?_⟩, ?_⟩
    · exact List.all_eq_true.mp List.all_takeWhile
    · simpa using nonempty
    · exact List.all_eq_true.mp List.all_takeWhile
    · exact List.all_eq_true.mp List.all_takeWhile
    · simp only [List.append_assoc, List.takeWhile_append_dropWhile]

def Stops (cs : List Char) : Prop :=
  ∃ c rest, cs = c :: rest ∧ isNameChar c = false ∧ isBlank c = false

theorem stops_comma (rest : List Char) : Stops (',' :: rest) :=
  ⟨',', rest, rfl, by decide, by decide⟩

theorem stops_close (rest : List Char) : Stops ('\x7d' :: rest) :=
  ⟨'\x7d', rest, rfl, by decide, by decide⟩

theorem readField?_of_field {p : Char → Bool} (narrow : ∀ c, p c = true → isNameChar c = true)
    {word field rest : List Char} (h : Field p word field) (stops : Stops rest) :
    readField? p (field ++ rest) = some (word, rest) := by
  obtain ⟨before, after, leads, nonempty, chars, trails⟩ := h
  obtain ⟨c, rest, rfl, outside, blank⟩ := stops
  have stop : p c = false := by
    cases inside : p c with
    | false => rfl
    | true => simp [narrow c inside] at outside
  have apart {d : Char} (isBlank : isBlank d = true) : p d = false := by
    cases inside : p d with
    | false => rfl
    | true => simpa [narrow d inside] using not_isNameChar_of_isBlank isBlank
  have start : (before ++ (word ++ after)).dropWhile isBlank = word ++ after := by
    rw [List.dropWhile_append_of_pos leads]
    cases word with
    | nil => exact absurd rfl nonempty
    | cons d word =>
      have inWord := chars d List.mem_cons_self
      have notBlank : ¬ isBlank d = true := fun isBlank => by simp [apart isBlank] at inWord
      rw [List.cons_append, List.dropWhile_cons_of_neg notBlank]
  have noWord : after.takeWhile p = [] ∧ after.dropWhile p = after := by
    cases after with
    | nil => simp
    | cons d after => simp [apart (trails d List.mem_cons_self)]
  have alone : readField? p (before ++ (word ++ after)) = some (word, []) := by
    simp only [readField?, start, List.takeWhile_append_of_pos chars,
      List.dropWhile_append_of_pos chars, noWord]
    simpa [nonempty] using List.dropWhile_eq_nil_iff.mpr trails
  rw [readField?_append stop _ _ blank, alone]
  rfl

theorem readClose?_eq_some_iff {cs rest : List Char} :
    readClose? cs = some rest ↔ cs = '\x7d' :: '\x7d' :: rest := by
  constructor
  · intro h
    rw [readClose?.eq_def] at h
    split at h
    · cases h
      rfl
    · cases h
  · rintro rfl
    rfl

theorem readArgument?_eq_some_iff {name kind cs after : List Char} {p : Placeholder} :
    readArgument? name kind cs = some (p, after) ↔ ∃ argument tail, ArgumentPart argument tail ∧
      p = ⟨name, some kind, argument⟩ ∧ cs = tail ++ '\x7d' :: '\x7d' :: after := by
  constructor
  · intro h
    rw [readArgument?.eq_def] at h
    split at h
    · next more =>
      obtain ⟨⟨argument, others⟩, found, second⟩ := Option.bind_eq_some_iff.mp h
      obtain ⟨rest, closed, same⟩ := Option.bind_eq_some_iff.mp second
      cases same
      obtain ⟨field, word, rfl⟩ := field_of_readField? found
      obtain rfl := readClose?_eq_some_iff.mp closed
      exact ⟨some argument, ',' :: field, .present word, rfl, rfl⟩
    · obtain ⟨rest, closed, h⟩ := Option.map_eq_some_iff.mp h
      cases h
      exact ⟨none, [], .absent, rfl, readClose?_eq_some_iff.mp closed⟩
  · rintro ⟨argument, tail, part, rfl, rfl⟩
    cases part with
    | absent => rfl
    | present word =>
      rw [List.cons_append, readArgument?, readField?_of_field (fun _ => id) word (stops_close _)]
      rfl

theorem readKind?_eq_some_iff {name cs after : List Char} {p : Placeholder} :
    readKind? name cs = some (p, after) ↔ ∃ kind argument tail, KindPart kind argument tail ∧
      p = ⟨name, kind, argument⟩ ∧ cs = tail ++ '\x7d' :: '\x7d' :: after := by
  constructor
  · intro h
    rw [readKind?.eq_def] at h
    split at h
    · next more =>
      obtain ⟨⟨kind, others⟩, found, second⟩ := Option.bind_eq_some_iff.mp h
      obtain ⟨field, word, rfl⟩ := field_of_readField? found
      obtain ⟨argument, tail, part, rfl, rfl⟩ := readArgument?_eq_some_iff.mp second
      exact ⟨some kind, argument, ',' :: (field ++ tail), .present word part, rfl, by simp⟩
    · obtain ⟨rest, closed, h⟩ := Option.map_eq_some_iff.mp h
      cases h
      exact ⟨none, none, [], .absent, rfl, readClose?_eq_some_iff.mp closed⟩
  · rintro ⟨kind, argument, tail, part, rfl, rfl⟩
    cases part with
    | absent => rfl
    | @present kind field tail _ word rest =>
      have stops : Stops (tail ++ '\x7d' :: '\x7d' :: after) := by
        cases rest with
        | absent => exact stops_close _
        | present => exact stops_comma _
      have behind : readArgument? name kind (tail ++ '\x7d' :: '\x7d' :: after) =
          some (⟨name, some kind, argument⟩, after) :=
        readArgument?_eq_some_iff.mpr ⟨argument, tail, rest, rfl, rfl⟩
      rw [List.cons_append, List.append_assoc, readKind?,
        readField?_of_field (fun _ => isNameChar_of_isWord) word stops]
      exact behind

theorem readPlaceholder?_eq_some_iff {cs after : List Char} {p : Placeholder} :
    readPlaceholder? cs = some (p, after) ↔ ∃ source, Written p source ∧ cs = source ++ after := by
  constructor
  · intro h
    rw [readPlaceholder?.eq_def] at h
    split at h
    · next more =>
      obtain ⟨⟨name, others⟩, found, second⟩ := Option.bind_eq_some_iff.mp h
      obtain ⟨field, word, rfl⟩ := field_of_readField? found
      obtain ⟨kind, argument, tail, part, rfl, rfl⟩ := readKind?_eq_some_iff.mp second
      exact ⟨_, .mk word part, by simp⟩
    · cases h
  · rintro ⟨source, written, rfl⟩
    obtain @⟨field, tail, word, rest⟩ := written
    have stops : Stops (tail ++ '\x7d' :: '\x7d' :: after) := by
      generalize p.kind = kind, p.argument = argument at rest
      cases rest with
      | absent => exact stops_close _
      | present => exact stops_comma _
    have behind : readKind? p.name (tail ++ '\x7d' :: '\x7d' :: after) = some (p, after) :=
      readKind?_eq_some_iff.mpr ⟨p.kind, p.argument, tail, rest, rfl, rfl⟩
    simp only [List.cons_append, List.append_assoc, List.nil_append]
    rw [readPlaceholder?, readField?_of_field (fun _ => id) word stops]
    exact behind

/-- A text falls into placeholders and characters that stand for themselves, and no placeholder
begins at such a character. -/
inductive Splits : List Char → List Piece → Prop
  | nil : Splits [] []
  | literal {c : Char} {rest : List Char} {ps : List Piece}
      (none : ∀ p source after, Written p source → c :: rest ≠ source ++ after)
      (others : Splits rest ps) : Splits (c :: rest) (.literal c :: ps)
  | placeholder {p : Placeholder} {source rest : List Char} {ps : List Piece}
      (written : Written p source) (others : Splits rest ps) :
      Splits (source ++ rest) (.placeholder p source :: ps)

theorem pieces_of_written {p : Placeholder} {source : List Char} (written : Written p source)
    (rest : List Char) : pieces (source ++ rest) = .placeholder p source :: pieces rest := by
  rw [pieces_of_placeholder (readPlaceholder?_eq_some_iff.mpr ⟨source, written, rfl⟩)]
  simp

theorem splits_pieces (cs : List Char) : Splits cs (pieces cs) := by
  cases read : readPlaceholder? cs with
  | none =>
    cases cs with
    | nil => exact .nil
    | cons c rest =>
      rw [pieces_of_literal read]
      refine .literal ?_ (splits_pieces rest)
      intro p source after written same
      rw [readPlaceholder?_eq_some_iff.mpr ⟨source, written, same⟩] at read
      cases read
  | some found =>
    obtain ⟨p, after⟩ := found
    have shorter : after.length < cs.length := readPlaceholder?_length read
    obtain ⟨source, written, rfl⟩ := readPlaceholder?_eq_some_iff.mp read
    rw [pieces_of_written written]
    exact .placeholder written (splits_pieces after)
termination_by cs.length

theorem Splits.eq_pieces {cs : List Char} {ps : List Piece} (h : Splits cs ps) :
    ps = pieces cs := by
  induction h with
  | nil => rfl
  | @literal c rest ps none others ih =>
    have unread : readPlaceholder? (c :: rest) = Option.none := by
      cases read : readPlaceholder? (c :: rest) with
      | none => rfl
      | some found =>
        obtain ⟨source, written, same⟩ := readPlaceholder?_eq_some_iff.mp read
        exact absurd same (none _ source _ written)
    rw [pieces_of_literal unread, ih]
  | placeholder written others ih => rw [pieces_of_written written, ih]

theorem Splits.flatMap_source {cs : List Char} {ps : List Piece} (h : Splits cs ps) :
    ps.flatMap Piece.source = cs := by
  induction h with
  | nil => rfl
  | literal none others ih => simp [Piece.source, ih]
  | placeholder written others ih => simp [Piece.source, ih]

end Localization.Template
