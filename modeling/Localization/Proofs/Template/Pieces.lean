import Localization.Proofs.Value.Text
import Localization.Template.Interpolate

/-! # Pieces of a text that is put together

A placeholder holds only braces, commas, blanks and the characters of names. Any other
character ends what is read before it, so the pieces of a text are those of its parts
between such characters, and so is the text that parameters give it.
-/
namespace Localization.Template

open Text

def isBreak (c : Char) : Bool :=
  !isBlank c && !isNameChar c && c != ',' && c != '\x7b' && c != '\x7d'

structure Break (c : Char) : Prop where
  blank : isBlank c = false
  name : isNameChar c = false
  word : isWord c = false
  comma : c ≠ ','
  left : c ≠ '\x7b'
  right : c ≠ '\x7d'

theorem break_of_isBreak {c : Char} (h : isBreak c = true) : Break c := by
  simp only [isBreak, Bool.and_eq_true, Bool.not_eq_true', bne_iff_ne] at h
  obtain ⟨⟨⟨⟨blank, name⟩, comma⟩, left⟩, right⟩ := h
  refine ⟨blank, name, ?_, comma, left, right⟩
  cases word : isWord c with
  | false => rfl
  | true => simp [isNameChar, word] at name

section Stop

variable {p : Char → Bool} {c : Char} (stop : p c = false) (cs rest : List Char)

include stop

theorem takeWhile_append_stop : (cs ++ c :: rest).takeWhile p = cs.takeWhile p := by
  induction cs with
  | nil => simp [stop]
  | cons d cs ih => rw [List.cons_append, List.takeWhile_cons, List.takeWhile_cons, ih]

theorem dropWhile_append_stop : (cs ++ c :: rest).dropWhile p = cs.dropWhile p ++ c :: rest := by
  induction cs with
  | nil => simp [stop]
  | cons d cs ih =>
    rw [List.cons_append, List.dropWhile_cons, List.dropWhile_cons, ih]
    split <;> rfl

theorem readField?_append (blank : isBlank c = false) :
    readField? p (cs ++ c :: rest) = (readField? p cs).map (Prod.map id (· ++ c :: rest)) := by
  simp only [readField?, dropWhile_append_stop blank, takeWhile_append_stop stop,
    dropWhile_append_stop stop]
  split <;> rfl

end Stop

section Break

variable {c : Char} (h : Break c) (cs rest : List Char)

theorem readClose?_of_ne {d e : Char} (differ : ¬ (d = '\x7d' ∧ e = '\x7d')) (more : List Char) :
    readClose? (d :: e :: more) = none := by
  rw [readClose?.eq_def]
  split
  · next same =>
    cases same
    exact absurd ⟨rfl, rfl⟩ differ
  · rfl

theorem readArgument?_of_ne (name kind : List Char) (noComma : cs.head? ≠ some ',') :
    readArgument? name kind cs =
      (readClose? cs).map fun rest => (⟨name, some kind, none⟩, rest) := by
  rw [readArgument?.eq_def]
  split
  · exact absurd rfl noComma
  · rfl

theorem readKind?_of_ne (name : List Char) (noComma : cs.head? ≠ some ',') :
    readKind? name cs = (readClose? cs).map fun rest => (⟨name, none, none⟩, rest) := by
  rw [readKind?.eq_def]
  split
  · exact absurd rfl noComma
  · rfl

include h

theorem head?_append_ne (noComma : cs.head? ≠ some ',') : (cs ++ c :: rest).head? ≠ some ',' := by
  cases cs with
  | nil => simpa using h.comma
  | cons d cs => exact noComma

theorem readClose?_append :
    readClose? (cs ++ c :: rest) = (readClose? cs).map (· ++ c :: rest) := by
  have right := h.right
  match cs with
  | [] => simp [readClose?, right]
  | [d] => simp [readClose?, right]
  | d :: e :: cs =>
    by_cases both : d = '\x7d' ∧ e = '\x7d'
    · obtain ⟨rfl, rfl⟩ := both
      rfl
    · rw [List.cons_append, List.cons_append, readClose?_of_ne both, readClose?_of_ne both]
      rfl

theorem readArgument?_append (name kind : List Char) :
    readArgument? name kind (cs ++ c :: rest) =
      (readArgument? name kind cs).map (Prod.map id (· ++ c :: rest)) := by
  by_cases comma : cs.head? = some ','
  · obtain ⟨more, rfl⟩ := List.head?_eq_some_iff.mp comma
    rw [List.cons_append, readArgument?, readArgument?, readField?_append h.name _ _ h.blank]
    cases readField? isNameChar more with
    | none => rfl
    | some field =>
      simp only [Option.map_some, Option.bind_eq_bind, Option.bind_some, Prod.map,
        readClose?_append h]
      cases readClose? field.2 <;> rfl
  · rw [readArgument?_of_ne _ _ _ comma, readArgument?_of_ne _ _ _ (head?_append_ne h _ _ comma),
      readClose?_append h]
    cases readClose? cs <;> rfl

theorem readKind?_append (name : List Char) :
    readKind? name (cs ++ c :: rest) =
      (readKind? name cs).map (Prod.map id (· ++ c :: rest)) := by
  by_cases comma : cs.head? = some ','
  · obtain ⟨more, rfl⟩ := List.head?_eq_some_iff.mp comma
    rw [List.cons_append, readKind?, readKind?, readField?_append h.word _ _ h.blank]
    cases readField? isWord more with
    | none => rfl
    | some field => exact readArgument?_append h _ _ _ _
  · rw [readKind?_of_ne _ _ comma, readKind?_of_ne _ _ (head?_append_ne h _ _ comma),
      readClose?_append h]
    cases readClose? cs <;> rfl

/-- A placeholder ends before a break, so what follows the break does not matter for it. -/
theorem readPlaceholder?_append :
    readPlaceholder? (cs ++ c :: rest) =
      (readPlaceholder? cs).map (Prod.map id (· ++ c :: rest)) := by
  have left := h.left
  match cs with
  | [] => simp [readPlaceholder?, left]
  | [d] => simp [readPlaceholder?, left]
  | d :: e :: cs =>
    by_cases both : d = '\x7b' ∧ e = '\x7b'
    · obtain ⟨rfl, rfl⟩ := both
      rw [List.cons_append, List.cons_append, readPlaceholder?, readPlaceholder?,
        readField?_append h.name _ _ h.blank]
      cases readField? isNameChar cs with
      | none => rfl
      | some field => exact readKind?_append h _ _ _
    · have none (more : List Char) : readPlaceholder? (d :: e :: more) = none := by
        rw [readPlaceholder?.eq_def]
        split
        · next same =>
          cases same
          exact absurd ⟨rfl, rfl⟩ both
        · rfl
      rw [List.cons_append, List.cons_append, none, none]
      rfl

end Break

theorem readField?_length {p : Char → Bool} {cs : List Char} {field : List Char × List Char}
    (h : readField? p cs = some field) : field.2.length ≤ cs.length := by
  rw [readField?] at h
  split at h
  · cases h
  · cases h
    have blanks := (List.dropWhile_sublist isBlank (l := cs)).length_le
    have word := (List.dropWhile_sublist p (l := cs.dropWhile isBlank)).length_le
    have more := (List.dropWhile_sublist isBlank
      (l := (cs.dropWhile isBlank).dropWhile p)).length_le
    exact Nat.le_trans more (Nat.le_trans word blanks)

theorem readClose?_length {cs rest : List Char} (h : readClose? cs = some rest) :
    rest.length ≤ cs.length := by
  rw [readClose?.eq_def] at h
  split at h
  · cases h
    simp only [List.length_cons]
    omega
  · cases h

theorem readArgument?_length {name kind cs : List Char} {read : Placeholder × List Char}
    (h : readArgument? name kind cs = some read) : read.2.length ≤ cs.length := by
  rw [readArgument?.eq_def] at h
  split at h
  · next more =>
    obtain ⟨field, found, h⟩ := Option.bind_eq_some_iff.mp h
    obtain ⟨rest, closed, h⟩ := Option.bind_eq_some_iff.mp h
    cases h
    have inner := Nat.le_trans (readClose?_length closed) (readField?_length found)
    exact Nat.le_trans inner (Nat.le_succ _)
  · obtain ⟨rest, closed, rfl⟩ := Option.map_eq_some_iff.mp h
    exact readClose?_length closed

theorem readKind?_length {name cs : List Char} {read : Placeholder × List Char}
    (h : readKind? name cs = some read) : read.2.length ≤ cs.length := by
  rw [readKind?.eq_def] at h
  split at h
  · next more =>
    obtain ⟨field, found, h⟩ := Option.bind_eq_some_iff.mp h
    have inner := Nat.le_trans (readArgument?_length h) (readField?_length found)
    exact Nat.le_trans inner (Nat.le_succ _)
  · obtain ⟨rest, closed, rfl⟩ := Option.map_eq_some_iff.mp h
    exact readClose?_length closed

theorem readPlaceholder?_length {cs : List Char} {read : Placeholder × List Char}
    (h : readPlaceholder? cs = some read) : read.2.length < cs.length := by
  rw [readPlaceholder?.eq_def] at h
  split at h
  · next more =>
    obtain ⟨field, found, h⟩ := Option.bind_eq_some_iff.mp h
    have inner := Nat.le_trans (readKind?_length h) (readField?_length found)
    simp only [List.length_cons]
    omega
  · cases h

theorem piecesFrom_eq {steps : Nat} {cs : List Char} (le : cs.length ≤ steps) :
    piecesFrom steps cs = pieces cs := by
  suffices same : ∀ {n m : Nat} {cs : List Char}, cs.length ≤ n → cs.length ≤ m →
      piecesFrom n cs = piecesFrom m cs from same le (Nat.le_refl _)
  intro n
  induction n with
  | zero =>
    intro m cs none _
    rw [List.length_eq_zero_iff.mp (Nat.le_zero.mp none)]
    cases m <;> rfl
  | succ n ih =>
    intro m cs le enough
    cases cs with
    | nil => cases m <;> rfl
    | cons c rest =>
      obtain ⟨m, rfl⟩ : ∃ k, m = k + 1 := ⟨m - 1, by rw [List.length_cons] at enough; omega⟩
      rw [List.length_cons] at le enough
      rw [piecesFrom, piecesFrom]
      cases read : readPlaceholder? (c :: rest) with
      | none => exact congrArg _ (ih (by omega) (by omega))
      | some found =>
        have shorter := readPlaceholder?_length read
        rw [List.length_cons] at shorter
        exact congrArg _ (ih (by omega) (by omega))

theorem pieces_of_placeholder {cs after : List Char} {p : Placeholder}
    (read : readPlaceholder? cs = some (p, after)) :
    pieces cs = .placeholder p (cs.take (cs.length - after.length)) :: pieces after := by
  have shorter := readPlaceholder?_length read
  cases cs with
  | nil => cases read
  | cons c rest =>
    rw [List.length_cons] at shorter
    rw [pieces, List.length_cons, piecesFrom, read]
    exact congrArg _ (piecesFrom_eq (Nat.le_of_lt_succ shorter))

theorem pieces_of_literal {c : Char} {rest : List Char}
    (read : readPlaceholder? (c :: rest) = none) :
    pieces (c :: rest) = .literal c :: pieces rest := by
  rw [pieces, List.length_cons, piecesFrom, read]
  rfl

theorem pieces_append {c : Char} (h : Break c) (before after : List Char) :
    pieces (before ++ c :: after) = pieces before ++ .literal c :: pieces after := by
  match same : before with
  | [] =>
    have none := readPlaceholder?_append h [] after
    exact pieces_of_literal none
  | d :: rest =>
    have read := readPlaceholder?_append h (d :: rest) after
    cases found : readPlaceholder? (d :: rest) with
    | none =>
      replace read : readPlaceholder? (d :: (rest ++ c :: after)) = none := by
        rw [found] at read
        exact read
      rw [pieces_of_literal found, List.cons_append, pieces_of_literal read,
        pieces_append h rest after]
      rfl
    | some item =>
      obtain ⟨p, behind⟩ := item
      have shorter : behind.length < (d :: rest).length := readPlaceholder?_length found
      replace read : readPlaceholder? (d :: rest ++ c :: after) = some (p, behind ++ c :: after) := by
        rw [read, found]
        rfl
      have source : (d :: rest ++ c :: after).take
          ((d :: rest ++ c :: after).length - (behind ++ c :: after).length) =
          (d :: rest).take ((d :: rest).length - behind.length) := by
        rw [List.length_append, List.length_append, Nat.add_sub_add_right]
        exact List.take_append_of_le_length (Nat.sub_le _ _)
      rw [pieces_of_placeholder read, source, pieces_append h behind after,
        pieces_of_placeholder found]
      rfl
termination_by before.length
decreasing_by
  · subst same
    exact Nat.lt_succ_self _
  · subst same
    exact shorter

def NoPlaceholder (cs : List Char) : Prop := ∀ piece ∈ pieces cs, piece.name? = none

theorem pieces_of_noPlaceholder {cs : List Char} (h : NoPlaceholder cs) :
    pieces cs = cs.map .literal := by
  induction cs with
  | nil => rfl
  | cons c rest ih =>
    cases read : readPlaceholder? (c :: rest) with
    | none =>
      rw [NoPlaceholder, pieces_of_literal read] at h
      rw [pieces_of_literal read, ih fun piece inside => h piece (List.mem_cons_of_mem _ inside)]
      rfl
    | some item =>
      rw [NoPlaceholder, pieces_of_placeholder read] at h
      cases h _ List.mem_cons_self

theorem noPlaceholder_of_not_mem {cs : List Char} (h : '\x7b' ∉ cs) : NoPlaceholder cs := by
  induction cs with
  | nil =>
    intro piece inside
    cases inside
  | cons c rest ih =>
    have none : readPlaceholder? (c :: rest) = none := by
      rw [readPlaceholder?.eq_def]
      split
      · next same =>
        cases same
        exact absurd List.mem_cons_self h
      · rfl
    intro piece inside
    rw [pieces_of_literal none] at inside
    rcases List.mem_cons.mp inside with rfl | later
    · rfl
    · exact ih (fun there => h (List.mem_cons_of_mem c there)) piece later

section Fill

variable [Locale.Data] [Stack] (params : Entries) (locale key : Option String)

def fill (cs : List Char) : Except Failure (List Char) :=
  (renderPieces params locale key (pieces cs)).outcome

/-- A text with its placeholders replaced, where this succeeds. -/
def filled (cs : List Char) : List Char := (fill params locale key cs).toOption.getD []

theorem outcome_renderPieces_append (first second : List Piece) :
    (renderPieces params locale key (first ++ second)).outcome =
      (renderPieces params locale key first).outcome.bind fun a =>
        (renderPieces params locale key second).outcome.map (a ++ ·) := by
  induction first with
  | nil =>
    rw [renderPieces, List.nil_append]
    cases (renderPieces params locale key second).outcome <;> rfl
  | cons piece rest ih =>
    rw [List.cons_append, renderPieces, renderPieces]
    simp only [Attempt.outcome_bind, ih]
    cases (renderPiece params locale key piece).outcome with
    | error failure => rfl
    | ok text =>
      cases (renderPieces params locale key rest).outcome with
      | error failure => rfl
      | ok others =>
        cases (renderPieces params locale key second).outcome with
        | error failure => rfl
        | ok more => exact congrArg Except.ok (List.append_assoc text others more).symm

theorem outcome_renderPieces_literal (c : Char) (rest : List Piece) :
    (renderPieces params locale key (.literal c :: rest)).outcome =
      (renderPieces params locale key rest).outcome.map (c :: ·) := by
  rw [renderPieces, Attempt.outcome_bind]
  show ((renderPieces params locale key rest >>= fun others =>
    pure ([c] ++ others)).outcome) = _
  rw [Attempt.outcome_bind]
  cases (renderPieces params locale key rest).outcome <;> rfl

variable {params locale key}

theorem fill_of_noPlaceholder {cs : List Char} (h : NoPlaceholder cs) :
    fill params locale key cs = .ok cs := by
  rw [fill, pieces_of_noPlaceholder h]
  clear h
  induction cs with
  | nil => rfl
  | cons c rest ih =>
    rw [List.map_cons, outcome_renderPieces_literal, ih]
    rfl

theorem filled_of_noPlaceholder {cs : List Char} (h : NoPlaceholder cs) :
    filled params locale key cs = cs := by
  rw [filled, fill_of_noPlaceholder h]
  rfl

theorem filled_of_fill {cs text : List Char} (h : fill params locale key cs = .ok text) :
    filled params locale key cs = text := by
  rw [filled, h]
  rfl

theorem fill_append {c : Char} (h : Break c) {before after text : List Char}
    (result : fill params locale key (before ++ c :: after) = .ok text) :
    ∃ rest, fill params locale key after = .ok rest ∧
      text = filled params locale key before ++ c :: rest := by
  rw [fill, pieces_append h, outcome_renderPieces_append, outcome_renderPieces_literal] at result
  cases first : (renderPieces params locale key (pieces before)).outcome with
  | error failure =>
    rw [first] at result
    cases result
  | ok start =>
    rw [first] at result
    cases second : (renderPieces params locale key (pieces after)).outcome with
    | error failure =>
      rw [second] at result
      cases result
    | ok rest =>
      rw [second] at result
      cases result
      exact ⟨rest, second, by rw [filled_of_fill first]⟩

/-- A placeholder with a kind of format, or with a value that has no text. -/
def Placeholder.CanFail (params : Entries) (p : Placeholder) : Prop :=
  p.kind ≠ none ∨
    ∃ value ∈ Catalog.resolve? (.map params) (String.ofList p.name), ¬ value.HasText

theorem plainText_isOk {value : Value} (text : value.HasText) (locale : Option String) :
    (plainText value locale).outcome.isOk := by
  rw [plainText.eq_def]
  split
  · rfl
  · rfl
  · exact (Value.isOk_shown _).mpr text

theorem renderPiece_error {piece : Piece} {failure : Failure}
    (h : (renderPiece params locale key piece).outcome = .error failure) :
    ∃ p source, piece = .placeholder p source ∧ p.CanFail params := by
  cases piece with
  | literal c => cases h
  | placeholder p source =>
    refine ⟨p, source, rfl, Classical.byContradiction fun safe => ?_⟩
    obtain ⟨plain, text⟩ := not_or.mp safe
    rw [renderPiece] at h
    split at h
    · rw [Attempt.outcome_bind] at h
      cases h
    · next value found =>
      have written := Classical.byContradiction fun none => text ⟨value, found, none⟩
      have shown := plainText_isOk written locale
      rw [Attempt.outcome_bind, substitute, Classical.not_not.mp plain] at h
      dsimp only at h
      cases done : (plainText value locale).outcome with
      | error fault =>
        rw [done] at shown
        cases shown
      | ok s =>
        rw [done] at h
        cases h

theorem fill_error {cs : List Char} {failure : Failure}
    (h : fill params locale key cs = .error failure) :
    ∃ p source, .placeholder p source ∈ pieces cs ∧ p.CanFail params := by
  rw [fill] at h
  generalize pieces cs = items at h ⊢
  induction items generalizing failure with
  | nil => cases h
  | cons piece rest ih =>
    rw [renderPieces, Attempt.outcome_bind] at h
    cases first : (renderPiece params locale key piece).outcome with
    | error early =>
      obtain ⟨p, source, rfl, formatted⟩ := renderPiece_error first
      exact ⟨p, source, List.mem_cons_self, formatted⟩
    | ok text =>
      cases others : (renderPieces params locale key rest).outcome with
      | error later =>
        obtain ⟨p, source, inside, formatted⟩ := ih others
        exact ⟨p, source, List.mem_cons_of_mem piece inside, formatted⟩
      | ok more =>
        rw [first] at h
        replace h : (renderPieces params locale key rest >>= fun others =>
          pure (text ++ others)).outcome = .error failure := h
        rw [Attempt.outcome_bind, others] at h
        cases h

end Fill

end Localization.Template
