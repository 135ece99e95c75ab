import Localization.Locale.Table
import Localization.Proofs.Format.Kind
import Localization.Proofs.Template.Pieces
import Localization.Proofs.Translation.Resolution

/-! # Translations that fail

A translation whose handler returns fails only where a placeholder gives a value to a format that
has no text for it, or where a value has no text of its own. This is decided by the text that the
translation starts from and by the parameters. Ten to the twenty-fifth power, for one, has no text
as a number.
-/
namespace Localization

open Number

namespace Template

open Format

variable [Stack] [Locale.Data]

/-- A value that takes the place of a placeholder has a text, of its own where no kind of format is
given. -/
def Placeholder.ShowsValue (p : Placeholder) (value : Value) (locale : Option String) : Prop :=
  match p.kind with
  | some name => Shows (Kind.ofName? (some (String.ofList name))) value
      (p.argument.map String.ofList) locale
  | none => value.HasText

/-- The value that is put in for a placeholder, if there is one, has a text. -/
def Placeholder.Shown (p : Placeholder) (params : Entries) (locale : Option String) : Prop :=
  ∀ value ∈ Catalog.resolve? (.map params) (String.ofList p.name), p.ShowsValue value locale

/-- Every placeholder of a template has a text. -/
def Shown (template : String) (params : Option Entries) (locale : Option String) : Prop :=
  ∀ entries ∈ params, ∀ p source, Piece.placeholder p source ∈ pieces template.toList →
    p.Shown entries locale

/-- A date has a text of its own as well as one by the format of dates. -/
theorem plainText_isOk_iff (value : Value) (locale : Option String) :
    (plainText value locale).outcome.isOk ↔ value.HasText := by
  refine ⟨fun shown => ?_, fun text => plainText_isOk text locale⟩
  rw [← Value.isOk_shown]
  rw [plainText.eq_def] at shown
  split at shown
  · rfl
  · rfl
  · exact shown

theorem plainText_fails (value : Value) (locale : Option String) :
    FailsInFormat (plainText value locale).outcome := by
  rw [plainText.eq_def]
  split
  · exact date_fails _ locale none
  · exact date_fails _ locale none
  · exact failsInFormat_shown _

theorem substitute_isOk (p : Placeholder) (value : Value) (locale : Option String) :
    (substitute p value locale).outcome.isOk ↔ p.ShowsValue value locale := by
  rw [substitute, Placeholder.ShowsValue]
  cases p.kind with
  | none => exact plainText_isOk_iff value locale
  | some name => exact ofKind_isOk _ value _ locale

theorem substitute_fails (p : Placeholder) (value : Value) (locale : Option String) :
    FailsInFormat (substitute p value locale).outcome := by
  rw [substitute]
  split
  · exact ofKind_fails _ value _ locale
  · exact plainText_fails value locale

section Render

variable (params : Entries) (locale key : Option String)

theorem renderPiece_literal_isOk (c : Char) :
    (renderPiece params locale key (.literal c)).outcome.isOk := rfl

theorem renderPiece_placeholder_isOk (p : Placeholder) (source : List Char) :
    (renderPiece params locale key (.placeholder p source)).outcome.isOk ↔
      p.Shown params locale := by
  rw [renderPiece, Placeholder.Shown]
  cases Catalog.resolve? (.map params) (String.ofList p.name) with
  | none =>
    dsimp only
    rw [Attempt.isOk_liftM_bind, Attempt.outcome_pure]
    exact iff_of_true rfl (by simp)
  | some value =>
    rw [forall_mem_some, ← substitute_isOk, ← Attempt.isOk_bind_pure _ String.toList]

theorem renderPieces_isOk (pieces : List Piece) :
    (renderPieces params locale key pieces).outcome.isOk ↔
      ∀ piece ∈ pieces, (renderPiece params locale key piece).outcome.isOk := by
  induction pieces with
  | nil => exact iff_of_true rfl (by simp)
  | cons piece rest ih =>
    rw [renderPieces, List.forall_mem_cons]
    refine Attempt.isOk_bind fun first => ?_
    rw [← ih, Attempt.isOk_bind_pure]

theorem renderPiece_fails (piece : Piece) :
    FailsInFormat (renderPiece params locale key piece).outcome := by
  cases piece with
  | literal c => exact failsInFormat_ok _
  | placeholder p source =>
    rw [renderPiece]
    split
    · exact (failsInFormat_liftM _).andThen fun _ => failsInFormat_ok _
    · exact (substitute_fails p _ locale).andThen fun _ => failsInFormat_ok _

theorem renderPieces_fails (pieces : List Piece) :
    FailsInFormat (renderPieces params locale key pieces).outcome := by
  induction pieces with
  | nil => exact failsInFormat_ok _
  | cons piece rest ih =>
    refine (renderPiece_fails params locale key piece).andThen fun first => ?_
    exact ih.andThen fun others => failsInFormat_ok _

end Render

theorem interpolate_isOk (template : String) (params : Option Entries)
    (locale key : Option String) :
    (interpolate template params locale key).outcome.isOk ↔ Shown template params locale := by
  cases params with
  | none =>
    refine iff_of_true ?_ (by simp [Shown])
    rw [interpolate]
    split
    · rw [Attempt.isOk_liftM_bind]
      rfl
    · rfl
  | some params =>
    rw [interpolate, Attempt.isOk_bind_pure, renderPieces_isOk, Shown, forall_mem_some]
    constructor
    · intro all p source inside
      exact (renderPiece_placeholder_isOk params locale key p source).mp (all _ inside)
    · intro shown piece inside
      cases piece with
      | literal c => exact renderPiece_literal_isOk params locale key c
      | placeholder p source =>
        exact (renderPiece_placeholder_isOk params locale key p source).mpr (shown p source inside)

theorem interpolate_fails (template : String) (params : Option Entries)
    (locale key : Option String) :
    FailsInFormat (interpolate template params locale key).outcome := by
  cases params with
  | none =>
    rw [interpolate]
    split
    · exact (failsInFormat_liftM _).andThen fun _ => failsInFormat_ok _
    · exact failsInFormat_ok _
  | some params =>
    exact (renderPieces_fails params locale key _).andThen fun _ => failsInFormat_ok _

end Template

namespace Translation

section Debug

variable [Stack]

theorem debugEntry_isOk (entry : Value × Value) :
    (debugEntry entry).isOk ↔ entry.1.HasText ∧ entry.2.HasText := by
  rw [debugEntry, ← Value.isOk_shown, ← Value.isOk_shown]
  cases entry.1.shown with
  | error failure => exact iff_of_false nofun fun both => nomatch both.1
  | ok name => cases entry.2.shown <;> exact (and_iff_right rfl).symm

theorem debugText_isOk (key : String) (params : Option Entries) :
    (debugText key params).isOk ↔
      ∀ entry ∈ params.getD [], entry.1.HasText ∧ entry.2.HasText := by
  rw [debugText.eq_def]
  split
  · next none => exact iff_of_true rfl (by simp [none])
  · rw [← forall₂_congr fun entry _ => debugEntry_isOk entry, ← isOk_mapM]
    cases (params.getD []).mapM debugEntry <;> rfl

theorem debugText_fails (key : String) (params : Option Entries) :
    FailsInFormat (debugText key params) := by
  rw [debugText.eq_def]
  split
  · exact failsInFormat_ok _
  · refine (failsInFormat_mapM (fun entry => ?_) _).bind fun _ => failsInFormat_ok _
    refine (failsInFormat_shown _).bind fun name => ?_
    exact (failsInFormat_shown _).bind fun value => failsInFormat_ok _

end Debug

section Translate

variable {current fallback : String} {catalogs : Table Value} {key : String}
  {params : Option Entries} {handler : Option MissingHandler}

theorem isFirst_unique {candidates : List (String × String)} {text other : String}
    (first : IsFirst catalogs candidates text) (second : IsFirst catalogs candidates other) :
    text = other :=
  Option.some.inj
    ((findSome?_eq_some_iff.mpr first).symm.trans (findSome?_eq_some_iff.mpr second))

theorem exists_isFirst (catalogs : Table Value) (candidates : List (String × String)) :
    (∃ text, IsFirst catalogs candidates text) ∨ NoneOffers catalogs candidates := by
  cases found : candidates.findSome? (offered? catalogs) with
  | none => exact .inr (findSome?_eq_none_iff.mp found)
  | some text => exact .inl ⟨text, findSome?_eq_some_iff.mp found⟩

theorem not_isFirst {candidates : List (String × String)} (absent : NoneOffers catalogs candidates)
    (text : String) : ¬ IsFirst catalogs candidates text := by
  rintro ⟨before, candidate, after, rfl, -, offers⟩
  exact absent candidate (by simp) text offers

variable [Stack] [Locale.Data]

/-- A translation has a text exactly when all placeholders of the text that it starts from have one,
for debugging when all parameters have one, and else fails as a format does. A format has a text for
the values that its kind shows, and where no kind is known for those with a text of their own. -/
theorem translate_isOk_iff (current fallback : String) (catalogs : Table Value) (key : String)
    (params : Option Entries) (handler : Option MissingHandler) (debug : Bool)
    (normal : ∀ respond ∈ handler, ∀ k l, respond k l = .ok ()) :
    let outcome := (translate current fallback catalogs key params handler debug).outcome
    (outcome.isOk ↔
      if debug then ∀ entry ∈ params.getD [], entry.1.HasText ∧ entry.2.HasText
      else ∀ text, IsFirst catalogs (allCandidates current fallback key params) text →
        Template.Shown text params (some current)) ∧
    FailsInFormat outcome ∧
    ∀ kind value argument locale, (Format.ofKind kind value argument locale).outcome.isOk ↔
      Format.Shows kind value argument locale := by
  refine ⟨?_, ?_, Format.ofKind_isOk⟩
  · cases debug with
    | true => exact debugText_isOk key params
    | false =>
      rw [if_neg Bool.false_ne_true]
      obtain ⟨text, first⟩ | absent :=
        exists_isFirst catalogs (allCandidates current fallback key params)
      · rw [outcome_translate_of_first normal first, Template.interpolate_isOk]
        constructor
        · intro shown other second
          exact isFirst_unique first second ▸ shown
        · intro all
          exact all text first
      · rw [outcome_translate_of_none normal absent]
        exact iff_of_true rfl fun text first => absurd first (not_isFirst absent text)
  · cases debug with
    | true => exact debugText_fails key params
    | false =>
      obtain ⟨text, first⟩ | absent :=
        exists_isFirst catalogs (allCandidates current fallback key params)
      · rw [outcome_translate_of_first normal first]
        exact Template.interpolate_fails text params _ _
      · rw [outcome_translate_of_none normal absent]
        exact failsInFormat_ok _

end Translate

section Total

open Stack Locale.Excerpt

def totalMessages : Table Value :=
  [("en", .map [(.text "total", .text "\x7b\x7bsum, number\x7d\x7d")])]

def sumParams (n : Int) : Entries := [(.text "sum", .int n)]

theorem resolve_sum (n : Int) : Catalog.resolve? (.map (sumParams n)) "sum" = some (.int n) := by
  have path : Catalog.segments "sum" = ["sum"] := by decide +kernel
  have safe : Catalog.isUnsafe "sum" = false := by decide +kernel
  have held : (sumParams n).get? (.text "sum") = some (.int n) := by
    rw [sumParams, Entries.get?_cons, if_pos ((Value.sameKey_text _ _).mpr rfl)]
  have child : Catalog.child? (.map (sumParams n)) "sum" = some (.int n) :=
    Catalog.child?_eq_some.mpr ⟨safe, nofun, _, rfl, held⟩
  rw [Catalog.resolve?, path, Catalog.walk?, child]
  rfl

theorem shown_sum {n : Int} (small : n.natAbs * 10 ^ 3 < 10 ^ 28) :
    Template.Shown "\x7b\x7bsum, number\x7d\x7d" (some (sumParams n)) (some "en") := by
  have pieces : Template.pieces "\x7b\x7bsum, number\x7d\x7d".toList =
      [.placeholder ⟨"sum".toList, some "number".toList, none⟩
        "\x7b\x7bsum, number\x7d\x7d".toList] := by
    decide +kernel
  have number : Format.Kind.ofName? (some "number") = some .number := by decide +kernel
  have style : Format.numberStyle none = .decimal := by decide +kernel
  rintro _ ⟨⟩ p source inside
  rw [pieces, List.mem_singleton] at inside
  cases inside
  have places : (Format.conventionsFor (some "en")).value.decimal.maxFraction = 3 := by
    decide +kernel
  intro value found
  rw [String.ofList_toList, resolve_sum] at found
  cases found
  rw [Template.Placeholder.ShowsValue]
  dsimp only
  rw [String.ofList_toList, number]
  refine ⟨nofun, ?_⟩
  rintro d ⟨⟩
  rw [Option.map_none, style, Format.NumberStyle.Accepts, places]
  exact (Decimal.fits_ofInt_iff n 3).mpr small

/-- The largest whole number that has a text with three places for a fraction. -/
theorem translate_largest_number :
    (translate "en" "en" totalMessages "total" (some (sumParams 9999999999999999999999999))
      (some fun _ _ => .ok ()) false).outcome.isOk := by
  have normal : ∀ respond ∈ some fun (_ _ : String) => (Except.ok () : Except Failure Unit),
      ∀ k l, respond k l = .ok () := by
    rintro _ ⟨⟩ _ _
    rfl
  have template : (allCandidates "en" "en" "total"
      (some (sumParams 9999999999999999999999999))).findSome? (offered? totalMessages) =
        some "\x7b\x7bsum, number\x7d\x7d" := by decide +kernel
  obtain ⟨succeeds, -⟩ := translate_isOk_iff "en" "en" totalMessages "total"
    (some (sumParams 9999999999999999999999999)) (some fun _ _ => .ok ()) false normal
  refine succeeds.mpr fun text first => ?_
  obtain rfl := Option.some.inj (template.symm.trans (findSome?_eq_some_iff.mpr first))
  exact shown_sum (by decide)

def fault? {α : Type} : Except Failure α → Option ArithmeticFault
  | .error (.arithmetic fault) => some fault
  | _ => none

theorem eq_error_of_fault? {α : Type} {outcome : Except Failure α} {fault : ArithmeticFault}
    (found : fault? outcome = some fault) : outcome = .error (.arithmetic fault) := by
  match outcome with
  | .error (.arithmetic other) =>
    cases found
    rfl

theorem translate_number_out_of_range :
    (translate "en" "en" totalMessages "total" (some (sumParams 10000000000000000000000000)) none
      false).outcome = .error (.arithmetic .invalid) :=
  eq_error_of_fault? (by decide +kernel)

end Total

end Translation

end Localization
