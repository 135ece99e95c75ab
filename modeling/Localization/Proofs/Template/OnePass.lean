import Localization.Proofs.Catalog.Merge
import Localization.Proofs.Template.Grammar
import Mathlib.Data.List.Basic
import Mathlib.Data.List.Induction

/-! # Interpolation is one pass

A template is split once into characters that stand for themselves and placeholders. What it gives
is put together from the texts of these pieces, and the text of a placeholder follows from the value
of its parameter, its kind of format, its argument and the locale. So what is put in is not read
again, and without parameters the template stays as it is.
-/
namespace Localization.Template

/-- The first list has each member of the second one once, in the order in which they first come. -/
structure FirstOccurrences {α : Type} [BEq α] (once all : List α) : Prop where
  nodup : once.Nodup
  mem_iff : ∀ x, x ∈ once ↔ x ∈ all
  ordered : once.Pairwise fun a b => all.idxOf a < all.idxOf b

theorem distinct_concat {α : Type} [BEq α] (items : List α) (x : α) :
    distinct (items ++ [x]) =
      if (distinct items).contains x then distinct items else distinct items ++ [x] := by
  rw [distinct, List.foldl_append]
  rfl

theorem firstOccurrences_distinct {α : Type} [BEq α] [LawfulBEq α] (items : List α) :
    FirstOccurrences (distinct items) items := by
  induction items using List.reverseRecOn with
  | nil => exact ⟨.nil, fun x => Iff.rfl, .nil⟩
  | append_singleton items x ih =>
    -- The places of what was there before stay the same.
    have ordered : (distinct items).Pairwise fun a b =>
        (items ++ [x]).idxOf a < (items ++ [x]).idxOf b := by
      refine ih.ordered.imp_of_mem ?_
      intro a b first second less
      rw [List.idxOf_append_of_mem ((ih.mem_iff a).mp first),
        List.idxOf_append_of_mem ((ih.mem_iff b).mp second)]
      exact less
    rw [distinct_concat]
    split
    · next here =>
      have inside := (ih.mem_iff x).mp (List.contains_iff_mem.mp here)
      refine ⟨ih.nodup, ?_, ordered⟩
      intro y
      rw [ih.mem_iff, List.mem_append, List.mem_singleton]
      constructor
      · exact .inl
      · rintro (old | rfl)
        · exact old
        · exact inside
    · next absent =>
      have new : x ∉ items := fun inside =>
        absent (List.contains_iff_mem.mpr ((ih.mem_iff x).mpr inside))
      constructor
      · refine List.nodup_append.mpr ⟨ih.nodup, List.pairwise_singleton _ x, ?_⟩
        rintro a inside b last rfl
        rw [List.mem_singleton.mp last] at inside
        exact new ((ih.mem_iff x).mp inside)
      · intro y
        simp [ih.mem_iff]
      · refine List.pairwise_append.mpr ⟨ordered, List.pairwise_singleton _ x, ?_⟩
        intro a inside b last
        have old := (ih.mem_iff a).mp inside
        rw [List.mem_singleton.mp last, List.idxOf_append_of_mem old,
          List.idxOf_append_of_notMem new]
        exact Nat.lt_of_lt_of_le (List.idxOf_lt_length_of_mem old) (Nat.le_add_right _ _)

variable [Locale.Data] [Stack]

def valueText (value : Value) (kind argument : Option (List Char)) (locale : Option String) :
    Except Failure (List Char) :=
  (substitute ⟨[], kind, argument⟩ value locale).outcome.map String.toList

/-- The text of a piece: a character stands for itself, and a placeholder without a value stays as
it was written. -/
def pieceText (params : Entries) (locale : Option String) : Piece → Except Failure (List Char)
  | .literal c => .ok [c]
  | .placeholder p source =>
    match Catalog.resolve? (.map params) (String.ofList p.name) with
    | none => .ok source
    | some value => valueText value p.kind p.argument locale

section Render

variable (params : Entries) (locale key : Option String)

theorem outcome_renderPiece (piece : Piece) :
    (renderPiece params locale key piece).outcome = pieceText params locale piece := by
  cases piece with
  | literal c => rfl
  | placeholder p source =>
    rw [renderPiece, pieceText]
    cases Catalog.resolve? (.map params) (String.ofList p.name) with
    | none =>
      dsimp only
      rw [Attempt.outcome_bind]
      rfl
    | some value =>
      have nameless : substitute p value locale =
          substitute ⟨[], p.kind, p.argument⟩ value locale := rfl
      dsimp only
      rw [Attempt.outcome_bind, nameless, valueText]
      cases (substitute ⟨[], p.kind, p.argument⟩ value locale).outcome <;> rfl

theorem outcome_renderPieces (ps : List Piece) :
    (renderPieces params locale key ps).outcome =
      (ps.mapM (pieceText params locale)).map List.flatten := by
  induction ps with
  | nil => rfl
  | cons piece rest ih =>
    rw [renderPieces, Attempt.outcome_bind, outcome_renderPiece, List.mapM_cons]
    cases pieceText params locale piece with
    | error failure => rfl
    | ok text =>
      show ((renderPieces params locale key rest >>= fun others =>
        pure (text ++ others)).outcome) = _
      rw [Attempt.outcome_bind, ih]
      cases rest.mapM (pieceText params locale) <;> rfl

theorem outcome_interpolate_some (template : String) :
    (interpolate template (some params) locale key).outcome =
      ((pieces template.toList).mapM (pieceText params locale)).map
        fun texts => String.ofList texts.flatten := by
  rw [interpolate, Attempt.outcome_bind, outcome_renderPieces]
  cases (pieces template.toList).mapM (pieceText params locale) <;> rfl

theorem outcome_interpolate_none (template : String) :
    (interpolate template none locale key).outcome = .ok template := by
  unfold interpolate
  dsimp only
  split
  · rw [Attempt.outcome_bind]
    rfl
  · rfl

theorem pieceText_nil (piece : Piece) : pieceText [] locale piece = .ok piece.source := by
  cases piece with
  | literal c => rfl
  | placeholder p source =>
    have absent : Catalog.resolve? (.map []) (String.ofList p.name) = none := by
      unfold Catalog.resolve?
      cases parts : Catalog.segments (String.ofList p.name) with
      | nil => simp [Catalog.segments, Text.splitString, Text.splitAt_ne_nil] at parts
      | cons first rest => exact Catalog.walk?_empty first rest
    rw [pieceText, absent]
    rfl

theorem mapM_pieceText_nil (ps : List Piece) :
    ps.mapM (pieceText [] locale) = .ok (ps.map Piece.source) := by
  induction ps with
  | nil => rfl
  | cons piece rest ih =>
    rw [List.mapM_cons, pieceText_nil, ih]
    rfl

end Render

/-- What becomes of a template, given its pieces. -/
structure OnePass (template : String) (ps : List Piece) : Prop where
  splits : Splits template.toList ps
  /-- There is no other way to split the template. -/
  only : ∀ others, Splits template.toList others → others = ps
  /-- The texts of the pieces make up the result, and it fails only with one of them. -/
  filled : ∀ params locale key, (interpolate template (some params) locale key).outcome =
    (ps.mapM (pieceText params locale)).map fun texts => String.ofList texts.flatten
  /-- Without parameters the template stays as it is, and with none in a map too. -/
  unfilled : ∀ locale key, (interpolate template none locale key).outcome = .ok template ∧
    (interpolate template (some []) locale key).outcome = .ok template
  named : FirstOccurrences (names template) ((ps.filterMap Piece.name?).map String.ofList)

/-- Every template is split in one way and filled piece by piece. -/
theorem interpolate_onePass (template : String) : OnePass template (pieces template.toList) where
  splits := splits_pieces template.toList
  only _ splits := splits.eq_pieces
  filled params locale key := outcome_interpolate_some params locale key template
  unfilled locale key := by
    refine ⟨outcome_interpolate_none locale key template, ?_⟩
    rw [outcome_interpolate_some, mapM_pieceText_nil]
    have whole := (splits_pieces template.toList).flatMap_source
    rw [List.flatMap_def] at whole
    simp [Except.map, whole]
  named := firstOccurrences_distinct _

end Localization.Template
