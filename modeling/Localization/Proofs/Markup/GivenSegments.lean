import Mathlib.Data.List.Forall2
import Localization.Proofs.Markup.SafeOutput
import Localization.Proofs.Text.Folding

/-! # Segments that a caller gives

A caller may give segments of its own, with any names. Without renderers a slot of an allowed name,
whatever the case of its ASCII letters, becomes an element with allowed attributes, and any other
slot its escaped content. The test of names goes by lower case in every script while the element
has the name as it is given, so one more name passes: a mark whose last letter is a Kelvin sign.
-/
namespace Localization.Markup

open Text

/-- A name of an allowed element up to the case of its ASCII letters. -/
def IsAllowedName (name : List Char) : Prop := String.ofList (lowerName name) ∈ safeTags

def IsKelvinMark (name : List Char) : Prop := lowerName name = ['m', 'a', 'r', kelvinSign]

theorem safeTags_ascii : ∀ tag ∈ safeTags, ∀ c ∈ tag.toList, c.toNat < 128 := by
  have all : ∀ tag ∈ safeTags, tag.toList.all (fun c => c.toNat < 128) = true := by decide
  exact fun tag isTag c inside => of_decide_eq_true (List.all_eq_true.mp (all tag isTag) c inside)

theorem eq_mark_of_mem : ∀ tag ∈ safeTags, 'k' ∈ tag.toList → tag = "mark" := by decide

theorem isSafeTag_iff_map {name : List Char} :
    isSafeTag name = true ↔
      ∃ tag ∈ safeTags, (lowerName name).map plainLetter = tag.toList := by
  rw [isSafeTag, List.contains_iff_mem]
  constructor
  · intro inside
    refine ⟨_, inside, (lower_eq_iff_of_ascii (safeTags_ascii _ inside)).mp ?_⟩
    rw [String.toList_ofList]
  · rintro ⟨tag, inside, same⟩
    rw [(lower_eq_iff_of_ascii (safeTags_ascii tag inside)).mpr same, String.ofList_toList]
    exact inside

theorem isKelvinMark_of_map {name : List Char} {tag : String} (isTag : tag ∈ safeTags)
    (same : (lowerName name).map plainLetter = tag.toList) (inside : kelvinSign ∈ lowerName name) :
    IsKelvinMark name := by
  have letter : 'k' ∈ tag.toList := same ▸ List.mem_map_of_mem (f := plainLetter) inside
  obtain rfl := eq_mark_of_mem tag isTag letter
  have same : (lowerName name).map plainLetter = 'm' :: ['a', 'r', 'k'] := same
  obtain ⟨m, rest, written, first, same⟩ := List.map_eq_cons_iff.mp same
  obtain ⟨a, rest, rfl, second, same⟩ := List.map_eq_cons_iff.mp same
  obtain ⟨r, rest, rfl, third, same⟩ := List.map_eq_cons_iff.mp same
  obtain ⟨k, rest, rfl, -, same⟩ := List.map_eq_cons_iff.mp same
  obtain rfl := List.map_eq_nil_iff.mp same
  obtain rfl := plainLetter_eq first (by decide)
  obtain rfl := plainLetter_eq second (by decide)
  obtain rfl := plainLetter_eq third (by decide)
  rw [written] at inside
  have last : kelvinSign = k := by simpa [kelvinSign] using inside
  rw [IsKelvinMark, written, last]

theorem isSafeTag_iff {name : List Char} :
    isSafeTag name = true ↔ IsAllowedName name ∨ IsKelvinMark name := by
  rw [isSafeTag_iff_map]
  constructor
  · rintro ⟨tag, isTag, same⟩
    by_cases inside : kelvinSign ∈ lowerName name
    · exact .inr (isKelvinMark_of_map isTag same inside)
    · rw [map_plainLetter inside] at same
      rw [IsAllowedName, same, String.ofList_toList]
      exact .inl isTag
  · rintro (allowed | kelvin)
    · refine ⟨_, allowed, ?_⟩
      rw [String.toList_ofList]
      refine map_plainLetter fun inside => ?_
      have ascii := safeTags_ascii _ allowed kelvinSign (by rwa [String.toList_ofList])
      exact absurd ascii (by decide)
    · rw [IsKelvinMark] at kelvin
      exact ⟨"mark", by decide, by rw [kelvin]; decide⟩

theorem not_isAllowedName_of_isKelvinMark {name : List Char} (h : IsKelvinMark name) :
    ¬ IsAllowedName name := by
  rw [IsAllowedName, h]
  decide

/-- An element with an allowed name up to case, with allowed attributes and escaped content. -/
def Element.Allowed (e : Element) : Prop := Safe { e with tag := lowerName e.tag }

/-- What a segment may contribute without renderers. -/
inductive Contributes : Segment → List Char → Prop
  | text (content : List Char) : Contributes (.text content) (escape content)
  | element {e : Element} (allowed : e.Allowed) (attributes : Option Attributes)
      (content : List Char) (same : e.content = escape content) :
      Contributes (.slot e.tag attributes content) e.text
  | content {name : List Char} (other : ¬ IsAllowedName name) (attributes : Option Attributes)
      (content : List Char) : Contributes (.slot name attributes content) (escape content)

theorem allowed_slotElement {name : List Char} (isName : IsAllowedName name)
    (attributes : Option Attributes) (content : List Char) :
    (slotElement name attributes content).Allowed :=
  slotElement_safe isName attributes content

/-- A slot under the name of a mark with a Kelvin sign. -/
def Segment.IsKelvin : Segment → Prop
  | .text _ => False
  | .slot name _ _ => IsKelvinMark name

theorem renderSegment_slot (name : List Char) (attributes : Option Attributes)
    (content : List Char) :
    renderSegment (.ofList []) (.slot name attributes content) =
      .ok (if isSafeTag name then (slotElement name attributes content).text
        else escape content) := by
  rw [renderSegment, ← elementText_eq]
  cases isSafeTag name <;> rfl

/-- A slot of an allowed name contributes an element of this name, and any other slot its escaped
content, unless its name has the Kelvin sign. -/
theorem contributes_iff {segment : Segment} {piece : List Char}
    (rendered : renderSegment (.ofList []) segment = .ok piece) :
    Contributes segment piece ↔ ¬ segment.IsKelvin := by
  cases segment with
  | text content =>
    cases rendered
    exact ⟨fun _ => not_false, fun _ => .text content⟩
  | slot name attributes content =>
    rw [renderSegment_slot] at rendered
    obtain rfl := Except.ok.inj rendered
    constructor
    · intro contributes kelvin
      rw [if_pos (isSafeTag_iff.mpr (.inr kelvin))] at contributes
      generalize written : (slotElement name attributes content).text = piece at contributes
      cases contributes with
      | element allowed => exact not_isAllowedName_of_isKelvinMark kelvin allowed.tag
      | content =>
        have mark : '<' ∈ escape content := written ▸ List.mem_cons_self
        exact ((isEscaped_escape content).noMark '<' mark).1 rfl
    · intro other
      by_cases allowed : IsAllowedName name
      · rw [if_pos (isSafeTag_iff.mpr (.inl allowed))]
        exact .element (e := slotElement name attributes content)
          (allowed_slotElement allowed attributes content) attributes content rfl
      · rw [if_neg (mt isSafeTag_iff.mp (not_or.mpr ⟨allowed, other⟩))]
        exact .content allowed attributes content

theorem exists_pieces (segments : List Segment) : ∃ pieces : List (List Char),
    renderSegments (.ofList []) segments = .ok pieces.flatten ∧
      List.Forall₂ (fun segment piece => renderSegment (.ofList []) segment = .ok piece)
        segments pieces := by
  induction segments with
  | nil => exact ⟨[], rfl, .nil⟩
  | cons segment rest ih =>
    obtain ⟨pieces, joined, each⟩ := ih
    obtain ⟨piece, rendered⟩ : ∃ piece, renderSegment (.ofList []) segment = .ok piece := by
      cases segment with
      | text content => exact ⟨_, rfl⟩
      | slot name attributes content => exact ⟨_, renderSegment_slot name attributes content⟩
    exact ⟨piece :: pieces, by simp [renderSegments, rendered, joined], .cons rendered each⟩

/-- Whatever segments are given, without renderers they are put out piece by piece, and every piece
is escaped text or an allowed element unless some slot is named a mark with a Kelvin sign. -/
theorem given_segments_contribute_iff (segments : List Segment) : ∃ pieces : List (List Char),
    renderSegments (.ofList []) segments = .ok pieces.flatten ∧
      List.Forall₂ (fun segment piece => renderSegment (.ofList []) segment = .ok piece)
        segments pieces ∧
      (List.Forall₂ Contributes segments pieces ↔ ∀ segment ∈ segments, ¬ segment.IsKelvin) := by
  obtain ⟨pieces, joined, each⟩ := exists_pieces segments
  refine ⟨pieces, joined, each, ?_⟩
  clear joined
  induction each with
  | nil => simp
  | cons rendered each ih =>
    rw [List.forall₂_cons, contributes_iff rendered, ih, List.forall_mem_cons]

/-- A mark with a Kelvin sign becomes an element of that name. -/
theorem kelvinMark_becomes_element :
    let slot : Segment := .slot "mar\u212a".toList none ['x']
    renderSegments (.ofList []) [slot] = .ok "<mar\u212a>x</mar\u212a>".toList ∧
      ¬ IsAllowedName "mar\u212a".toList ∧
      ¬ Contributes slot "<mar\u212a>x</mar\u212a>".toList := by
  intro slot
  have kelvin : slot.IsKelvin := by
    show lowerName "mar\u212a".toList = _
    decide
  have safe : isSafeTag "mar\u212a".toList = true := isSafeTag_iff.mpr (.inr kelvin)
  have rendered : renderSegment (.ofList []) slot = .ok "<mar\u212a>x</mar\u212a>".toList := by
    rw [renderSegment_slot, safe]
    rfl
  refine ⟨?_, not_isAllowedName_of_isKelvinMark kelvin, fun contributes => ?_⟩
  · rw [renderSegments, rendered]
    rfl
  · exact (contributes_iff rendered).mp contributes kelvin

end Localization.Markup
