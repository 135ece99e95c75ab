import Localization.Locale.Table
import Localization.Proofs.Markup.Unreadable
import Localization.Proofs.Template.Pieces
import Localization.Proofs.Trace
import Localization.Translation.Service

/-! # Parameters in translations with markup

Parameters are put into a template before the translation is segmented. The translation has
the slots of its template exactly when what is put in neither begins a slot in a plain text
nor closes one in its content. Parameters that do so bring in slots of their own.
-/
namespace Localization

open Template

namespace Markup.Layout

variable [Locale.Data] [Stack] {params : Entries} {locale key : Option String}

theorem fill_source {l : Layout}
    (outside : ∀ slot ∈ l.slots, NoPlaceholder (slot.name ++ slot.attributes)) {text : List Char}
    (h : fill params locale key l.source = .ok text) :
    text = (l.map (filled params locale key)).source := by
  have left : Break '<' := break_of_isBreak (by decide)
  have right : Break '>' := break_of_isBreak (by decide)
  induction l generalizing text with
  | last plain => exact (filled_of_fill h).symm
  | next plain slot rest ih =>
    have inTag := outside slot List.mem_cons_self
    have inClosing : NoPlaceholder ('/' :: slot.closing) := by
      refine noPlaceholder_of_not_mem ?_
      have absent := slot.isClosing.not_mem (c := '\x7b') (by decide)
      simpa using absent
    have written : (next plain slot rest).source =
        plain ++ '<' :: ((slot.name ++ slot.attributes) ++ '>' ::
          (slot.content ++ '<' :: (('/' :: slot.closing) ++ '>' :: rest.source))) := by
      simp [source, WrittenSlot.inner]
    rw [written] at h
    -- The four breaks cut the text into a plain text, a tag, a content, a tag and the rest.
    obtain ⟨afterText, inner, same⟩ := fill_append left h
    obtain ⟨afterTag, body, rfl⟩ := fill_append right inner
    obtain ⟨afterContent, closing, rfl⟩ := fill_append left body
    obtain ⟨others, last, rfl⟩ := fill_append right closing
    rw [same, filled_of_noPlaceholder inTag, filled_of_noPlaceholder inClosing,
      ih (fun other inside => outside other (List.mem_cons_of_mem slot inside)) last]
    simp [map, source, WrittenSlot.inner]

end Markup.Layout

namespace Translation

open Markup

theorem outcome_translate [Locale.Data] [Stack] {t : Translator} {key : String} {params : Entries}
    {locale : Option String} {template : String} (plain : t.debug = false)
    (found : (findTemplate (t.localeFor locale) t.fallback t.catalogs key (some params)
      t.handler).outcome = .ok (some template)) :
    (t.translate key (some params) locale).outcome =
      (fill params (some (t.localeFor locale)) (some key) template.toList).map String.ofList := by
  rw [Translator.translate, translate, plain, if_neg Bool.false_ne_true, Attempt.outcome_bind,
    found]
  show (interpolate template (some params) (some (t.localeFor locale)) (some key)).outcome = _
  rw [interpolate, Attempt.outcome_bind, fill]
  cases (renderPieces params (some (t.localeFor locale)) (some key)
    (pieces template.toList)).outcome <;> rfl

namespace Service

theorem heads_template (capacity : Nat) (uses : List Use) {l : Layout} {template : String}
    (laid : l.source = template.toList) (intact : l.Intact)
    (short : l.source.length ≤ maxTextLength)
    {f : List Char → List Char} {segments : List Segment}
    (own : (l.map f).segments = .ok segments) :
    ((((Segmenter.fresh capacity).afterUses uses).segment template.toList).value.1.map
      Parsed.segments).map (List.filterMap Segment.head?) =
      .ok (segments.filterMap Segment.head?) := by
  rw [Segmenter.segments_segment, ← laid, Segmenter.segmentsOf_of_le short,
    Layout.plainSegments_source intact, ← l.heads_map f, own]
  rfl

/-- What a slot is rendered as, its content aside. -/
inductive Role where
  | rendered (render : Renderer) (attributes : Option Attributes)
  | element (name : List Char) (attributes : Option Attributes)

def Role.render : Role → List Char → Except Failure (List Char)
  | rendered render attributes, content => render content attributes
  | element name attributes, content => .ok (elementText name (attributes.getD []) content)

def roleOf? (renderers : Renderers) (head : List Char × Option Attributes) : Option Role :=
  match renderers.get? head.1 with
  | some render => some (.rendered render head.2)
  | none => if isSafeTag head.1 then some (.element head.1 head.2) else none

def roles (renderers : Renderers) (segments : List Segment) : List Role :=
  (segments.filterMap Segment.head?).filterMap (roleOf? renderers)

/-- A segment without a role is escaped. -/
theorem renderSegment_eq_role (renderers : Renderers) (segment : Segment) :
    renderSegment renderers segment = match segment.head?.bind (roleOf? renderers) with
      | some role => role.render segment.content
      | none => .ok (escape segment.content) := by
  cases segment with
  | text content => rfl
  | slot name attributes content =>
    rw [renderSegment, Segment.head?, Option.bind_some, roleOf?]
    cases renderers.get? name with
    | some render => rfl
    | none => cases safe : isSafeTag name <;> rfl

section Translator

variable [Locale.Data] [Stack] (t : Translator) (capacity : Nat) (uses : List Use) {key : String}
  {params : Entries} {locale : Option String} {template : String}

theorem value_segment (plain : t.debug = false)
    (found : (findTemplate (t.localeFor locale) t.fallback t.catalogs key (some params)
      t.handler).outcome = .ok (some template)) :
    ((Service.mk t ((Segmenter.fresh capacity).afterUses uses)).segment key (some params)
      locale).value.1 =
      (fill params (some (t.localeFor locale)) (some key) template.toList).bind
        Segmenter.segmentsOf := by
  have translated : Traced.value (t.translate key (some params) locale).run =
      (fill params (some (t.localeFor locale)) (some key) template.toList).map String.ofList :=
    outcome_translate plain found
  rw [segment, Traced.value_bind, translated]
  cases fill params (some (t.localeFor locale)) (some key) template.toList with
  | error failure => rfl
  | ok cs =>
    have segments := Segmenter.segments_segment capacity uses (String.ofList cs).toList
    exact segments.trans (congrArg Segmenter.segmentsOf String.toList_ofList)

section Filled

variable {t} {l : Layout} (plain : t.debug = false)
  (found : (findTemplate (t.localeFor locale) t.fallback t.catalogs key (some params)
    t.handler).outcome = .ok (some template))
  (laid : l.source = template.toList) (intact : l.Intact)
  (outside : ∀ slot ∈ l.slots, NoPlaceholder (slot.name ++ slot.attributes))
  (short : l.source.length ≤ maxTextLength)
  (shortResult : (l.map (filled params (some (t.localeFor locale)) (some key))).source.length ≤
    maxTextLength)

include plain found laid outside shortResult in
theorem segment_filled {segments : List Segment}
    (given : ((Service.mk t ((Segmenter.fresh capacity).afterUses uses)).segment key (some params)
      locale).value.1 = .ok segments) :
    (plainSegments (l.map (filled params (some (t.localeFor locale)) (some key))).source).outcome =
      .ok segments := by
  rw [value_segment t capacity uses plain found] at given
  obtain ⟨text, fills, read⟩ := bind_eq_ok_iff.mp given
  obtain rfl := l.fill_source outside (laid ▸ fills)
  rwa [Segmenter.segmentsOf_of_le shortResult] at read

/-- Let a template be laid out so that its tags hold no placeholder. Where its translation has
segments, they are those of the template with what is put in between them exactly when this leaves
the layout intact, as it does whenever no `<` stands outside the tags. -/
theorem segment_filled_iff {l : Layout} (plain : t.debug = false)
    (found : (findTemplate (t.localeFor locale) t.fallback t.catalogs key (some params)
      t.handler).outcome = .ok (some template))
    (laid : l.source = template.toList) (intact : l.Intact)
    (outside : ∀ slot ∈ l.slots, NoPlaceholder (slot.name ++ slot.attributes))
    (short : l.source.length ≤ maxTextLength)
    (shortResult : (l.map (filled params (some (t.localeFor locale)) (some key))).source.length ≤
      maxTextLength) :
    let service := Service.mk t ((Segmenter.fresh capacity).afterUses uses)
    let result := l.map (filled params (some (t.localeFor locale)) (some key))
    (∀ segments, (service.segment key (some params) locale).value.1 = .ok segments →
      (result.segments = .ok segments ↔ result.Intact) ∧
        (result.Intact → ((service.segmenter.segment template.toList).value.1.map
          Parsed.segments).map (List.filterMap Segment.head?) =
            .ok (segments.filterMap Segment.head?)) ∧
        ((∀ part ∈ result.parts, '<' ∉ part) → result.Intact)) ∧
      ∀ failure, (service.segment key (some params) locale).value.1 = .error failure →
        (∃ p source, .placeholder p source ∈ pieces template.toList ∧ p.CanFail params) ∨
          OfLongNumber failure := by
  intro service result
  refine ⟨fun segments given => ?_, fun failure failed => ?_⟩
  · have read := segment_filled capacity uses plain found laid outside shortResult given
    have own (still : result.Intact) : result.segments = .ok segments :=
      (Layout.plainSegments_source still).symm.trans read
    refine ⟨⟨fun same => (Layout.plainSegments_source_iff same).mp read, own⟩, fun still => ?_,
      Layout.intact_of_parts⟩
    exact heads_template capacity uses laid intact short (own still)
  · rw [value_segment t capacity uses plain found] at failed
    cases fills : fill params (some (t.localeFor locale)) (some key) template.toList with
    | error fault => exact .inl (fill_error fills)
    | ok text =>
      rw [fills] at failed
      exact .inr (Segmenter.segmentsOf_error failed)

include plain found laid intact outside short shortResult in
/-- What is put in changes neither the renderers that are called, nor what attributes they are given,
nor the elements, as long as it leaves the layout intact. -/
theorem translateRich_filled (renderers : Renderers)
    (still : (l.map (filled params (some (t.localeFor locale)) (some key))).Intact)
    {segments : List Segment} :
    let service := Service.mk t ((Segmenter.fresh capacity).afterUses uses)
    (service.segment key (some params) locale).value.1 = .ok segments →
      (service.translateRich key (some params) renderers locale).value.1 =
          renderSegments renderers segments ∧
        ((service.segmenter.segment template.toList).value.1.map Parsed.segments).map
          (roles renderers) = .ok (roles renderers segments) := by
  intro service given
  have read := segment_filled capacity uses plain found laid outside shortResult given
  rw [Layout.plainSegments_source still] at read
  obtain ⟨own, whole, same⟩ :=
    map_eq_ok_iff.mp (heads_template capacity uses laid intact short read)
  refine ⟨?_, ?_⟩
  · rw [translateRich, Traced.value_bind]
    show ((service.segment key (some params) locale).value.1).bind _ = _
    rw [given]
    rfl
  · rw [whole]
    refine congrArg Except.ok ?_
    rw [roles, roles, same]

end Filled

end Translator

open Stack Locale.Excerpt

def greeter : Translator where
  catalogs := [("en", .map [(.text "unsafe", .text "Hi <i>\x7b\x7bname\x7d\x7d</i>")])]
  locale := "en"
  fallback := "en"
  debug := false
  loader := none
  handler := none

def greeting : Layout :=
  .next "Hi ".toList
    { name := ['i']
      attributes := []
      content := "\x7b\x7bname\x7d\x7d".toList
      closing := ['i']
      isName := ⟨⟨'i', [], rfl, by decide⟩, List.forall_mem_singleton.mpr (by decide)⟩
      ends := by decide
      noEnd := by decide
      isClosing := ⟨⟨'i', [], rfl, by decide⟩, List.forall_mem_singleton.mpr (by decide)⟩
      sameName := rfl }
    (.last [])

theorem greeting_intact : greeting.Intact := Layout.intact_of_parts (by decide)

theorem greeting_outside : ∀ slot ∈ greeting.slots, NoPlaceholder (slot.name ++ slot.attributes) := by
  intro slot inside
  rw [List.mem_singleton.mp inside]
  exact noPlaceholder_of_not_mem (by decide)

def plainName : Entries := [(.text "name", .text "A & B")]

def greeted : Layout :=
  greeting.map (filled plainName (some (greeter.localeFor none)) (some "unsafe"))

theorem plainName_keeps_slot :
    ((Service.mk greeter ((Segmenter.fresh parseCapacity).afterUses [])).segment "unsafe"
        (some plainName) none).value.1 =
        .ok [.text "Hi ".toList, .slot ['i'] none "A & B".toList] ∧
      greeted.Intact ∧
      greeted.segments = .ok [.text "Hi ".toList, .slot ['i'] none "A & B".toList] := by
  have found : (findTemplate (greeter.localeFor none) greeter.fallback greeter.catalogs "unsafe"
      (some plainName) greeter.handler).outcome = .ok (some (String.ofList greeting.source)) :=
    ok_of_toOption (by decide +kernel)
  have laid : greeting.source = (String.ofList greeting.source).toList := String.toList_ofList.symm
  have noTag : ∀ part ∈ greeted.parts, '<' ∉ part := by decide +kernel
  have short : greeting.source.length ≤ maxTextLength := by decide
  have shortResult : greeted.source.length ≤ maxTextLength := by decide +kernel
  have result : ((Service.mk greeter ((Segmenter.fresh parseCapacity).afterUses [])).segment
      "unsafe" (some plainName) none).value.1 =
      .ok [.text "Hi ".toList, .slot ['i'] none "A & B".toList] :=
    ok_of_toOption (by decide +kernel)
  obtain ⟨spec, -⟩ := @segment_filled_iff _ _ greeter parseCapacity [] "unsafe" plainName none
    (String.ofList greeting.source) greeting rfl found laid greeting_intact greeting_outside short
    shortResult
  obtain ⟨same, -, keeps⟩ := spec _ result
  have intact : greeted.Intact := keeps noTag
  exact ⟨result, intact, same.mpr intact⟩

/-- A name that closes the slot around it and begins another one. -/
def closingName : Entries := [(.text "name", .text "</i><b>x</b>")]

theorem closingName_brings_slot :
    let service := Service.ofTranslator greeter
    (findTemplate "en" "en" greeter.catalogs "unsafe" (some closingName) none).outcome =
        .ok (some (String.ofList greeting.source)) ∧
      greeting.Intact ∧
      (∀ slot ∈ greeting.slots, NoPlaceholder (slot.name ++ slot.attributes)) ∧
      ∃ segments, (service.segment "unsafe" (some closingName) none).value.1 = .ok segments ∧
        segments.filterMap Segment.head? = [(['i'], none), (['b'], none)] ∧
        ((service.segmenter.segment greeting.source).value.1.map Parsed.segments).map
          (List.filterMap Segment.head?) = .ok [(['i'], none)] := by
  refine ⟨ok_of_toOption (by decide +kernel), greeting_intact, greeting_outside,
    [.text "Hi ".toList, .slot ['i'] none [], .slot ['b'] none ['x'], .text "</i>".toList],
    ok_of_toOption (by decide +kernel), rfl, rfl⟩

end Service

end Translation

end Localization
