import Localization.Proofs.Markup.Unreadable

/-! # The output is safe

Rich text is put out segment by segment, as escaped text, as an element with allowed
attributes, or as what a caller's renderer returns. Nothing else of the source reaches the
output, so without renderers it has no markup but allowed elements.
-/
namespace Localization.Markup

open Text

def writtenReferences : List String := ["&amp;", "&lt;", "&gt;", "&quot;", "&#039;"]

/-- Text without markup: every ampersand begins a written reference. -/
structure IsEscaped (cs : List Char) : Prop where
  noMark : ∀ c ∈ cs, c ≠ '<' ∧ c ≠ '>' ∧ c ≠ '"' ∧ c ≠ '\''
  references : ∀ rest, '&' :: rest <:+ cs →
    ∃ reference ∈ writtenReferences, reference.toList <+: '&' :: rest

theorem isEscaped_nil : IsEscaped [] := by
  constructor
  · intro c inside
    cases inside
  · intro rest last
    cases List.suffix_nil.mp last

theorem IsEscaped.append {a b : List Char} (ha : IsEscaped a) (hb : IsEscaped b) :
    IsEscaped (a ++ b) := by
  constructor
  · intro c inside
    rcases List.mem_append.mp inside with left | right
    · exact ha.noMark c left
    · exact hb.noMark c right
  · rintro rest ⟨before, whole⟩
    rcases List.append_eq_append_iff.mp whole with ⟨more, rfl, same⟩ | ⟨more, -, rfl⟩
    · cases more with
      | nil => exact hb.references rest ⟨[], same⟩
      | cons c more =>
        obtain ⟨rfl, rfl⟩ := List.cons.inj same
        obtain ⟨reference, written, first⟩ := ha.references more ⟨before, rfl⟩
        exact ⟨reference, written, first.trans ⟨b, rfl⟩⟩
    · exact hb.references rest ⟨more, rfl⟩

theorem isEscaped_escapeChar (c : Char) : IsEscaped (escapeChar c) := by
  have reference {text : String} (written : text ∈ writtenReferences)
      (marks : (text.toList.all fun d => d != '<' && d != '>' && d != '"' && d != '\'') = true)
      (once : ∀ rest, '&' :: rest <:+ text.toList → '&' :: rest = text.toList) :
      IsEscaped text.toList :=
    ⟨fun d inside => by simpa [and_assoc] using List.all_eq_true.mp marks d inside,
      fun rest last => ⟨text, written, once rest last ▸ List.prefix_refl _⟩⟩
  rw [escapeChar]
  split
  · exact reference (by decide) (by decide) (by simp [List.suffix_cons_iff])
  split
  · exact reference (by decide) (by decide) (by simp [List.suffix_cons_iff])
  split
  · exact reference (by decide) (by decide) (by simp [List.suffix_cons_iff])
  split
  · exact reference (by decide) (by decide) (by simp [List.suffix_cons_iff])
  split
  · exact reference (by decide) (by decide) (by simp [List.suffix_cons_iff])
  · next amp lt gt quote apostrophe =>
    constructor
    · intro d inside
      rw [List.mem_singleton.mp inside]
      exact ⟨lt, gt, quote, apostrophe⟩
    · intro rest last
      have same := List.suffix_cons_iff.mp last
      simp [Ne.symm amp] at same

theorem isEscaped_escape (cs : List Char) : IsEscaped (escape cs) := by
  induction cs with
  | nil => exact isEscaped_nil
  | cons c rest ih => exact (isEscaped_escapeChar c).append ih

structure Element where
  tag : List Char
  attributes : List (List Char × List Char)
  content : List Char

namespace Element

def text (e : Element) : List Char :=
  "<".toList ++ e.tag ++
    e.attributes.flatMap (fun item =>
      " ".toList ++ item.1 ++ "=\"".toList ++ item.2 ++ "\"".toList) ++
    ">".toList ++ e.content ++ "</".toList ++ e.tag ++ ">".toList

structure Safe (e : Element) : Prop where
  tag : String.ofList e.tag ∈ safeTags
  names : ∀ item ∈ e.attributes, String.ofList item.1 ∈ safeAttributes
  distinct : (e.attributes.map Prod.fst).Nodup
  values : ∀ item ∈ e.attributes, IsEscaped item.2
  content : IsEscaped e.content

end Element

theorem mem_keys_putAttribute (attributes : Attributes) (item : List Char × List Char)
    (name : List Char) :
    name ∈ (putAttribute attributes item).map Prod.fst ↔
      name ∈ attributes.map Prod.fst ∨ name = item.1 := by
  induction attributes with
  | nil => simp [putAttribute]
  | cons first rest ih =>
    rw [putAttribute]
    split
    · next same =>
      have key : first.1 = item.1 := beq_iff_eq.mp same
      simp [key, or_comm]
    · rw [List.map_cons, List.mem_cons, ih, List.map_cons, List.mem_cons, or_assoc]

theorem nodup_putAttribute {attributes : Attributes} (h : (attributes.map Prod.fst).Nodup)
    (item : List Char × List Char) : ((putAttribute attributes item).map Prod.fst).Nodup := by
  induction attributes with
  | nil => simp [putAttribute]
  | cons first rest ih =>
    obtain ⟨absent, others⟩ := List.nodup_cons.mp h
    rw [putAttribute]
    split
    · exact h
    · next differ =>
      refine List.nodup_cons.mpr ⟨?_, ih others⟩
      rw [mem_keys_putAttribute]
      rintro (inside | same)
      · exact absent inside
      · exact differ (beq_iff_eq.mpr same)

theorem filterAttributes_names (attributes : Attributes) :
    ((filterAttributes attributes).map Prod.fst).Nodup ∧
      ∀ name ∈ (filterAttributes attributes).map Prod.fst, String.ofList name ∈ safeAttributes := by
  have allowed : ∀ item ∈ attributes.filter fun item => isSafeAttribute item.1,
      String.ofList (lower item.1) ∈ safeAttributes :=
    fun item inside => List.contains_iff_mem.mp (List.mem_filter.mp inside).2
  suffices run : ∀ (items kept : Attributes),
      (∀ item ∈ items, String.ofList (lower item.1) ∈ safeAttributes) →
      (kept.map Prod.fst).Nodup ∧
        (∀ name ∈ kept.map Prod.fst, String.ofList name ∈ safeAttributes) →
      let result := items.foldl (fun kept item => putAttribute kept (lower item.1, item.2)) kept
      (result.map Prod.fst).Nodup ∧
        ∀ name ∈ result.map Prod.fst, String.ofList name ∈ safeAttributes from
    run _ [] allowed ⟨List.nodup_nil, fun name inside => by cases inside⟩
  intro items
  induction items with
  | nil => exact fun kept _ h => h
  | cons item items ih =>
    intro kept allowed ⟨distinct, names⟩
    refine ih _ (fun other inside => allowed other (List.mem_cons_of_mem item inside)) ⟨?_, ?_⟩
    · exact nodup_putAttribute distinct _
    · intro name inside
      rcases (mem_keys_putAttribute kept _ name).mp inside with before | rfl
      · exact names name before
      · exact allowed item List.mem_cons_self

def slotElement (name : List Char) (attributes : Option Attributes) (content : List Char) :
    Element :=
  ⟨name, (filterAttributes (attributes.getD [])).map fun item => (item.1, escape item.2),
    escape content⟩

theorem elementText_eq (name : List Char) (attributes : Option Attributes) (content : List Char) :
    elementText name (attributes.getD []) content =
      (slotElement name attributes content).text := by
  have item : attributeText = fun item =>
      ' ' :: (item.1 ++ '=' :: '"' :: (escape item.2 ++ ['"'])) := by
    funext item
    simp [attributeText]
  simp [elementText, Element.text, slotElement, List.flatMap_map, item]

theorem slotElement_safe {name : List Char} (h : String.ofList name ∈ safeTags)
    (attributes : Option Attributes) (content : List Char) :
    (slotElement name attributes content).Safe := by
  obtain ⟨distinct, names⟩ := filterAttributes_names (attributes.getD [])
  have keys : (slotElement name attributes content).attributes.map Prod.fst =
      (filterAttributes (attributes.getD [])).map Prod.fst := by
    simp [slotElement, Function.comp_def]
  refine ⟨h, ?_, ?_, ?_, isEscaped_escape content⟩
  · intro item inside
    refine names item.1 ?_
    rw [← keys]
    exact List.mem_map_of_mem inside
  · rw [keys]
    exact distinct
  · intro item inside
    obtain ⟨source, -, rfl⟩ := List.mem_map.mp inside
    exact isEscaped_escape source.2

def IsRegistered (pairs : List (List Char × Renderer)) (name : List Char) (render : Renderer) :
    Prop :=
  ∃ before written after, pairs = before ++ (written, render) :: after ∧ lower written = name ∧
    ∀ other ∈ after, lower other.1 ≠ name

theorem ofList_eq (pairs : List (List Char × Renderer)) :
    Renderers.ofList pairs = (pairs.map fun pair => (lower pair.1, pair.2)).reverse := by
  rw [Renderers.ofList, List.foldl_flip_cons_eq_append, List.append_nil]

theorem get?_ofList_eq_some_iff {pairs : List (List Char × Renderer)} {name : List Char}
    {render : Renderer} :
    (Renderers.ofList pairs).get? name = some render ↔ IsRegistered pairs name render := by
  rw [Renderers.get?, ofList_eq, List.lookup_eq_some_iff]
  constructor
  · rintro ⟨later, earlier, parts, others⟩
    have parts := congrArg List.reverse parts
    rw [List.reverse_reverse, List.reverse_append, List.reverse_cons, List.append_assoc] at parts
    obtain ⟨before, rest, rfl, -, same⟩ := List.map_eq_append_iff.mp parts
    obtain ⟨pair, after, rfl, item, behind⟩ := List.map_eq_cons_iff.mp same
    replace behind : after.map (fun pair => (lower pair.1, pair.2)) = later.reverse := behind
    obtain ⟨lowered, rfl⟩ := Prod.mk.inj item
    refine ⟨before, pair.1, after, rfl, lowered, ?_⟩
    intro other inside equal
    have listed : (lower other.1, other.2) ∈ later := by
      rw [← List.mem_reverse, ← behind]
      exact List.mem_map_of_mem inside
    have differ := others _ listed
    rw [equal] at differ
    simp at differ
  · rintro ⟨before, written, after, rfl, rfl, others⟩
    refine ⟨(after.map fun pair => (lower pair.1, pair.2)).reverse,
      (before.map fun pair => (lower pair.1, pair.2)).reverse, by simp, ?_⟩
    intro other inside
    obtain ⟨pair, listed, rfl⟩ := List.mem_map.mp (List.mem_reverse.mp inside)
    exact bne_iff_ne.mpr (Ne.symm (others pair listed))

theorem get?_ofList_eq_none {pairs : List (List Char × Renderer)} {name : List Char}
    (h : (Renderers.ofList pairs).get? name = none) (render : Renderer) :
    ¬ IsRegistered pairs name render := by
  intro registered
  rw [get?_ofList_eq_some_iff.mpr registered] at h
  cases h

inductive Rendered (pairs : List (List Char × Renderer)) : Segment → List Char → Prop
  | text (content : List Char) (safe : IsEscaped (escape content)) :
      Rendered pairs (.text content) (escape content)
  | returned {name content piece : List Char} {attributes : Option Attributes}
      {render : Renderer} (registered : IsRegistered pairs name render)
      (result : render content attributes = .ok piece) :
      Rendered pairs (.slot name attributes content) piece
  | element (e : Element) (safe : e.Safe) (attributes : Option Attributes) (content : List Char)
      (same : e.content = escape content) (free : ∀ render, ¬ IsRegistered pairs e.tag render) :
      Rendered pairs (.slot e.tag attributes content) e.text
  | content {name : List Char} (attributes : Option Attributes) (content : List Char)
      (safe : IsEscaped (escape content)) (free : ∀ render, ¬ IsRegistered pairs name render) :
      Rendered pairs (.slot name attributes content) (escape content)

/-- The output for some segments: what they become, in order. -/
inductive Output (pairs : List (List Char × Renderer)) : List Segment → List Char → Prop
  | nil : Output pairs [] []
  | cons {segment : Segment} {piece : List Char} {rest : List Segment} {others : List Char}
      (first : Rendered pairs segment piece) (more : Output pairs rest others) :
      Output pairs (segment :: rest) (piece ++ others)

inductive SafeHtml : List Char → Prop
  | nil : SafeHtml []
  | text {piece rest : List Char} (safe : IsEscaped piece) (more : SafeHtml rest) :
      SafeHtml (piece ++ rest)
  | element {e : Element} {rest : List Char} (safe : e.Safe) (more : SafeHtml rest) :
      SafeHtml (e.text ++ rest)

def FailsOn (pairs : List (List Char × Renderer)) (segments : List Segment) (failure : Failure) :
    Prop :=
  ∃ name attributes content render, Segment.slot name attributes content ∈ segments ∧
    IsRegistered pairs name render ∧ render content attributes = .error failure

def HasLowerName (segment : Segment) : Prop :=
  ∀ name attributes content, segment = .slot name attributes content → lower name = name

theorem hasLowerName {cs : List Char} {segments : List Segment}
    (read : Segmenter.segmentsOf cs = .ok segments) {segment : Segment} (h : segment ∈ segments) :
    HasLowerName segment := by
  rintro name attributes content rfl
  obtain ⟨slot, same⟩ := exists_writtenSlot read h rfl
  obtain ⟨kept, -, whole⟩ := map_eq_ok_iff.mp same
  obtain ⟨rfl, -⟩ := Segment.slot.inj whole
  exact slot.isName.lower_lowerName

theorem renderSegment_ok {pairs : List (List Char × Renderer)} {segment : Segment}
    {piece : List Char} (named : HasLowerName segment)
    (h : renderSegment (Renderers.ofList pairs) segment = .ok piece) :
    Rendered pairs segment piece := by
  cases segment with
  | text content =>
    cases h
    exact .text content (isEscaped_escape content)
  | slot name attributes content =>
    rw [renderSegment] at h
    split at h
    · next render found => exact .returned (get?_ofList_eq_some_iff.mp found) h
    · next none =>
      have free := get?_ofList_eq_none none
      split at h
      · next allowed =>
        cases h
        have isTag : String.ofList name ∈ safeTags := by
          rw [isSafeTag, named name attributes content rfl] at allowed
          exact List.contains_iff_mem.mp allowed
        rw [elementText_eq]
        exact .element (slotElement name attributes content)
          (slotElement_safe isTag attributes content) attributes content rfl free
      · cases h
        exact .content attributes content (isEscaped_escape content) free

theorem renderSegment_error {pairs : List (List Char × Renderer)} {segment : Segment}
    {failure : Failure} (h : renderSegment (Renderers.ofList pairs) segment = .error failure) :
    FailsOn pairs [segment] failure := by
  cases segment with
  | text content => cases h
  | slot name attributes content =>
    rw [renderSegment] at h
    split at h
    · next render found =>
      exact ⟨name, attributes, content, render, List.mem_singleton_self _,
        get?_ofList_eq_some_iff.mp found, h⟩
    · split at h <;> cases h

theorem renderSegments_spec (pairs : List (List Char × Renderer)) {segments : List Segment}
    (named : ∀ segment ∈ segments, HasLowerName segment) :
    match renderSegments (Renderers.ofList pairs) segments with
    | .ok output => Output pairs segments output
    | .error failure => FailsOn pairs segments failure := by
  induction segments with
  | nil => exact .nil
  | cons segment rest ih =>
    have others := ih fun other inside => named other (List.mem_cons_of_mem segment inside)
    rw [renderSegments]
    cases first : renderSegment (Renderers.ofList pairs) segment with
    | error failure =>
      obtain ⟨name, attributes, content, render, inside, failed⟩ := renderSegment_error first
      exact ⟨name, attributes, content, render, List.mem_singleton.mp inside ▸ List.mem_cons_self,
        failed⟩
    | ok piece =>
      have rendered := renderSegment_ok (named segment List.mem_cons_self) first
      cases more : renderSegments (Renderers.ofList pairs) rest with
      | error failure =>
        rw [more] at others
        obtain ⟨name, attributes, content, render, inside, failed⟩ := others
        exact ⟨name, attributes, content, render, List.mem_cons_of_mem segment inside, failed⟩
      | ok output =>
        rw [more] at others
        exact .cons rendered others

theorem not_isRegistered_nil (name : List Char) (render : Renderer) :
    ¬ IsRegistered [] name render := by
  rintro ⟨before, written, after, parts, -⟩
  cases before <;> cases parts

theorem Output.safeHtml {segments : List Segment} {output : List Char}
    (h : Output [] segments output) : SafeHtml output := by
  induction h with
  | nil => exact .nil
  | cons first more ih =>
    cases first with
    | text content safe => exact .text safe ih
    | returned registered result => exact absurd registered (not_isRegistered_nil _ _)
    | element e safe attributes content same free => exact .element safe ih
    | content attributes content safe free => exact .text safe ih

namespace Segmenter

theorem value_render (capacity : Nat) (uses : List Use) (cs : List Char) (renderers : Renderers) :
    (((fresh capacity).afterUses uses).render renderers cs).value.1 =
      (segmentsOf cs).bind (renderSegments renderers) := by
  rw [← segments_segment capacity uses cs]
  cases given : (((fresh capacity).afterUses uses).segment cs).value.1 <;>
    simp [render, given, Except.map, Except.bind]

/-- A text without unreadable attributes is rendered as escaped text, safe elements and what
renderers return, in the order of its segments, or fails as a renderer does. Without renderers the
result is safe. Any other text is not rendered, unless it is too long to be segmented. -/
theorem render_pieces (capacity : Nat) (uses : List Use) (cs : List Char)
    (pairs : List (List Char × Renderer)) :
    let rendered (pairs : List (List Char × Renderer)) :=
      (((fresh capacity).afterUses uses).render (.ofList pairs) cs).value.1
    (∀ segments, segmentsOf cs = .ok segments →
      (match rendered pairs with
        | .ok output => Output pairs segments output
        | .error failure => FailsOn pairs segments failure) ∧
        ∃ output, rendered [] = .ok output ∧ SafeHtml output) ∧
      ((segmentsOf cs).isOk ↔ (cs.length ≤ maxTextLength → ¬ HasUnreadable cs)) ∧
      ∀ failure, segmentsOf cs = .error failure →
        OfLongNumber failure ∧ rendered pairs = .error failure := by
  intro rendered
  have value (pairs : List (List Char × Renderer)) :
      rendered pairs = (segmentsOf cs).bind (renderSegments (.ofList pairs)) :=
    value_render capacity uses cs _
  refine ⟨fun segments read => ?_, ?_, fun failure unread => ?_⟩
  · rw [value, value, read]
    have named : ∀ segment ∈ segments, HasLowerName segment := fun _ => hasLowerName read
    refine ⟨renderSegments_spec pairs named, ?_⟩
    have plain := renderSegments_spec [] named
    cases result : renderSegments (.ofList []) segments with
    | error failure =>
      rw [result] at plain
      obtain ⟨name, -, -, render, -, registered, -⟩ := plain
      exact absurd registered (not_isRegistered_nil name render)
    | ok output =>
      rw [result] at plain
      exact ⟨output, result, plain.safeHtml⟩
  · by_cases short : cs.length ≤ maxTextLength
    · rw [segmentsOf_isOk_iff short]
      exact ⟨fun readable _ => readable, fun readable => readable short⟩
    · have long : isTooLong cs = true := decide_eq_true (Nat.lt_of_not_le short)
      rw [segmentsOf, if_pos long]
      exact iff_of_true rfl fun fits => absurd fits short
  · rw [value, unread]
    exact ⟨segmentsOf_error unread, rfl⟩

/-- A link to a number is not rendered at all. -/
theorem longLink_unrendered :
    ¬ (((fresh parseCapacity).afterUses []).render (.ofList []) longLink).value.1.isOk := by
  obtain ⟨failure, unread⟩ := segmentsOf_longLink
  rw [value_render, unread]
  exact Bool.false_ne_true

end Segmenter

end Localization.Markup
