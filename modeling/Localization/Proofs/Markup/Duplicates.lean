import Mathlib.Data.List.Induction
import Localization.Proofs.Markup.Escape
import Localization.Proofs.Markup.Quotation

/-! # Attributes that are written more than once

A tag keeps the first occurrence of each spelling of an attribute. An element has its attributes in
lower case, and of several spellings of one name it takes the value of the one that comes in last.
So the first occurrence of a name decides when all of them are spelled alike.
-/
namespace Localization.Markup

open Text

def IsLatestSpelling (occurrences : Attributes) (item : List Char × List Char) : Prop :=
  ∃ before after, occurrences = before ++ item :: after ∧
    (∀ other ∈ before, other.1 ≠ item.1) ∧
    ∀ other ∈ after, ∃ earlier ∈ before ++ [item], earlier.1 = other.1

def occurrencesOf (name : List Char) (occurrences : Attributes) : Attributes :=
  occurrences.filter fun item => lower item.1 == name

theorem keepFirst_concat (occurrences : Attributes) (item : List Char × List Char) :
    keepFirst (occurrences ++ [item]) =
      if (keepFirst occurrences).any (fun other => other.1 == item.1) then keepFirst occurrences
      else keepFirst occurrences ++ [item] := by
  rw [keepFirst, List.foldl_append]
  rfl

theorem any_keepFirst (occurrences : Attributes) (name : List Char) :
    (keepFirst occurrences).any (fun other => other.1 == name) =
      occurrences.any fun other => other.1 == name := by
  induction occurrences using List.reverseRecOn with
  | nil => rfl
  | append_singleton occurrences item ih =>
    rw [keepFirst_concat, List.any_append, ← ih]
    split
    · next seen =>
      by_cases same : item.1 = name
      · rw [← same, seen]
        rfl
      · simp [same]
    · rw [List.any_append]

theorem keepFirst_concat_of_seen {occurrences : Attributes} {item : List Char × List Char}
    (seen : ∃ other ∈ occurrences, other.1 = item.1) :
    keepFirst (occurrences ++ [item]) = keepFirst occurrences := by
  obtain ⟨other, inside, same⟩ := seen
  rw [keepFirst_concat, any_keepFirst, if_pos]
  exact List.any_eq_true.mpr ⟨other, inside, beq_iff_eq.mpr same⟩

theorem keepFirst_concat_of_new {occurrences : Attributes} {item : List Char × List Char}
    (new : ∀ other ∈ occurrences, other.1 ≠ item.1) :
    keepFirst (occurrences ++ [item]) = keepFirst occurrences ++ [item] := by
  rw [keepFirst_concat, any_keepFirst, if_neg]
  intro seen
  obtain ⟨other, inside, same⟩ := List.any_eq_true.mp seen
  exact new other inside (beq_iff_eq.mp same)

theorem occurrencesOf_append (name : List Char) (first second : Attributes) :
    occurrencesOf name (first ++ second) = occurrencesOf name first ++ occurrencesOf name second :=
  List.filter_append ..

theorem occurrencesOf_singleton_of_eq {name : List Char} {item : List Char × List Char}
    (named : lower item.1 = name) : occurrencesOf name [item] = [item] := by
  simp [occurrencesOf, named]

theorem occurrencesOf_singleton_of_ne {name : List Char} {item : List Char × List Char}
    (named : lower item.1 ≠ name) : occurrencesOf name [item] = [] := by
  simp [occurrencesOf, named]

theorem mem_occurrencesOf {name : List Char} {occurrences : Attributes}
    {item : List Char × List Char} :
    item ∈ occurrencesOf name occurrences ↔ item ∈ occurrences ∧ lower item.1 = name := by
  rw [occurrencesOf, List.mem_filter, beq_iff_eq]

theorem occurrencesOf_keepFirst (name : List Char) (occurrences : Attributes) :
    occurrencesOf name (keepFirst occurrences) = keepFirst (occurrencesOf name occurrences) := by
  induction occurrences using List.reverseRecOn with
  | nil => rfl
  | append_singleton occurrences item ih =>
    rw [occurrencesOf_append]
    by_cases named : lower item.1 = name
    · rw [occurrencesOf_singleton_of_eq named]
      by_cases seen : ∃ other ∈ occurrences, other.1 = item.1
      · obtain ⟨other, inside, same⟩ := seen
        have listed : other ∈ occurrencesOf name occurrences :=
          mem_occurrencesOf.mpr ⟨inside, same ▸ named⟩
        rw [keepFirst_concat_of_seen ⟨other, inside, same⟩, ih,
          keepFirst_concat_of_seen ⟨other, listed, same⟩]
      · have new : ∀ other ∈ occurrences, other.1 ≠ item.1 := fun other inside same =>
          seen ⟨other, inside, same⟩
        rw [keepFirst_concat_of_new new, occurrencesOf_append, ih,
          occurrencesOf_singleton_of_eq named,
          keepFirst_concat_of_new fun other inside => new other (mem_occurrencesOf.mp inside).1]
    · rw [occurrencesOf_singleton_of_ne named, List.append_nil, ← ih, keepFirst_concat]
      split
      · rfl
      · rw [occurrencesOf_append, occurrencesOf_singleton_of_ne named, List.append_nil]

theorem isLatestSpelling_keepFirst {occurrences : Attributes} {item : List Char × List Char}
    (last : (keepFirst occurrences).getLast? = some item) : IsLatestSpelling occurrences item := by
  induction occurrences using List.reverseRecOn with
  | nil => cases last
  | append_singleton occurrences new ih =>
    by_cases seen : ∃ other ∈ occurrences, other.1 = new.1
    · rw [keepFirst_concat_of_seen seen] at last
      obtain ⟨before, after, rfl, first, later⟩ := ih last
      refine ⟨before, after ++ [new], by simp, first, ?_⟩
      intro other inside
      rcases List.mem_append.mp inside with there | here
      · exact later other there
      · obtain rfl := List.mem_singleton.mp here
        obtain ⟨earlier, listed, same⟩ := seen
        rw [← List.singleton_append, ← List.append_assoc] at listed
        rcases List.mem_append.mp listed with early | late
        · exact ⟨earlier, early, same⟩
        · obtain ⟨first, early, alike⟩ := later earlier late
          exact ⟨first, early, alike.trans same⟩
    · have first : ∀ other ∈ occurrences, other.1 ≠ new.1 := fun other inside same =>
        seen ⟨other, inside, same⟩
      rw [keepFirst_concat_of_new first, List.getLast?_concat] at last
      obtain rfl := Option.some.inj last
      exact ⟨occurrences, [], rfl, first, fun other inside => by cases inside⟩

theorem IsLatestSpelling.unique {occurrences : Attributes} {item other : List Char × List Char}
    (h : IsLatestSpelling occurrences item) (again : IsLatestSpelling occurrences other) :
    item = other := by
  -- Of two such occurrences the later one would repeat a spelling of those before it.
  have ordered {before after middle rest : Attributes} {first second : List Char × List Char}
      (split : before ++ first :: after = before ++ first :: (middle ++ second :: rest))
      (closed : ∀ late ∈ after, ∃ earlier ∈ before ++ [first], earlier.1 = late.1) :
      ∃ earlier ∈ before ++ first :: middle, earlier.1 = second.1 := by
    have tail := (List.cons.inj (List.append_cancel_left split)).2
    obtain ⟨earlier, inside, same⟩ := closed second (by simp [tail])
    refine ⟨earlier, ?_, same⟩
    rcases List.mem_append.mp inside with early | here
    · exact List.mem_append_left _ early
    · exact List.mem_append_right _ (by simp [List.mem_singleton.mp here])
  obtain ⟨before, after, rfl, first, closed⟩ := h
  obtain ⟨before', after', same, first', closed'⟩ := again
  rcases List.append_eq_append_iff.mp same with ⟨more, rfl, tail⟩ | ⟨more, rfl, tail⟩
  · cases more with
    | nil => exact (List.cons.inj tail).1
    | cons c middle =>
      obtain ⟨rfl, rfl⟩ := List.cons.inj tail
      obtain ⟨earlier, inside, alike⟩ := ordered rfl closed
      exact absurd alike (first' earlier inside)
  · cases more with
    | nil => exact (List.cons.inj tail).1.symm
    | cons c middle =>
      obtain ⟨rfl, rfl⟩ := List.cons.inj tail
      obtain ⟨earlier, inside, alike⟩ := ordered rfl closed'
      exact absurd alike (first earlier inside)

theorem isLatestSpelling_of_alike {first : List Char × List Char} {rest : Attributes}
    (alike : ∀ other ∈ rest, other.1 = first.1) : IsLatestSpelling (first :: rest) first :=
  ⟨[], rest, rfl, fun _ => False.elim ∘ List.not_mem_nil, fun other inside =>
    ⟨first, List.mem_singleton_self first, (alike other inside).symm⟩⟩

theorem lookup_cons (first : List Char × List Char) (rest : Attributes) (name : List Char) :
    List.lookup name (first :: rest) =
      if name = first.1 then some first.2 else rest.lookup name := by
  obtain ⟨key, value⟩ := first
  rw [List.lookup_cons]
  by_cases named : name = key
  · rw [if_pos named, beq_iff_eq.mpr named]
  · rw [if_neg named, beq_eq_false_iff_ne.mpr named]

theorem lookup_putAttribute (attributes : Attributes) (item : List Char × List Char)
    (name : List Char) :
    (putAttribute attributes item).lookup name =
      if name = item.1 then some item.2 else attributes.lookup name := by
  induction attributes with
  | nil => exact lookup_cons item [] name
  | cons first rest ih =>
    rw [putAttribute]
    split
    · next same =>
      rw [lookup_cons, lookup_cons, beq_iff_eq.mp same]
      split <;> rfl
    · next differ =>
      rw [lookup_cons, lookup_cons, ih]
      by_cases named : name = item.1
      · rw [if_pos named, if_pos named,
          if_neg fun same => differ (beq_iff_eq.mpr (same.symm.trans named))]
      · rw [if_neg named, if_neg named]

theorem lookup_filterAttributes {name : List Char} (allowed : String.ofList name ∈ safeAttributes)
    (attributes : Attributes) :
    (filterAttributes attributes).lookup name =
      ((occurrencesOf name attributes).getLast?).map Prod.snd := by
  induction attributes using List.reverseRecOn with
  | nil => rfl
  | append_singleton attributes item ih =>
    have step : filterAttributes (attributes ++ [item]) =
        if isSafeAttribute item.1 then putAttribute (filterAttributes attributes)
          (lower item.1, item.2) else filterAttributes attributes := by
      rw [filterAttributes, List.filter_append, List.foldl_append, ← filterAttributes]
      by_cases safe : isSafeAttribute item.1 = true <;> simp [safe]
    rw [step, occurrencesOf_append]
    by_cases named : lower item.1 = name
    · have safe : isSafeAttribute item.1 = true := by
        rw [isSafeAttribute, named]
        exact List.contains_iff_mem.mpr allowed
      rw [if_pos safe, lookup_putAttribute, if_pos named.symm, occurrencesOf_singleton_of_eq named,
        List.getLast?_concat]
      rfl
    · rw [occurrencesOf_singleton_of_ne named, List.append_nil, ← ih]
      split
      · exact (lookup_putAttribute _ _ name).trans (if_neg (Ne.symm named))
      · rfl

/-- What an element takes over of the occurrences of an allowed name. -/
structure Takes (e : Element) (name : List Char) (occurrences : Attributes) : Prop where
  absent : occurrencesOf name occurrences = [] → e.attributes.lookup name = none
  latest : ∀ item, IsLatestSpelling (occurrencesOf name occurrences) item →
    e.attributes.lookup name = some (escape item.2)
  first : ∀ first rest, occurrencesOf name occurrences = first :: rest →
    ∃ item, IsLatestSpelling (first :: rest) item ∧
      (e.attributes.lookup name = some (escape first.2) ↔ item.2 = first.2)
  alike : ∀ first rest, occurrencesOf name occurrences = first :: rest →
    (∀ other ∈ rest, other.1 = first.1) → e.attributes.lookup name = some (escape first.2)

theorem exists_isLatestSpelling (first : List Char × List Char) (rest : Attributes) :
    ∃ item, (keepFirst (first :: rest)).getLast? = some item ∧
      IsLatestSpelling (first :: rest) item := by
  have kept : (keepFirst (first :: rest)).any (fun other => other.1 == first.1) = true := by
    rw [any_keepFirst, List.any_cons, beq_self_eq_true, Bool.true_or]
  cases last : (keepFirst (first :: rest)).getLast? with
  | none =>
    rw [List.getLast?_eq_none_iff.mp last] at kept
    cases kept
  | some item => exact ⟨item, rfl, isLatestSpelling_keepFirst last⟩

theorem lookup_slotElement {name : List Char} (allowed : String.ofList name ∈ safeAttributes)
    (tag : List Char) (attributes : Option Attributes) (content : List Char) :
    (slotElement tag attributes content).attributes.lookup name =
      ((occurrencesOf name (attributes.getD [])).getLast?).map fun item => escape item.2 := by
  have mapped (items : Attributes) :
      (items.map fun item => (item.1, escape item.2)).lookup name =
        (items.lookup name).map escape := by
    induction items with
    | nil => rfl
    | cons item items ih =>
      rw [List.map_cons, lookup_cons, lookup_cons, ih]
      split <;> rfl
  rw [slotElement, mapped, lookup_filterAttributes allowed, Option.map_map]
  rfl

theorem takes_slotElement {name : List Char} (allowed : String.ofList name ∈ safeAttributes)
    (tag content : List Char) {attributes : Option Attributes} {occurrences : Attributes}
    (kept : attributes.getD [] = keepFirst occurrences) :
    Takes (slotElement tag attributes content) name occurrences := by
  have value : (slotElement tag attributes content).attributes.lookup name =
      ((keepFirst (occurrencesOf name occurrences)).getLast?).map fun item => escape item.2 := by
    rw [lookup_slotElement allowed, kept, occurrencesOf_keepFirst]
  have latest (item : List Char × List Char)
      (last : IsLatestSpelling (occurrencesOf name occurrences) item) :
      (slotElement tag attributes content).attributes.lookup name = some (escape item.2) := by
    cases listed : occurrencesOf name occurrences with
    | nil =>
      obtain ⟨before, after, whole, -⟩ := last
      simp [listed] at whole
    | cons first rest =>
      rw [listed] at last value
      obtain ⟨other, found, isLatest⟩ := exists_isLatestSpelling first rest
      rw [value, found, last.unique isLatest]
      rfl
  refine ⟨fun none => by rw [value, none]; rfl, latest, ?_, ?_⟩
  · intro first rest listed
    obtain ⟨item, -, last⟩ := exists_isLatestSpelling first rest
    refine ⟨item, last, ?_⟩
    rw [latest item (listed ▸ last), Option.some_inj, escape_inj]
  · intro first rest listed alike
    exact latest first (listed ▸ isLatestSpelling_of_alike alike)

theorem exists_occurrences {cs : List Char} {kept : Option Attributes}
    (read : readAttributes cs = .ok (.kept kept)) :
    ∃ occurrences, occurrencesFrom cs.length cs = some occurrences ∧
      kept.getD [] = keepFirst occurrences := by
  rw [readAttributes] at read
  split at read
  · next blank =>
    cases read
    exact ⟨[], occurrencesFrom_of_blank (List.all_eq_true.mp blank) _, rfl⟩
  split at read
  · cases read
  · next scanned found =>
    obtain ⟨occurrences, listed, rfl⟩ := Option.map_eq_some_iff.mp found
    refine ⟨occurrences, listed, ?_⟩
    obtain ⟨judged, -, same⟩ := map_eq_ok_iff.mp read
    cases judged with
    | some refusal => cases same
    | none =>
      cases same
      split
      · next none => rw [Option.getD_none, List.isEmpty_iff.mp none]
      · rfl

/-- A layout is that of a text when the text has its segments. -/
structure Layout.IsOf (l : Layout) (cs : List Char) : Prop where
  source : l.source = cs
  segments : l.segments = Segmenter.segmentsOf cs

theorem Layout.exists_isOf (cs : List Char) : ∃ l : Layout, l.IsOf cs := by
  cases long : Segmenter.isTooLong cs with
  | true =>
    have some : cs.isEmpty = false := by
      cases cs with
      | nil => cases long
      | cons c rest => rfl
    exact ⟨.last cs, rfl, by rw [Layout.segments, textThen, some, Segmenter.segmentsOf, long]; rfl⟩
  | false =>
    obtain ⟨l, rfl, intact⟩ := Layout.exists_intact cs
    refine ⟨l, rfl, ?_⟩
    rw [Segmenter.segmentsOf, long]
    exact (Layout.plainSegments_source intact).symm

theorem Layout.isOf_source {l : Layout} (plain : ∀ part ∈ l.parts, '<' ∉ part)
    (short : l.source.length ≤ maxTextLength) : l.IsOf l.source :=
  ⟨rfl, by rw [Segmenter.segmentsOf_of_le short,
    Layout.plainSegments_source (Layout.intact_of_parts plain)]⟩

/-- A slot that becomes an element, as its attributes are not refused. -/
structure BecomesElement (pairs : List (List Char × Renderer)) (slot : WrittenSlot)
    (occurrences : Attributes) : Prop where
  free : ∀ render, ¬ IsRegistered pairs (lowerName slot.name) render
  safe : isSafeTag (lowerName slot.name) = true
  occurrences : occurrencesFrom slot.attributes.length slot.attributes = some occurrences
  read : ∃ kept, readAttributes slot.attributes = .ok (.kept kept)

/-- What a slot is rendered as. -/
def WrittenSlot.render (slot : WrittenSlot) (renderers : Renderers) : Except Failure (List Char) :=
  slot.segment.bind (renderSegment renderers)

theorem BecomesElement.taken {pairs : List (List Char × Renderer)} {slot : WrittenSlot}
    {occurrences : Attributes} (h : BecomesElement pairs slot occurrences) :
    ∃ e : Element, slot.render (.ofList pairs) = .ok e.text ∧ e.Safe ∧
      e.tag = lowerName slot.name ∧ e.content = escape slot.content ∧
      ∀ name ∈ safeAttributes, Takes e name.toList occurrences := by
  obtain ⟨kept, read⟩ := h.read
  obtain ⟨listed, found, first⟩ := exists_occurrences read
  obtain rfl := Option.some.inj (h.occurrences.symm.trans found)
  have attributes : attributesOf slot.attributes = .ok kept := by rw [attributesOf, read]; rfl
  have unregistered : (Renderers.ofList pairs).get? (lowerName slot.name) = none := by
    cases found : (Renderers.ofList pairs).get? (lowerName slot.name) with
    | none => rfl
    | some render => exact absurd (get?_ofList_eq_some_iff.mp found) (h.free render)
  have isTag : String.ofList (lowerName slot.name) ∈ safeTags := by
    have safe := h.safe
    rw [isSafeTag, slot.isName.lower_lowerName] at safe
    exact List.contains_iff_mem.mp safe
  refine ⟨slotElement (lowerName slot.name) kept slot.content, ?_,
    slotElement_safe isTag kept slot.content, rfl, rfl, ?_⟩
  · rw [WrittenSlot.render, WrittenSlot.segment, attributes]
    show renderSegment _ (.slot (lowerName slot.name) kept slot.content) = _
    rw [renderSegment, unregistered]
    simp only [h.safe, if_true, elementText_eq]
  · intro name allowed
    exact takes_slotElement (by rwa [String.ofList_toList]) _ _ first

namespace Segmenter

/-- Each slot that is rendered as an element, unless its attributes are refused, has each allowed
name at most once, with the value of the occurrence whose spelling comes in last. That is the
first occurrence of the name when all are spelled alike. -/
theorem element_attributes (capacity : Nat) (uses : List Use) (cs : List Char)
    (pairs : List (List Char × Renderer)) :
    (∃ l : Layout, l.IsOf cs) ∧ ∀ l : Layout, l.IsOf cs →
      (((fresh capacity).afterUses uses).render (.ofList pairs) cs).value.1 =
        l.segments.bind (renderSegments (.ofList pairs)) ∧
      ∀ slot ∈ l.slots, ∀ occurrences, BecomesElement pairs slot occurrences →
        ∃ e : Element, slot.render (.ofList pairs) = .ok e.text ∧ e.Safe ∧
          e.tag = lowerName slot.name ∧ e.content = escape slot.content ∧
          ∀ name ∈ safeAttributes, Takes e name.toList occurrences := by
  refine ⟨Layout.exists_isOf cs, fun l isOf => ⟨?_, ?_⟩⟩
  · rw [value_render, isOf.segments]
  · exact fun slot _ occurrences becomes => becomes.taken

end Segmenter

def boldSlot (attributes : List Char) (ends : endsName (attributes ++ ['>']) = true)
    (noEnd : '>' ∉ attributes) : WrittenSlot where
  name := ['b']
  attributes := attributes
  content := ['x']
  closing := ['b']
  isName := ⟨⟨'b', [], rfl, by decide⟩, List.forall_mem_singleton.mpr (by decide)⟩
  ends := ends
  noEnd := noEnd
  isClosing := ⟨⟨'b', [], rfl, by decide⟩, List.forall_mem_singleton.mpr (by decide)⟩
  sameName := rfl

/-- A letter with a title and with four classes in three spellings. -/
def respelledSlot : WrittenSlot :=
  boldSlot " class=a Title=t CLASS=b Class='&' CLASS=d".toList (by decide) (by decide)

def respelled : Layout := .next [] respelledSlot (.last [])

def respelledAttributes : Attributes :=
  [("class".toList, ['a']), ("Title".toList, ['t']), ("CLASS".toList, ['b']),
    ("Class".toList, ['&']), ("CLASS".toList, ['d'])]

theorem respelled_takes_latest :
    respelled.IsOf respelled.source ∧ respelledSlot ∈ respelled.slots ∧
      BecomesElement [] respelledSlot respelledAttributes ∧
      ∃ e : Element, respelledSlot.render (.ofList []) = .ok e.text ∧
        e.attributes.lookup "class".toList = some "&amp;".toList ∧
        e.attributes.lookup "title".toList = some ['t'] ∧
        e.attributes.lookup "id".toList = none := by
  have isOf : respelled.IsOf respelled.source := Layout.isOf_source (by decide) (by decide)
  have inside : respelledSlot ∈ respelled.slots := List.mem_cons_self
  have becomes : BecomesElement [] respelledSlot respelledAttributes :=
    ⟨not_isRegistered_nil _, by decide, by decide +kernel, _, rfl⟩
  obtain ⟨e, rendered, -, -, -, takes⟩ :=
    ((Segmenter.element_attributes 2 [] respelled.source []).2 respelled isOf).2 respelledSlot
      inside respelledAttributes becomes
  refine ⟨isOf, inside, becomes, e, rendered, ?_, ?_, ?_⟩
  · refine (takes "class" (by decide)).latest ("Class".toList, ['&']) ?_
    exact ⟨[("class".toList, ['a']), ("CLASS".toList, ['b'])], [("CLASS".toList, ['d'])],
      by decide, by decide, by decide⟩
  · exact (takes "title" (by decide)).alike ("Title".toList, ['t']) [] (by decide) (by simp)
  · exact (takes "id" (by decide)).absent (by decide)

/-- Each slot that becomes an element has the first occurrence of each allowed name. -/
def FirstDecides (cs : List Char) : Prop :=
  ∀ l : Layout, l.IsOf cs → ∀ slot ∈ l.slots, ∀ occurrences, BecomesElement [] slot occurrences →
    ∃ e : Element, slot.render (.ofList []) = .ok e.text ∧
      ∀ name ∈ safeAttributes, ∀ first rest,
        occurrencesOf name.toList occurrences = first :: rest →
        e.attributes.lookup name.toList = some (escape first.2)

theorem Element.mem_text {e : Element} {name value : List Char} {c : Char} (inside : c ∈ value)
    (carried : e.attributes.lookup name = some value) : c ∈ e.text := by
  obtain ⟨before, after, parts, -⟩ := List.lookup_eq_some_iff.mp carried
  simp [Element.text, parts, inside]

def twoSpellings : List Char := "<b class=\"1\" CLASS=\"2\">x</b>".toList

theorem twoSpellings_first_lost :
    (((Segmenter.fresh 2).afterUses []).render (.ofList []) twoSpellings).value.1 =
        .ok "<b class=\"2\">x</b>".toList ∧ ¬ FirstDecides twoSpellings := by
  let slot := boldSlot " class=\"1\" CLASS=\"2\"".toList (by decide) (by decide)
  let l : Layout := .next [] slot (.last [])
  have source : l.source = twoSpellings := by decide
  have isOf : l.IsOf twoSpellings := source ▸ Layout.isOf_source (by decide) (by decide)
  have written : slot.render (.ofList []) = .ok "<b class=\"2\">x</b>".toList := rfl
  refine ⟨?_, fun decides => ?_⟩
  · rw [Segmenter.value_render, ← isOf.segments]
    rfl
  · have becomes : BecomesElement [] slot [("class".toList, ['1']), ("CLASS".toList, ['2'])] :=
      ⟨not_isRegistered_nil _, by decide, by decide +kernel, _, rfl⟩
    obtain ⟨e, rendered, first⟩ := decides l isOf slot List.mem_cons_self _ becomes
    have carried := Element.mem_text (c := '1') (by decide) (first "class" (by decide) _ _ rfl)
    rw [← Except.ok.inj (written.symm.trans rendered)] at carried
    exact absurd carried (by decide)

end Localization.Markup
