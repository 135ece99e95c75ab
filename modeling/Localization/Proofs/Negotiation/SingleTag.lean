import Localization.Proofs.Locale.Code
import Localization.Proofs.Negotiation.Best

/-! # Two ways to ask for one locale

A tag can be asked for by itself or as the only range of a header. Both ways take the supported
locale that the tag spells and otherwise one of its language. By itself a tag is given the bare
language before any variant, in a header the first of the list, whichever that is. So the two
differ exactly where a variant stands before the bare language.
-/
namespace Localization.Negotiation.Resolver

open Text

variable {r : Resolver} {tag variant base : String}

/-- Some locale codes are supported, and no two that differ only in case. -/
structure Listed (r : Resolver) : Prop where
  nonempty : r.supported ≠ []
  codes : ∀ locale ∈ r.supported, Locale.isCode locale.toList = true
  distinct : r.supported.Pairwise fun a b => lowerString a ≠ lowerString b

/-- The first supported locale of the language of a tag is a variant, though the bare language is
supported too; the tag itself is not. -/
structure Overtakes (r : Resolver) (tag variant base : String) : Prop where
  unspelled : ∀ other ∈ r.supported, lowerString other ≠ lowerString tag
  first : r.Speaks (Locale.languageOf tag) variant
  regional : lowerString variant ≠ Locale.languageOf tag
  bare : base ∈ r.supported ∧ lowerString base = Locale.languageOf tag

theorem Listed.eq_of_same (listed : r.Listed) {a b : String} (ha : a ∈ r.supported)
    (hb : b ∈ r.supported) (same : lowerString a = lowerString b) : a = b := by
  obtain ⟨before, after, list⟩ := List.append_of_mem ha
  have distinct := listed.distinct
  rw [list] at distinct hb
  obtain ⟨-, later, apart⟩ := List.pairwise_append.mp distinct
  rcases List.mem_append.mp hb with early | late
  · exact absurd same.symm (apart b early a List.mem_cons_self)
  · rcases List.mem_cons.mp late with rfl | late
    · rfl
    · exact absurd same ((List.pairwise_cons.mp later).1 b late)

theorem Listed.languageOf_eq (listed : r.Listed) (bare : base ∈ r.supported)
    (same : lowerString base = Locale.languageOf tag) :
    Locale.languageOf base = Locale.languageOf tag :=
  congrArg String.ofList
    (Locale.language_of_isCode (listed.codes base bare) (String.ofList_injective same))

theorem supported?_of_overtakes (listed : r.Listed) (h : r.Overtakes tag variant base) :
    r.supported? tag = some base := by
  have spelled : r.canonical? (Locale.languageOf tag) = some base := by
    cases known : r.canonical? (Locale.languageOf tag) with
    | none => exact absurd h.bare.2 (canonical?_eq_none_iff.mp known base h.bare.1)
    | some other =>
      have spells := canonical?_eq_some_iff.mp known
      rw [listed.eq_of_same spells.mem h.bare.1 (spells.same.trans h.bare.2.symm)]
  simp only [supported?, canonical?_eq_none_iff.mpr h.unspelled, spelled]

theorem match?_of_overtakes (h : r.Overtakes tag variant base) : r.match? tag = some variant :=
  match?_eq_some_iff.mpr (.spoken h.unspelled h.first)

theorem regional?_eq {language : String}
    (free : ∀ other ∈ r.supported, lowerString other ≠ language) :
    r.regional? language =
      r.supported.find? fun other => Locale.languageOf other == language := by
  unfold regional?
  rw [← List.head?_filter, ← List.head?_filter]
  refine congrArg List.head? (List.filter_congr fun other inside => ?_)
  simp [free other inside]

/-- Unless a variant stands before the bare language, both ways choose the same. -/
theorem supported?_eq_match? (listed : r.Listed)
    (free : ¬ ∃ variant base, r.Overtakes tag variant base) : r.supported? tag = r.match? tag := by
  simp only [supported?, match?]
  cases spelled : r.canonical? (lowerString tag) with
  | some found => rfl
  | none =>
    have unspelled := canonical?_eq_none_iff.mp spelled
    cases bare : r.canonical? (Locale.languageOf tag) with
    | none => exact regional?_eq (canonical?_eq_none_iff.mp bare)
    | some base =>
      have spells := canonical?_eq_some_iff.mp bare
      have language := listed.languageOf_eq spells.mem spells.same
      symm
      cases first : r.supported.find? fun other =>
          Locale.languageOf other == Locale.languageOf tag with
      | none => exact absurd (beq_iff_eq.mpr language) (List.find?_eq_none.mp first base spells.mem)
      | some variant =>
        have speaks := find_language_eq_some_iff.mp first
        by_cases regional : lowerString variant = Locale.languageOf tag
        · exact congrArg some
            (listed.eq_of_same speaks.mem spells.mem (regional.trans spells.same.symm))
        · exact absurd ⟨variant, base, unspelled, speaks, regional, spells.mem, spells.same⟩ free

theorem Listed.match?_eq_none (listed : r.Listed) (spelling : (lower tag.toList).length < 2)
    (language : (Locale.language tag.toList).length < 2) : r.match? tag = none := by
  refine match?_eq_none_iff.mpr ?_
  rintro locale ⟨inside, same | same⟩
  · have long := (Locale.two_le_length_of_isCode (listed.codes locale inside)).2
    rw [String.ofList_injective same] at long
    omega
  · have long := (Locale.two_le_length_of_isCode (listed.codes locale inside)).1
    rw [String.ofList_injective same] at long
    omega

theorem bestMatch_singleton (r : Resolver) (tag : String) : r.bestMatch [tag] = r.match? tag := by
  simp only [bestMatch, List.findSome?_cons, List.findSome?_nil]
  cases r.match? tag <;> rfl

theorem value_validate (listed : r.Listed) (trimmed : trimString tag = tag) :
    (r.validate (some tag)).value = (r.supported? tag).getD r.default := by
  have filled : r.supported.isEmpty = false := by
    cases list : r.supported with
    | nil => exact absurd list listed.nonempty
    | cons first rest => rfl
  unfold validate
  simp only [Option.getD_some, trimmed, filled]
  cases empty : tag.isEmpty with
  | false =>
    simp only [Bool.false_eq_true, ↓reduceIte]
    cases r.supported? tag <;> rfl
  | true =>
    obtain rfl : tag = "" := by simpa using empty
    have unmet : r.match? "" = none := listed.match?_eq_none (by decide) (by decide +kernel)
    rw [supported?_eq_match? listed, unmet]
    · rfl
    · rintro ⟨variant, base, h⟩
      exact Option.some_ne_none variant ((match?_of_overtakes h).symm.trans unmet)

/-- A header with one range asks for that tag alone, whatever the quality. -/
theorem bestFor?_of_single {header : Option String}
    (single : (asked header).map Preference.tag = [tag]) : r.bestFor? header = r.match? tag := by
  obtain ⟨p, only, rfl⟩ := List.map_eq_singleton_iff.mp single
  have list : preferencesIn (header.getD "").toList = [p] := only
  unfold bestFor? preferences
  rw [list, ranked_singleton, List.findSome?_cons]
  cases r.match? p.tag <;> rfl

/-- A tag that is asked for by itself and as the only range of a header is given the same, unless a
variant overtakes the bare language. Then it is given the bare language by itself and the variant
in a header. -/
theorem validate_eq_bestMatch_iff (listed : r.Listed) (trimmed : trimString tag = tag) :
    ((r.validate (some tag)).value = (r.bestMatch [tag]).getD r.default ↔
      ¬ ∃ variant base, r.Overtakes tag variant base) ∧
    (∀ variant base, r.Overtakes tag variant base →
      (r.validate (some tag)).value = base ∧ r.bestMatch [tag] = some variant) ∧
    ∀ header, (asked header).map Preference.tag = [tag] →
      (r.resolve header).value = (r.bestMatch [tag]).getD r.default := by
  rw [value_validate listed trimmed, bestMatch_singleton]
  have overtaken : ∀ variant base, r.Overtakes tag variant base →
      (r.supported? tag).getD r.default = base ∧ r.match? tag = some variant := by
    intro variant base h
    rw [supported?_of_overtakes listed h]
    exact ⟨rfl, match?_of_overtakes h⟩
  refine ⟨⟨?_, fun free => ?_⟩, overtaken, fun header single => ?_⟩
  · rintro same ⟨variant, base, h⟩
    obtain ⟨alone, headed⟩ := overtaken variant base h
    rw [alone, headed, Option.getD_some] at same
    exact h.regional (same ▸ h.bare.2)
  · rw [supported?_eq_match? listed free]
  · rw [value_resolve, bestFor?_of_single single]

/-- Two forms of Portuguese are supported, the variant first. -/
def portuguese : Resolver := ⟨["pt-BR", "pt"], "en"⟩

theorem portuguese_listed : portuguese.Listed where
  nonempty := by decide
  codes := by decide +kernel
  distinct := by decide +kernel

/-- A tag that is on the list is given itself in both ways. -/
theorem brazilian_agrees : portuguese.Listed ∧ trimString "PT-br" = "PT-br" ∧
    (portuguese.validate (some "PT-br")).value = "pt-BR" ∧
    (asked (some "PT-br;q=0.5")).map Preference.tag = ["PT-br"] ∧
    (portuguese.resolve (some "PT-br;q=0.5")).value = "pt-BR" := by
  have trimmed : trimString "PT-br" = "PT-br" := by decide +kernel
  obtain ⟨agree, -, header⟩ := validate_eq_bestMatch_iff portuguese_listed trimmed
  have best : portuguese.bestMatch ["PT-br"] = some "pt-BR" := by decide +kernel
  have single : (asked (some "PT-br;q=0.5")).map Preference.tag = ["PT-br"] := by decide +kernel
  refine ⟨portuguese_listed, trimmed, ?_, single, ?_⟩
  · have same := agree.mpr ?_
    · rw [same, best]
      rfl
    · rintro ⟨variant, base, h⟩
      exact h.unspelled "pt-BR" (by decide) (by decide +kernel)
  · rw [header _ single, best]
    rfl

/-- Another variant is given the bare language by itself and Brazilian in a header. -/
theorem european_disagrees : portuguese.Listed ∧ trimString "pt-PT" = "pt-PT" ∧
    (portuguese.validate (some "pt-PT")).value = "pt" ∧
    portuguese.bestMatch ["pt-PT"] = some "pt-BR" ∧
    (asked (some "pt-PT")).map Preference.tag = ["pt-PT"] ∧
    (portuguese.resolve (some "pt-PT")).value = "pt-BR" :=
  ⟨portuguese_listed, by decide +kernel⟩

end Localization.Negotiation.Resolver
