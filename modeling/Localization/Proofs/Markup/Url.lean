import Localization.Markup.Url
import Localization.Proofs.Markup.Reference
import Localization.Proofs.Text.Casing
import Localization.Proofs.Text.Span

/-! # Addresses as a browser reads them

A browser passes over tabs and line ends in an address and over blanks and control
characters before it. What then stands before a colon is the scheme, if it begins with a
letter and holds only characters of schemes. In this reading an address that is judged safe
has no scheme or a safe one, whether or not its character references are resolved.
-/
namespace Localization.Markup

open Text

def isPassedOver (c : Char) : Bool := c == '\t' || c == '\n' || c == '\r'

def isLeading (c : Char) : Bool := c.toNat ≤ 0x20

def browserScheme? (url : List Char) : Option (List Char) :=
  let read := (url.filter (!isPassedOver ·)).dropWhile isLeading
  let scheme := read.takeWhile isSchemeChar
  match scheme, read.dropWhile isSchemeChar with
  | first :: _, ':' :: _ => if first.isAlpha then some scheme else none
  | _, _ => none

/-- A scheme in an address: what a browser passes over, the scheme, and a colon. -/
structure HasScheme (url scheme : List Char) : Prop where
  start : ∃ c rest, scheme = c :: rest ∧ c.isAlpha = true
  chars : ∀ c ∈ scheme, isSchemeChar c = true
  place : ∃ before lead after, url = before ++ ':' :: after ∧
    before.filter (!isPassedOver ·) = lead ++ scheme ∧ ∀ c ∈ lead, isLeading c = true

theorem hasScheme_of_browserScheme? {url scheme : List Char}
    (h : browserScheme? url = some scheme) : HasScheme url scheme := by
  rw [browserScheme?] at h
  generalize parts : url.filter (!isPassedOver ·) = shown at h
  split at h
  · next first others tail name colon =>
    split at h
    · next letter =>
      obtain rfl := Option.some.inj h
      have read := List.takeWhile_append_dropWhile (p := isSchemeChar)
        (l := shown.dropWhile isLeading)
      rw [colon] at read
      have whole : shown = (shown.takeWhile isLeading ++
          (shown.dropWhile isLeading).takeWhile isSchemeChar) ++ ':' :: tail := by
        rw [List.append_assoc, read, List.takeWhile_append_dropWhile]
      rw [whole] at parts
      obtain ⟨before, rest, rfl, kept, others⟩ := List.filter_eq_append_iff.mp parts
      obtain ⟨passed, after, rfl, dropped, -⟩ := List.filter_eq_cons_iff.mp others
      refine ⟨⟨first, _, name, letter⟩, ?_, before ++ passed, shown.takeWhile isLeading, after,
        (List.append_assoc ..).symm, ?_, ?_⟩
      · exact List.all_eq_true.mp List.all_takeWhile
      · rw [List.filter_append, kept, List.filter_eq_nil_iff.mpr dropped, List.append_nil]
      · exact List.all_eq_true.mp List.all_takeWhile
    · cases h
  · cases h

theorem toNat_lt_of_isSchemeChar {c : Char} (h : isSchemeChar c = true) : c.toNat < 128 := by
  simp only [isSchemeChar, Bool.or_eq_true, beq_iff_eq] at h
  rcases h with ((word | rfl) | rfl) | rfl
  · exact toNat_lt_of_isAlphanum word
  all_goals decide

theorem isSchemeChar_apart {c : Char} (h : isSchemeChar c = true) :
    isControl c = false ∧ isBlank c = false ∧ isPathMark c = false ∧ c ≠ ':' ∧ c ≠ '&' :=
  ascii_forall (P := fun c => isSchemeChar c = true →
      isControl c = false ∧ isBlank c = false ∧ isPathMark c = false ∧ c ≠ ':' ∧ c ≠ '&')
    (by decide +kernel) (toNat_lt_of_isSchemeChar h) h

theorem isControl_of_isPassedOver {c : Char} (h : isPassedOver c = true) : isControl c = true := by
  simp only [isPassedOver, Bool.or_eq_true, beq_iff_eq] at h
  rcases h with (rfl | rfl) | rfl <;> decide

theorem isControl_or_isBlank_of_isLeading {c : Char} (h : isLeading c = true) :
    isControl c = true ∨ isBlank c = true := by
  have small : c.toNat ≤ 0x20 := of_decide_eq_true h
  rcases Nat.lt_or_ge c.toNat 0x20 with control | space
  · left
    simp only [isControl, Bool.or_eq_true, decide_eq_true_eq]
    omega
  · right
    have same : c.toNat = 0x20 := by omega
    simp [isBlank, same]

theorem HasScheme.not_mem_before {before lead scheme : List Char}
    (chars : ∀ c ∈ scheme, isSchemeChar c = true) (leading : ∀ c ∈ lead, isLeading c = true)
    (kept : before.filter (!isPassedOver ·) = lead ++ scheme) : '&' ∉ before := by
  intro inside
  have shown : '&' ∈ lead ++ scheme := by
    rw [← kept]
    exact List.mem_filter.mpr ⟨inside, by decide⟩
  rcases List.mem_append.mp shown with early | named
  · exact absurd (leading _ early) (by decide)
  · exact absurd (chars _ named) (by decide)

theorem HasScheme.unescape {url resolved scheme : List Char} (h : HasScheme url scheme)
    (reads : unescape url = .ok resolved) : HasScheme resolved scheme := by
  obtain ⟨before, lead, after, rfl, kept, leading⟩ := h.place
  have noReference := HasScheme.not_mem_before h.chars leading kept
  have noMark : '&' ∉ before ++ [':'] := by simp [noReference]
  rw [show before ++ ':' :: after = (before ++ [':']) ++ after by simp,
    unescape_append noMark after] at reads
  obtain ⟨shown, -, rfl⟩ := map_eq_ok_iff.mp reads
  exact ⟨h.start, h.chars, before, lead, shown, by simp, kept, leading⟩

theorem HasScheme.trim_filter {url scheme : List Char} (h : HasScheme url scheme) :
    ∃ rest, trim (url.filter (!isControl ·)) = scheme ++ ':' :: rest := by
  obtain ⟨before, lead, after, rfl, kept, leading⟩ := h.place
  have named : scheme.filter (!isControl ·) = scheme := by
    refine List.filter_eq_self.mpr fun c inside => ?_
    rw [(isSchemeChar_apart (h.chars c inside)).1]
    rfl
  have early : before.filter (!isControl ·) = lead.filter (!isControl ·) ++ scheme := by
    have coarser : before.filter (!isControl ·) =
        (before.filter (!isPassedOver ·)).filter (!isControl ·) := by
      rw [List.filter_filter]
      refine List.filter_congr fun c _ => ?_
      cases passed : isPassedOver c with
      | false => simp
      | true => simp [isControl_of_isPassedOver passed]
    rw [coarser, kept, List.filter_append, named]
  have blank : ∀ c ∈ lead.filter (!isControl ·), isBlank c = true := by
    intro c inside
    obtain ⟨first, visible⟩ := List.mem_filter.mp inside
    rcases isControl_or_isBlank_of_isLeading (leading c first) with control | blank
    · simp [control] at visible
    · exact blank
  obtain ⟨c, rest, rfl, -⟩ := h.start
  have stops : isBlank c = false := (isSchemeChar_apart (h.chars c List.mem_cons_self)).2.1
  have colon : (':' :: after).filter (!isControl ·) = ':' :: after.filter (!isControl ·) :=
    List.filter_cons_of_pos (by decide)
  refine ⟨dropRightWhile isBlank (after.filter (!isControl ·)), ?_⟩
  rw [List.filter_append, early, colon, trim, List.append_assoc,
    List.dropWhile_append_of_pos blank, List.cons_append, List.dropWhile_cons, stops]
  exact dropRightWhile_append_cons (by decide) (c :: rest) _

theorem isSafeScheme_of_isSafeJudged {scheme rest : List Char}
    (start : ∃ c others, scheme = c :: others ∧ c.isAlpha = true)
    (chars : ∀ c ∈ scheme, isSchemeChar c = true)
    (safe : isSafeJudged (scheme ++ ':' :: rest) = true) : isSafeScheme scheme = true := by
  have upToColon : (scheme ++ ':' :: rest).takeWhile (· != ':') = scheme := by
    rw [List.takeWhile_append_of_pos fun c inside =>
      bne_iff_ne.mpr (isSchemeChar_apart (chars c inside)).2.2.2.1]
    simp
  have noMark : scheme.any isPathMark = false := by
    refine List.any_eq_false.mpr fun c inside => ?_
    simp [(isSchemeChar_apart (chars c inside)).2.2.1]
  have inScheme : scheme.all isSchemeChar = true := List.all_eq_true.mpr chars
  rw [isSafeJudged.eq_def, upToColon] at safe
  obtain ⟨c, others, rfl, letter⟩ := start
  have noPath : isPathMark c = false := (isSchemeChar_apart (chars c List.mem_cons_self)).2.2.1
  have noDot : (c == '.') = false := by
    refine beq_eq_false_iff_ne.mpr ?_
    rintro rfl
    exact absurd letter (by decide)
  simpa [noPath, noDot, noMark, letter, inScheme] using safe

theorem safe_of_browserScheme? {url : List Char} (safe : isSafeUrl url = .ok true) :
    ∃ resolved, unescape url = .ok resolved ∧ ∀ reading ∈ [url, resolved], ∀ scheme,
      browserScheme? reading = some scheme →
        String.ofList (scheme.map Char.toLower) ∈ safeSchemes := by
  obtain ⟨cleaned, reads, judged⟩ := map_eq_ok_iff.mp safe
  obtain ⟨resolved, resolves, rfl⟩ := map_eq_ok_iff.mp reads
  refine ⟨resolved, resolves, fun reading either scheme found => ?_⟩
  have inside : HasScheme resolved scheme := by
    have here := hasScheme_of_browserScheme? found
    rcases List.mem_cons.mp either with rfl | other
    · exact here.unescape resolves
    · rwa [List.mem_singleton.mp other] at here
  obtain ⟨rest, begins⟩ := inside.trim_filter
  rw [begins] at judged
  have allowed := isSafeScheme_of_isSafeJudged inside.start inside.chars judged
  have ascii : ∀ c ∈ scheme, c.toNat < 128 := fun c listed =>
    toNat_lt_of_isSchemeChar (inside.chars c listed)
  rw [isSafeScheme, lower_of_ascii ascii] at allowed
  exact List.contains_iff_mem.mp allowed

end Localization.Markup
