import Localization.Proofs.Markup.Reference
import Localization.Proofs.Markup.SafeOutput

/-! # Escaping loses nothing

Escaping writes some characters as references that a semicolon ends, and every ampersand is among
them. So each reference of an escaped text is read as the character that it was written for,
whatever the text holds and whatever stands behind it. The escaped text ends where it is closed by a
tag or a quotation mark, because it holds none of the characters that do so.
-/
namespace Localization.Markup

def escapedByName : List (String × Char) := [("amp", '&'), ("lt", '<'), ("gt", '>'), ("quot", '"')]

theorem unescape_byName {name : String} {c : Char} (listed : (name, c) ∈ escapedByName)
    (rest : List Char) :
    unescape ('&' :: name.toList ++ ';' :: rest) = (unescape rest).map (c :: ·) := by
  have each : ∀ entry ∈ escapedByName,
      entry.1.toList.length ≤ 32 ∧ entry.1.toList.all isReferenceChar = true := by decide
  have known : ∀ entry ∈ escapedByName, named? entry.1.toList = some [entry.2] := by
    simp only [named?, lookup_namedReferences]
    decide +kernel
  obtain ⟨short, chars⟩ := each _ listed
  exact unescape_named short (List.all_eq_true.mp chars) (known _ listed) rest

theorem unescape_escapeChar_append (c : Char) (rest : List Char) :
    unescape (escapeChar c ++ rest) = (unescape rest).map (c :: ·) := by
  rw [escapeChar]
  split
  · next same => exact same ▸ unescape_byName (show ("amp", '&') ∈ escapedByName by decide) rest
  split
  · next same => exact same ▸ unescape_byName (show ("lt", '<') ∈ escapedByName by decide) rest
  split
  · next same => exact same ▸ unescape_byName (show ("gt", '>') ∈ escapedByName by decide) rest
  split
  · next same => exact same ▸ unescape_byName (show ("quot", '"') ∈ escapedByName by decide) rest
  split
  · next same =>
    have digits : "039".toList.all Char.isDigit = true := by decide
    exact same ▸ unescape_numbered (by decide) (List.all_eq_true.mp digits) (by decide) rest
  · next plain _ _ _ _ => exact unescape_cons (if_neg plain)

/-- Escaped text is resolved on its own, before whatever follows it. -/
theorem unescape_escape_append (cs rest : List Char) :
    unescape (escape cs ++ rest) = (unescape rest).map (cs ++ ·) := by
  induction cs with
  | nil => cases resolved : unescape rest <;> exact resolved
  | cons c others ih =>
    rw [escape, List.flatMap_cons, List.append_assoc, unescape_escapeChar_append, ← escape, ih]
    cases unescape rest <;> rfl

theorem unescape_escape (cs : List Char) : unescape (escape cs) = .ok cs := by
  have whole := unescape_escape_append cs []
  rw [List.append_nil] at whole
  rw [whole, show unescape [] = .ok [] from rfl]
  exact congrArg Except.ok (List.append_nil cs)

theorem escape_inj {a b : List Char} : escape a = escape b ↔ a = b := by
  refine ⟨fun same => ?_, congrArg escape⟩
  have both := unescape_escape a
  rw [same, unescape_escape] at both
  exact (Except.ok.inj both).symm

def closingMarks : List Char := ['<', '>', '"', '\'']

/-- What a browser shows of a text up to a mark that closes it: the start of the next tag for the
content of an element, a quotation mark for the value of an attribute. -/
def shownUpTo (mark : Char) (cs : List Char) : Except Failure (List Char) :=
  unescape (cs.takeWhile (· != mark))

theorem not_mem_escape {mark : Char} (closes : mark ∈ closingMarks) (cs : List Char) :
    mark ∉ escape cs := by
  intro inside
  obtain ⟨lt, gt, quote, apostrophe⟩ := (isEscaped_escape cs).noMark mark inside
  simp [closingMarks, lt, gt, quote, apostrophe] at closes

theorem shownUpTo_escape {mark : Char} (closes : mark ∈ closingMarks) (cs after : List Char) :
    shownUpTo mark (escape cs ++ mark :: after) = .ok cs := by
  have up : (escape cs ++ mark :: after).takeWhile (· != mark) = escape cs := by
    refine Text.takeWhile_append_of_stop (fun c inside => bne_iff_ne.mpr ?_)
      (Text.forall_head?_cons.mpr (bne_self_eq_false mark))
    rintro rfl
    exact not_mem_escape closes cs inside
  rw [shownUpTo, up, unescape_escape]

/-- Escaping is undone by resolving references, alone and before any other text, and the escaped
form of a text is made of those of its parts. It holds no mark that could close it, so up to such a
mark a browser shows the text that was escaped. -/
theorem escaping_lossless (a b : List Char) :
    unescape (escape a) = .ok a ∧
    (∀ mark ∈ ['<', '>', '"', '\''], mark ∉ escape a) ∧
    escape (a ++ b) = escape a ++ escape b ∧
    (escape a = escape b ↔ a = b) ∧
    (∀ after, unescape (escape a ++ after) = (unescape after).map (a ++ ·)) ∧
    ∀ mark ∈ ['<', '>', '"', '\''], ∀ after,
      shownUpTo mark (escape a ++ mark :: after) = .ok a :=
  ⟨unescape_escape a, fun _ closes => not_mem_escape closes a, escape_append a b, escape_inj,
    unescape_escape_append a, fun _ closes => shownUpTo_escape closes a⟩

/-- References that a text already holds are shown as they are written. -/
theorem heldReferences_shown :
    '<' ∈ ['<', '>', '"', '\''] ∧
      shownUpTo '<' (escape "&lt; &#0; &amp".toList ++ "</b>".toList) =
        .ok "&lt; &#0; &amp".toList :=
  ⟨by decide, (escaping_lossless "&lt; &#0; &amp".toList []).2.2.2.2.2 '<' (by decide) "/b>".toList⟩

end Localization.Markup
