import Mathlib.Algebra.Group.Int.Defs
import Localization.Proofs.Text.Casing
import Localization.Proofs.Yaml.Cause
import Localization.Yaml.Scalar

/-! # Scalars that fit their tags

A scalar of an explicit tag can fail in every way that scalars fail. A scalar that has its tag from
its own form is of that form, so that it fails only by its size: a date out of range, a whole number
of too many digits, or a number of base sixty with too many parts.
-/
namespace Localization.Yaml

open Number Text

theorem ofInt_sixty {k : Nat} (small : k < leastLongColons) :
    (match Binary64.ofInt (60 ^ k) with
      | .finite .. => true
      | _ => false) = true := by
  revert k
  decide +kernel

theorem length_splitAt (sep : Char) (cs : List Char) :
    (splitAt sep cs).length = cs.count sep + 1 := by
  induction cs with
  | nil => rfl
  | cons c rest ih =>
    rw [splitAt]
    split
    · next same => rw [List.length_cons, ih, same, List.count_cons_self]
    · next differ =>
      rw [List.count_cons_of_ne differ, ← ih]
      cases parts : splitAt sep rest with
      | nil => exact absurd parts (splitAt_ne_nil sep rest)
      | cons part parts => rfl

section

variable [Stack] {text : List Char}

abbrev Explained {α : Type} (text : List Char) : Except Fault α → Prop := Yields text fun _ => True

theorem Explained.bind {α β : Type} {r : Except Fault α} {f : α → Except Fault β}
    (h : Explained text r) (rest : ∀ a, Explained text (f a)) : Explained text (r >>= f) :=
  Yields.bind h fun a _ => rest a

theorem explained_pure {α : Type} (a : α) : Explained text (pure a : Except Fault α) := trivial

theorem readInteger_explained (base : Nat) (cs : List Char) :
    Explained text (readInteger base cs) := by
  rw [readInteger]
  exact .ite (fun _ => trivial) fun _ => .ite (fun _ => trivial) fun _ => trivial

theorem readIntegers_explained (parts : List (List Char)) :
    Explained text (readIntegers parts) := by
  induction parts with
  | nil => exact trivial
  | cons part rest ih =>
    exact (readInteger_explained 10 part).bind fun n => ih.bind fun ns => explained_pure _

/-- A whole number without its sign fails without cause only when there is nothing of it. -/
theorem readUnsigned_explained {cs : List Char} (cause : cs = [] → '!' ∈ text) :
    Explained text (readUnsigned cs) := by
  rw [readUnsigned.eq_def]
  split
  · exact cause rfl
  · exact trivial
  · exact readInteger_explained ..
  · exact readInteger_explained ..
  · exact readInteger_explained ..
  · exact .ite (fun _ => (readIntegers_explained _).bind fun parts => explained_pure _)
      fun _ => readInteger_explained ..

theorem integerValue_explained {s : List Char}
    (cause : dropSign (dropUnderscores s) = [] → '!' ∈ text) :
    Explained text (integerValue s) := by
  rw [integerValue]
  refine .ite (fun none => cause ?_) fun _ => ?_
  · rw [List.isEmpty_iff.mp none]
    rfl
  · exact (readUnsigned_explained cause).bind fun n => explained_pure _

theorem readReal_explained (cs : List Char) : Explained text (readReal cs) := by
  rw [readReal]
  split <;> exact trivial

theorem readReals_explained (parts : List (List Char)) :
    Yields text (fun xs => xs.length = parts.length) (readReals parts) := by
  induction parts with
  | nil => exact .ok rfl
  | cons part rest ih =>
    refine Yields.bind (readReal_explained part) fun x _ => ih.bind fun xs same => ?_
    exact .ok (congrArg (· + 1) same)

theorem sumSexagesimal_explained (parts : List Binary64) (k : Nat) (sum : Binary64)
    (cause : leastLongColons < k + parts.length → Fault.realSize.Cause text) :
    Explained text (sumSexagesimal parts (60 ^ k) sum) := by
  induction parts generalizing k sum with
  | nil => exact trivial
  | cons part rest ih =>
    rw [List.length_cons] at cause
    rw [sumSexagesimal]
    split
    · exact ih (k + 1) _ fun long => cause (by omega)
    · next large =>
      refine cause (Nat.lt_of_not_le fun short => ?_)
      have finite := ofInt_sixty (k := k) (by omega)
      split at finite
      · next fits => exact large _ _ _ fits
      · cases finite

theorem realValue_explained {s : List Char}
    (none : lower (dropUnderscores s) = [] → '!' ∈ text)
    (colons : '!' ∈ text ∨
      (dropSign (lower (dropUnderscores s))).count ':' ≤ text.count ':') :
    Explained text (realValue s) := by
  rw [realValue]
  refine .ite (fun empty => none (List.isEmpty_iff.mp empty)) fun _ => ?_
  dsimp only
  refine .ite (fun _ => trivial) fun _ => .ite (fun _ => trivial) fun _ => .ite (fun _ => ?_)
    fun _ => (readReal_explained _).bind fun x => explained_pure _
  refine (readReals_explained _).bind fun xs parts => ?_
  refine Explained.bind (sumSexagesimal_explained xs.reverse 0 _ fun long => ?_)
    fun x => explained_pure _
  refine colons.imp_right fun fewer => ?_
  rw [List.length_reverse, parts, length_splitAt] at long
  have digits : (splitSign (lower (dropUnderscores s))).2 =
      dropSign (lower (dropUnderscores s)) := rfl
  rw [digits] at long
  omega

theorem booleanValue_explained {s : List Char}
    (cause : String.ofList (lower s) ∉ ["yes", "true", "on", "no", "false", "off"] →
      '!' ∈ text) : Explained text (booleanValue s) := by
  rw [booleanValue]
  refine .ite (fun _ => trivial) fun noTrue => .ite (fun _ => trivial) fun noFalse => cause ?_
  rw [List.contains_iff_mem] at noTrue noFalse
  exact fun word => (List.mem_append (s := ["yes", "true", "on"]).mp word).elim noTrue noFalse

theorem ofCalendar_explained {α : Type} (result : Except Calendar.Fault α) :
    Explained text (ofCalendar result) := by
  cases result <;> exact trivial

theorem zoneOffset_explained (zone : Option (Char × List Char × List Char)) :
    Explained text (zoneOffset zone) := by
  cases zone with
  | none => exact trivial
  | some zone => exact .ite (fun _ => trivial) fun _ => .ite (fun _ => trivial) fun _ => trivial

theorem timestampValue_explained {s : List Char}
    (cause : readStamp? (dropFinalBreak s) = none → '!' ∈ text) :
    Explained text (timestampValue s) := by
  rw [timestampValue]
  split
  · next none => exact cause none
  · dsimp only
    split
    · exact (ofCalendar_explained _).bind fun d => explained_pure _
    · exact (zoneOffset_explained _).bind fun offset =>
        (ofCalendar_explained _).bind fun t => explained_pure _

theorem binaryValue_explained (s : List Char) : Explained text (binaryValue s) := by
  rw [binaryValue]
  refine .ite (fun _ => yields_malformed) fun _ => ?_
  split <;> exact trivial

theorem scalarValue_explained_of_mark (mark : '!' ∈ text) (tag : Tag) (s : List Char) :
    Explained text (scalarValue tag s) := by
  cases tag with
  | boolean => exact booleanValue_explained fun _ => mark
  | integer => exact integerValue_explained fun _ => mark
  | real => exact realValue_explained (fun _ => mark) (.inl mark)
  | timestamp => exact timestampValue_explained fun _ => mark
  | binary => exact binaryValue_explained s
  | _ => exact trivial

end

def Ascii (cs : List Char) : Prop := ∀ c ∈ cs, c.toNat < 128

theorem ascii_append {a b : List Char} (ha : Ascii a) (hb : Ascii b) : Ascii (a ++ b) :=
  fun c inside => (List.mem_append.mp inside).elim (ha c) (hb c)

theorem ascii_cons {c : Char} {cs : List Char} (hc : c.toNat < 128) (hcs : Ascii cs) :
    Ascii (c :: cs) := by
  intro d inside
  rcases List.mem_cons.mp inside with rfl | later
  · exact hc
  · exact hcs d later

theorem ascii_nil : Ascii [] := fun _ => False.elim ∘ List.not_mem_nil

theorem toNat_lt_of_isDigit {c : Char} (h : c.isDigit = true) : c.toNat < 128 :=
  toNat_lt_of_isAlphanum (Bool.or_eq_true_iff.mpr (.inr h))

theorem toNat_lt_of_isDigitOrUnderscore {c : Char} (h : isDigitOrUnderscore c = true) :
    c.toNat < 128 := by
  rcases Bool.or_eq_true_iff.mp h with digit | underscore
  · exact toNat_lt_of_isDigit digit
  · rw [beq_iff_eq.mp underscore]
    decide

theorem ascii_of_all {cs : List Char} (h : cs.all isDigitOrUnderscore = true) : Ascii cs :=
  fun c inside => toNat_lt_of_isDigitOrUnderscore (List.all_eq_true.mp h c inside)

theorem ascii_isExponent {cs : List Char} (h : isExponent cs = true) : Ascii cs := by
  match cs, h with
  | [], _ => exact ascii_nil
  | e :: sign :: digits, h =>
    simp only [isExponent, Bool.and_eq_true, Bool.or_eq_true, beq_iff_eq] at h
    obtain ⟨⟨⟨letter, mark⟩, -⟩, numbers⟩ := h
    refine ascii_cons ?_ (ascii_cons ?_ fun c inside =>
      toNat_lt_of_isDigit (List.all_eq_true.mp numbers c inside))
    · rcases letter with rfl | rfl <;> decide
    · rcases mark with rfl | rfl <;> decide

theorem ascii_isDigits {cs : List Char} (h : isDigits cs = true) : Ascii cs := by
  match cs, h with
  | d :: rest, h =>
    obtain ⟨digit, others⟩ := Bool.and_eq_true_iff.mp h
    exact ascii_cons (toNat_lt_of_isDigit digit) (ascii_of_all others)

theorem ascii_isSexagesimalPart {cs : List Char} (h : isSexagesimalPart cs = true) :
    Ascii cs := by
  match cs, h with
  | [d], h => exact ascii_cons (toNat_lt_of_isDigit h) ascii_nil
  | [t, d], h =>
    simp only [isSexagesimalPart, Bool.and_eq_true, decide_eq_true_eq] at h
    refine ascii_cons ?_ (ascii_cons (toNat_lt_of_isDigit h.2) ascii_nil)
    exact Nat.lt_of_le_of_lt (UInt32.le_iff_toNat_le.mp h.1.2) (by decide)

theorem ascii_isSexagesimal {first : Char → Bool} {cs : List Char}
    (h : isSexagesimal first cs = true) : Ascii cs := by
  intro c inside
  by_cases colon : c = ':'
  · rw [colon]
    decide
  · obtain ⟨part, listed, there⟩ := exists_mem_splitAt inside colon
    rw [isSexagesimal] at h
    split at h
    · next lead second parts split =>
      simp only [Bool.and_eq_true] at h
      rw [split] at listed
      rcases List.mem_cons.mp listed with rfl | later
      · exact ascii_isDigits h.1.1 c there
      · exact ascii_isSexagesimalPart (List.all_eq_true.mp h.2 part later) c there
    · cases h

theorem takeWhile_append_drop (p : Char → Bool) (cs : List Char) :
    cs.takeWhile p ++ cs.drop (cs.takeWhile p).length = cs := by
  induction cs with
  | nil => rfl
  | cons c rest ih =>
    rw [List.takeWhile_cons]
    split
    · exact congrArg (c :: ·) ih
    · rfl

structure IsPointText (cs : List Char) : Prop where
  point : '.' ∈ cs
  ascii : Ascii cs

theorem IsPointText.around {before after : List Char} (ha : Ascii before) (hb : Ascii after) :
    IsPointText (before ++ '.' :: after) :=
  ⟨by simp, ascii_append ha (ascii_cons (by decide) hb)⟩

theorem IsPointText.of_dropSign {cs : List Char} (h : IsPointText (dropSign cs)) :
    IsPointText cs := by
  rw [dropSign.eq_def] at h
  split at h
  · exact ⟨List.mem_cons_of_mem _ h.point, ascii_cons (by decide) h.ascii⟩
  · exact ⟨List.mem_cons_of_mem _ h.point, ascii_cons (by decide) h.ascii⟩
  · exact h

theorem isPointText_of_word {words : List String} {cs : List Char}
    (listed : words.contains (String.ofList cs) = true)
    (all : (words.all fun word =>
      word.toList.contains '.' && word.toList.all fun c => c.toNat < 128) = true) :
    IsPointText cs := by
  have one := List.all_eq_true.mp all _ (List.contains_iff_mem.mp listed)
  rw [String.toList_ofList] at one
  obtain ⟨point, ascii⟩ := Bool.and_eq_true_iff.mp one
  refine ⟨List.contains_iff_mem.mp point, fun c inside => ?_⟩
  exact of_decide_eq_true (List.all_eq_true.mp ascii c inside)

theorem ascii_takeWhile (cs : List Char) : Ascii (cs.takeWhile isDigitOrUnderscore) :=
  ascii_of_all List.all_takeWhile

theorem ascii_fraction {cs : List Char}
    (h : isExponent (cs.dropWhile isDigitOrUnderscore) = true) : Ascii cs := by
  rw [← List.takeWhile_append_dropWhile (p := isDigitOrUnderscore) (l := cs)]
  exact ascii_append (ascii_takeWhile cs) (ascii_isExponent h)

theorem isPointText_of_isPointed {cs : List Char} (h : isPointed cs = true) : IsPointText cs := by
  have whole := takeWhile_append_drop isDigitOrUnderscore cs
  rw [isPointed] at h
  split at h
  · next rest after =>
    rw [after] at whole
    rw [← whole]
    exact .around (ascii_takeWhile cs) (ascii_fraction (Bool.and_eq_true_iff.mp h).2)
  · cases h

theorem isPointText_of_isSexagesimalReal {cs : List Char} (h : isSexagesimalReal cs = true) :
    IsPointText cs := by
  have whole := takeWhile_append_drop (· != '.') cs
  rw [isSexagesimalReal] at h
  split at h
  · next rest after =>
    obtain ⟨parts, digits⟩ := Bool.and_eq_true_iff.mp h
    rw [after] at whole
    rw [← whole]
    exact .around (ascii_isSexagesimal parts) (ascii_of_all digits)
  · cases h

theorem isPointText_of_isRealText {cs : List Char} (h : isRealText cs = true) :
    IsPointText cs := by
  simp only [isRealText, Bool.or_eq_true] at h
  rcases h with (((pointed | sixty) | infinite) | noNumber) | leading
  · exact (isPointText_of_isPointed pointed).of_dropSign
  · exact (isPointText_of_isSexagesimalReal sixty).of_dropSign
  · exact (isPointText_of_word infinite (by decide)).of_dropSign
  · exact isPointText_of_word noNumber (by decide)
  · split at leading
    · exact .around ascii_nil (ascii_fraction (Bool.and_eq_true_iff.mp leading).2)
    · cases leading

theorem IsPointText.realValue [Stack] {text s : List Char} (h : IsPointText s)
    (colons : s.count ':' ≤ text.count ':') : Explained text (realValue s) := by
  have kept : Ascii (dropUnderscores s) := fun c inside => h.ascii c (List.mem_filter.mp inside).1
  have point : '.' ∈ dropUnderscores s := List.mem_filter.mpr ⟨h.point, by decide⟩
  have colon (c : Char) : (c.toLower == ':') = true → (c == ':') = true := by
    intro same
    by_cases ascii : c.toNat < 128
    · exact ascii_forall (P := fun c => (c.toLower == ':') = true → (c == ':') = true)
        (by decide +kernel) ascii same
    · rwa [toLower_of_not_ascii ascii] at same
  have fewer : ((dropUnderscores s).map Char.toLower).count ':' ≤ s.count ':' := by
    have among : (dropUnderscores s).count ':' ≤ s.count ':' := List.filter_sublist.count_le ':'
    refine Nat.le_trans ?_ among
    rw [List.count_eq_countP, List.countP_map, List.count_eq_countP]
    exact List.countP_mono_left fun c _ => colon c
  have unsigned (cs : List Char) : (dropSign cs).count ':' ≤ cs.count ':' := by
    rw [dropSign.eq_def]
    split
    · exact List.count_le_count_cons
    · exact List.count_le_count_cons
    · exact Nat.le_refl _
  refine realValue_explained (fun empty => ?_) (.inr ?_)
  · rw [lower_of_ascii kept] at empty
    rw [List.map_eq_nil_iff.mp empty] at point
    exact absurd point List.not_mem_nil
  · rw [lower_of_ascii kept]
    exact Nat.le_trans (unsigned _) (Nat.le_trans fewer colons)

def StartsWithDigit (cs : List Char) : Prop := ∃ d rest, cs = d :: rest ∧ d.isDigit = true

theorem startsWithDigit_of_isDigits {cs : List Char} (h : isDigits cs = true) :
    StartsWithDigit cs := by
  match cs, h with
  | d :: rest, h => exact ⟨d, rest, rfl, (Bool.and_eq_true_iff.mp h).1⟩

theorem startsWithDigit_of_isSexagesimal {first : Char → Bool} {cs : List Char}
    (h : isSexagesimal first cs = true) : StartsWithDigit cs := by
  have whole := joinWith_splitAt ':' cs
  rw [isSexagesimal] at h
  split at h
  · next lead part parts split =>
    simp only [Bool.and_eq_true] at h
    obtain ⟨d, rest, rfl, digit⟩ := startsWithDigit_of_isDigits h.1.1
    rw [split] at whole
    exact ⟨d, _, whole.symm, digit⟩
  · cases h

theorem startsWithDigit_of_isIntegerText {cs : List Char} (h : isIntegerText cs = true) :
    StartsWithDigit (dropSign cs) := by
  have zero (rest : List Char) : StartsWithDigit ('0' :: rest) := ⟨'0', rest, rfl, rfl⟩
  rw [isIntegerText] at h
  split at h
  · next same => exact same ▸ zero _
  · next same => exact same ▸ zero _
  · next same => exact same ▸ zero _
  · next same => exact same ▸ zero _
  · rcases Bool.or_eq_true_iff.mp h with digits | sixty
    · exact startsWithDigit_of_isDigits digits
    · exact startsWithDigit_of_isSexagesimal sixty

theorem StartsWithDigit.dropSign_ne_nil {s : List Char} (h : StartsWithDigit (dropSign s)) :
    dropSign (dropUnderscores s) ≠ [] := by
  have kept {cs : List Char} (h : StartsWithDigit cs) : StartsWithDigit (dropUnderscores cs) := by
    obtain ⟨d, rest, rfl, digit⟩ := h
    refine ⟨d, dropUnderscores rest, List.filter_cons_of_pos ?_, digit⟩
    exact bne_iff_ne.mpr fun same => by rw [same] at digit; exact absurd digit (by decide)
  have some {cs : List Char} (h : StartsWithDigit cs) : cs ≠ [] := by
    obtain ⟨d, rest, rfl, -⟩ := h
    exact List.cons_ne_nil d rest
  rw [dropSign.eq_def] at h
  split at h
  · exact some (kept h)
  · exact some (kept h)
  · obtain ⟨d, rest, same, digit⟩ := kept h
    rw [same, dropSign.eq_def]
    split
    · next plus => rw [(List.cons.inj plus).1] at digit; exact absurd digit (by decide)
    · next minus => rw [(List.cons.inj minus).1] at digit; exact absurd digit (by decide)
    · exact List.cons_ne_nil d rest

theorem scalarValue_explained_of_form [Stack] {text s : List Char} (last : s.getLast? ≠ some '\n')
    (colons : s.count ':' ≤ text.count ':') :
    Explained text (scalarValue (tagOfText s) s) := by
  have whole : dropFinalBreak s = s := if_neg fun feed =>
    last (beq_iff_eq.mp (Bool.and_eq_true_iff.mp feed).1)
  rw [tagOfText, whole]
  split
  · next word =>
    have lowered : ∀ word ∈ booleanWords, String.ofList (lower word.toList) ∈
        ["yes", "true", "on", "no", "false", "off"] := by decide +kernel
    have known := lowered _ (List.contains_iff_mem.mp word)
    rw [String.toList_ofList] at known
    exact booleanValue_explained fun other => absurd known other
  split
  · next form => exact (isPointText_of_isRealText form).realValue colons
  split
  · next form =>
    exact integerValue_explained fun none =>
      absurd none (startsWithDigit_of_isIntegerText form).dropSign_ne_nil
  split
  · exact yields_malformed
  split
  · exact trivial
  split
  · next form =>
    refine timestampValue_explained fun none => ?_
    rw [isStampText, ← whole, none] at form
    cases form
  split <;> exact trivial

end Localization.Yaml
