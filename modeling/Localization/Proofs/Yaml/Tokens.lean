import Mathlib.Algebra.GroupWithZero.Nat
import Mathlib.Data.List.Induction
import Localization.Proofs.Text.Casing
import Localization.Proofs.Yaml.Cause

/-! # Tokens and the text they come from

Tags and aliases are written with their marks, and a plain text ends in no line feed and has no
more colons than the text around it. Reading tokens fails as the text gives cause for.
-/
namespace Localization.Yaml

open Text

variable {text : List Char} {c : Cursor}

def Token.weight : Token → Nat
  | .flowSequence => 1
  | .flowMapping => 1
  | .blockEntry => 1
  | .key => 1
  | _ => 0

def Token.IsFrom (text : List Char) : Token → Prop
  | .tag _ _ => '!' ∈ text
  | .alias _ => '*' ∈ text
  | .scalar s true => s.getLast? ≠ some '\n' ∧ s.count ':' ≤ text.count ':'
  | _ => True

theorem Token.IsFrom.of_suffix {last : List Char} (h : last <:+ text) {t : Token}
    (isFrom : t.IsFrom last) : t.IsFrom text := by
  rw [Token.IsFrom.eq_def] at isFrom ⊢
  split at isFrom
  · exact h.subset isFrom
  · exact h.subset isFrom
  · exact isFrom.imp_right (Nat.le_trans · (h.sublist.count_le ':'))
  · exact trivial

theorem toNat_lt_of_isHex {d : Char} (h : isHex d = true) : d.toNat < 128 := by
  have below {last : Char} (le : d ≤ last) (ascii : last.toNat < 128) : d.toNat < 128 :=
    Nat.lt_of_le_of_lt (UInt32.le_iff_toNat_le.mp le) ascii
  simp only [isHex, Bool.or_eq_true, Bool.and_eq_true, decide_eq_true_eq] at h
  rcases h with (digit | ⟨-, small⟩) | ⟨-, capital⟩
  · exact toNat_lt_of_isAlphanum (Bool.or_eq_true_iff.mpr (.inr digit))
  · exact below small (by decide)
  · exact below capital (by decide)

theorem hexDigitValue_lt {d : Char} (h : isHex d = true) : hexDigitValue d < 16 :=
  ascii_forall (P := fun d => isHex d = true → hexDigitValue d < 16) (by decide +kernel)
    (toNat_lt_of_isHex h) h

theorem hexNumber_lt {digits : List Char} (hex : ∀ d ∈ digits, isHex d = true) :
    digits.foldl (fun n d => 16 * n + hexDigitValue d) 0 < 16 ^ digits.length := by
  induction digits using List.reverseRecOn with
  | nil => decide
  | append_singleton digits d ih =>
    have digit := hexDigitValue_lt (hex d (by simp))
    have before := ih fun e inside => hex e (by simp [inside])
    rw [List.foldl_append, List.length_append, List.length_singleton, Nat.pow_succ]
    simp only [List.foldl_cons, List.foldl_nil]
    omega

/-- The digits of an escape make a number below that power of sixteen. -/
theorem readHex?_lt {width n : Nat} {after : Cursor} (read : readHex? width c = some (n, after)) :
    n < 16 ^ width := by
  rw [readHex?] at read
  split at read
  · next digits =>
    obtain ⟨rfl, -⟩ := Prod.mk.inj (Option.some.inj read)
    obtain ⟨long, hex⟩ := Bool.and_eq_true_iff.mp digits
    have bound := hexNumber_lt (List.all_eq_true.mp hex)
    rwa [beq_iff_eq.mp long] at bound
  · cases read

theorem letter_of_long {letter : Char} {width : Nat}
    (numeric : numericEscapes.lookup letter = some width) (long : 0x7FFFFFFF < 16 ^ width) :
    letter = 'U' := by
  obtain ⟨before, after, parts, -⟩ := List.lookup_eq_some_iff.mp numeric
  have listed : (letter, width) ∈ numericEscapes := parts ▸ by simp
  simp only [numericEscapes, List.mem_cons, Prod.mk.injEq, List.not_mem_nil, or_false] at listed
  rcases listed with ⟨rfl, rfl⟩ | ⟨rfl, rfl⟩ | ⟨rfl, rfl⟩
  · exact absurd long (by decide)
  · exact absurd long (by decide)
  · rfl

theorem pair_infix (h : c.IsIn text) {first second : Char} (here : c.peek = some first)
    (next : c.step.peek = some second) : [first, second] <:+: text := by
  obtain ⟨rest, same⟩ := List.head?_eq_some_iff.mp here
  rw [Cursor.peek, Cursor.rest_step, same, List.tail_cons] at next
  obtain ⟨others, rfl⟩ := List.head?_eq_some_iff.mp next
  have start : [first, second] <+: c.rest := same ▸ ⟨others, rfl⟩
  exact start.isInfix.trans h.isInfix

section

variable [Stack]

abbrev GivesToken (text : List Char) : Except Fault (Token × Cursor) → Prop :=
  Yields text fun r => r.1.IsFrom text ∧ r.1.weight = 0 ∧ r.2.IsIn text

theorem readTagBody_gives (h : c.IsIn text) (mark : '!' ∈ text) :
    GivesToken text (readTagBody c) := by
  rw [readTagBody]
  split
  · refine (readUri_goes (h.advance 2)).bind ?_
    rintro ⟨suffix, after⟩ isIn
    dsimp only
    split
    · exact .ok ⟨mark, rfl, isIn.step⟩
    · exact yields_malformed
  · split
    · exact .ok ⟨mark, rfl, h.step⟩
    · have suffixed (handle : List Char) {next : Cursor} (isIn : next.IsIn text) :
          GivesToken text
            (readUri next >>= fun read => pure (.tag (some handle) read.1, read.2)) := by
        refine (readUri_goes isIn).bind ?_
        rintro ⟨suffix, last⟩ isIn
        exact .ok ⟨mark, rfl, isIn⟩
      dsimp only
      split
      · refine (readHandle_goes h).bind ?_
        rintro ⟨handle, after⟩ isIn
        exact suffixed handle isIn
      · exact suffixed ['!'] h.step

theorem readTag_gives (h : c.IsIn text) (mark : '!' ∈ text) : GivesToken text (readTag c) := by
  refine (readTagBody_gives h mark).bind ?_
  rintro ⟨token, after⟩ gives
  dsimp only
  split
  · exact .ok gives
  · exact yields_malformed

theorem readDirective_gives (h : c.IsIn text) : GivesToken text (readDirective c) := by
  rw [readDirective]
  have name := h.step.span isNameChar
  generalize c.step.span isNameChar = read at name
  obtain ⟨word, after⟩ := read
  dsimp only
  split
  · exact yields_malformed
  · have ended (directive : Directive) {last : Cursor} (isIn : last.IsIn text) :
        GivesToken text (do
          let next ← last.finishLine
          pure (.directive directive, next)) :=
      isIn.finishLine.bind fun next isIn => .ok ⟨trivial, rfl, isIn⟩
    split
    · refine (readVersion_goes name).bind ?_
      rintro ⟨directive, last⟩ isIn
      exact ended directive isIn
    · split
      · refine (readHandleDirective_goes name).bind ?_
        rintro ⟨directive, last⟩ isIn
        exact ended directive isIn
      · exact ended _ (name.skip _)

theorem readQuotedBreaks_goes (h : c.IsIn text) (fuel : Nat) :
    Goes text (readQuotedBreaks fuel c) := by
  induction fuel generalizing c with
  | zero => exact .ok h
  | succ fuel ih =>
    rw [readQuotedBreaks]
    split
    · exact yields_malformed
    · have blanks := h.skip isSpaceOrTab
      dsimp only
      split
      · refine (ih blanks.takeBreak).bind ?_
        rintro ⟨rest, after⟩ isIn
        exact .ok isIn
      · exact .ok blanks

theorem readEscape_goes (h : c.IsIn text) (mark : c.peek = some '\\') :
    Goes text (readEscape c) := by
  rw [readEscape]
  dsimp only
  have next := h.step
  split
  · exact yields_malformed
  · next letter found =>
    split
    · exact .ok next.step
    split
    · next width numeric =>
      split
      · exact yields_malformed
      · next n after read =>
        split
        · next wide =>
          have long : 0x7FFFFFFF < 16 ^ width := Nat.lt_trans wide (readHex?_lt read)
          have capital : letter = 'U' := letter_of_long numeric long
          exact pair_infix h mark (capital ▸ found)
        split
        · exact trivial
        · exact .ok (readHex?_isIn next.step read)
    · split
      · exact readQuotedBreaks_goes next.takeBreak _
      · exact yields_malformed

theorem readQuotedWord_goes (h : c.IsIn text) (double : Bool) (fuel : Nat) :
    Goes text (readQuotedWord double fuel c) := by
  induction fuel generalizing c with
  | zero => exact .ok h
  | succ fuel ih =>
    rw [readQuotedWord]
    have word := h.span (!isQuotedStop ·)
    generalize c.span (!isQuotedStop ·) = read at word
    obtain ⟨letters, after⟩ := read
    have more (part : List Char) {next : Cursor} (isIn : next.IsIn text) :
        Goes text (readQuotedWord double fuel next >>= fun read =>
          pure (letters ++ part ++ read.1, read.2)) := by
      refine (ih isIn).bind ?_
      rintro ⟨rest, last⟩ isIn
      exact .ok isIn
    dsimp only
    split
    · split
      · exact more _ word.step
      · split
        · exact more _ (word.advance 2)
        · exact .ok word
    · split
      · exact .ok word
      · exact more _ word.step
    · next mark =>
      split
      · refine (readEscape_goes word mark).bind ?_
        rintro ⟨part, next⟩ isIn
        exact more part isIn
      · exact more _ word.step
    · exact .ok word

theorem readQuotedBlanks_goes (h : c.IsIn text) : Goes text (readQuotedBlanks c) := by
  rw [readQuotedBlanks]
  have blanks := h.span isSpaceOrTab
  generalize c.span isSpaceOrTab = read at blanks
  obtain ⟨spaces, after⟩ := read
  dsimp only
  split
  · exact yields_malformed
  · split
    · refine (readQuotedBreaks_goes blanks.takeBreak _).bind ?_
      rintro ⟨breaks, last⟩ isIn
      exact .ok isIn
    · exact .ok blanks

theorem readQuotedRest_goes (h : c.IsIn text) (double : Bool) (quote : Char) (fuel : Nat) :
    Goes text (readQuotedRest double quote fuel c) := by
  induction fuel generalizing c with
  | zero => exact yields_malformed
  | succ fuel ih =>
    rw [readQuotedRest]
    refine (readQuotedWord_goes h double _).bind ?_
    rintro ⟨word, after⟩ isIn
    dsimp only
    split
    · exact .ok isIn.step
    · refine (readQuotedBlanks_goes isIn).bind ?_
      rintro ⟨blanks, next⟩ isIn
      refine (ih isIn).bind ?_
      rintro ⟨rest, last⟩ isIn
      exact .ok isIn

theorem readQuoted_gives (h : c.IsIn text) (double : Bool) :
    GivesToken text (readQuoted double c) := by
  refine (readQuotedRest_goes h.step double _ _).bind ?_
  rintro ⟨word, after⟩ isIn
  exact .ok ⟨trivial, rfl, isIn⟩

end

theorem indicatorsAt_isIn (h : c.IsIn text) : (indicatorsAt c).2.2.IsIn text := by
  rw [indicatorsAt]
  split
  · split
    · exact h.advance 2
    · exact h.step
  · split
    · split
      · exact h.advance 2
      · exact h.step
    · exact h

theorem readIndicators_yields [Stack] (h : c.IsIn text) :
    Yields text (fun r => r.2.2.IsIn text) (readIndicators c) := by
  rw [readIndicators]
  dsimp only
  split
  · exact yields_malformed
  · exact .ok (indicatorsAt_isIn h)

theorem readIndentation_isIn (h : c.IsIn text) (fuel deepest : Nat) :
    (readIndentation fuel c deepest).2.2.IsIn text := by
  induction fuel generalizing c deepest with
  | zero => exact h
  | succ fuel ih =>
    rw [readIndentation]
    split
    · exact ih h.step _
    · split
      · exact ih h.takeBreak deepest
      · exact h
    · exact h

theorem skipIndent_isIn (h : c.IsIn text) (fuel column : Nat) :
    (skipIndent fuel column c).IsIn text := by
  induction fuel generalizing c with
  | zero => exact h
  | succ fuel ih =>
    rw [skipIndent]
    split
    · exact ih h.step
    · exact h

theorem readBlankLines_isIn (h : c.IsIn text) (column fuel : Nat) :
    (readBlankLines column fuel c).2.IsIn text := by
  induction fuel generalizing c with
  | zero => exact h
  | succ fuel ih =>
    have indented := skipIndent_isIn h column column
    rw [readBlankLines]
    dsimp only
    split
    · exact ih indented.takeBreak
    · exact indented

theorem readBlockLines_isIn (h : c.IsIn text) (folded : Bool) (column fuel : Nat)
    (lineBreak breaks : List Char) :
    (readBlockLines folded column fuel lineBreak breaks c).2.2.2.IsIn text := by
  induction fuel generalizing c lineBreak breaks with
  | zero => exact h
  | succ fuel ih =>
    rw [readBlockLines]
    split
    · exact h
    · exact ih (readBlankLines_isIn (h.span _).takeBreak column _) _ _

theorem readBlockStart_isIn (h : c.IsIn text) (least fuel : Nat) (increment : Option Nat) :
    (readBlockStart least fuel increment c).2.2.IsIn text := by
  cases increment with
  | none => exact readIndentation_isIn h fuel 0
  | some n => exact readBlankLines_isIn h _ fuel

theorem readBlock_gives [Stack] (h : c.IsIn text) (folded : Bool) (indent : Int) :
    GivesToken text (readBlock folded indent c) := by
  refine (readIndicators_yields h.step).bind ?_
  rintro ⟨chomping, increment, after⟩ isIn
  refine (Cursor.IsIn.finishLine isIn).bind fun line isIn => ?_
  dsimp only
  exact .ok ⟨trivial, rfl, readBlockLines_isIn (readBlockStart_isIn isIn _ _ _) ..⟩

theorem not_mem_takeBreak (c : Cursor) : ':' ∉ c.takeBreak.1 := by
  rw [Cursor.takeBreak]
  split
  · split
    · exact of_decide_eq_true rfl
    · split
      · next mark =>
        intro inside
        rw [← List.mem_singleton.mp inside] at mark
        exact absurd mark (by decide)
      · exact List.not_mem_nil
  · exact List.not_mem_nil

theorem not_mem_foldBreaks {first breaks : List Char} (noFirst : ':' ∉ first)
    (noMore : ':' ∉ breaks) : ':' ∉ foldBreaks first breaks := by
  intro inside
  rcases List.mem_append.mp inside with lead | more
  · split at lead
    · exact noFirst lead
    · split at lead
      · exact absurd (List.mem_singleton.mp lead) (by decide)
      · exact List.not_mem_nil lead
  · exact noMore more

theorem readPlainBreaks_spec (h : c.IsIn text) (fuel : Nat) :
    (∀ s ∈ (readPlainBreaks fuel c).1, ':' ∉ s) ∧ (readPlainBreaks fuel c).2.IsIn text := by
  have none : ∀ s ∈ some ([] : List Char), ':' ∉ s := by
    rintro _ ⟨⟩
    exact List.not_mem_nil
  induction fuel generalizing c with
  | zero => exact ⟨none, h⟩
  | succ fuel ih =>
    rw [readPlainBreaks]
    split
    · exact ih h.step
    · split
      · dsimp only
        split
        · exact ⟨fun _ inside => (by cases inside), h.takeBreak⟩
        · obtain ⟨noColon, isIn⟩ := ih h.takeBreak
          refine ⟨?_, isIn⟩
          intro s found
          obtain ⟨rest, more, rfl⟩ := Option.map_eq_some_iff.mp found
          intro inside
          rcases List.mem_append.mp inside with first | later
          · exact not_mem_takeBreak c first
          · exact noColon rest more later
      · exact ⟨none, h⟩
    · exact ⟨none, h⟩

theorem readPlainBlanks_spec (h : c.IsIn text) :
    (∀ s ∈ (readPlainBlanks c).1, ':' ∉ s) ∧ (readPlainBlanks c).2.2.IsIn text := by
  have blanks := h.span (· == ' ')
  rw [readPlainBlanks]
  dsimp only
  split
  · split
    · exact ⟨fun _ inside => (by cases inside), blanks.takeBreak⟩
    · obtain ⟨noColon, isIn⟩ := readPlainBreaks_spec blanks.takeBreak _
      refine ⟨?_, isIn⟩
      intro s found
      obtain ⟨breaks, more, rfl⟩ := Option.map_eq_some_iff.mp found
      exact not_mem_foldBreaks (not_mem_takeBreak _) (noColon breaks more)
  · refine ⟨?_, blanks⟩
    rintro _ ⟨⟩ inside
    have space := List.all_eq_true.mp List.all_takeWhile ':' inside
    exact absurd space (by decide)

theorem not_isLineBreak_of_plainLength {inFlow : Bool} {cs : List Char} :
    ∀ ch ∈ cs.take (plainLength inFlow cs), isLineBreak ch = false := by
  induction cs with
  | nil => exact fun ch inside => by cases inside
  | cons d rest ih =>
    rw [plainLength]
    split
    · exact fun ch inside => by cases inside
    · next goesOn =>
      intro ch inside
      rcases List.mem_cons.mp inside with rfl | later
      · simp only [endsPlain, endsToken, Bool.or_eq_true, not_or, Bool.not_eq_true] at goesOn
        exact goesOn.1.1.2
      · exact ih ch later

theorem getLast?_of_plainLength {inFlow : Bool} {cs : List Char}
    (long : plainLength inFlow cs ≠ 0) :
    ∃ ch, (cs.take (plainLength inFlow cs)).getLast? = some ch ∧ ch ≠ '\n' := by
  have nonempty : cs.take (plainLength inFlow cs) ≠ [] := by
    cases cs with
    | nil => exact absurd rfl long
    | cons d rest => exact fun none => long ((List.take_eq_nil_iff.mp none).resolve_right nofun)
  refine ⟨_, List.getLast?_eq_some_getLast nonempty, ?_⟩
  intro feed
  have inside := List.getLast_mem nonempty
  rw [feed] at inside
  exact absurd (not_isLineBreak_of_plainLength _ inside) (by decide)

theorem readPlainText_spec (inFlow : Bool) (column : Int) (fuel : Nat) {blanks : List Char}
    (noColon : ':' ∉ blanks) (lineEnded : Bool) (c : Cursor) :
    let read := readPlainText inFlow column fuel blanks lineEnded c
    read.1.getLast? ≠ some '\n' ∧ read.1.count ':' ≤ c.rest.count ':' ∧
      read.2.2.IsIn c.rest := by
  induction fuel generalizing blanks lineEnded c with
  | zero => exact ⟨nofun, Nat.zero_le _, List.suffix_refl _⟩
  | succ fuel ih =>
    by_cases comment : c.peek == some '#'
    · rw [readPlainText, if_pos comment]
      exact ⟨nofun, Nat.zero_le _, List.suffix_refl _⟩
    · have ending (long : plainLength inFlow c.rest ≠ 0) := getLast?_of_plainLength long
      rw [readPlainText, if_neg comment]
      generalize plainLength inFlow c.rest = length at ending
      dsimp only
      split
      · exact ⟨nofun, Nat.zero_le _, List.suffix_refl _⟩
      · next long =>
        obtain ⟨ch, last, noFeed⟩ := ending long
        have next : (c.advance length).IsIn (c.rest.drop length) :=
          Cursor.rest_advance c length ▸ List.suffix_refl _
        obtain ⟨noMore, isIn⟩ := readPlainBlanks_spec next
        generalize readPlainBlanks (c.advance length) = read at noMore isIn
        obtain ⟨gap, broken, after⟩ := read
        have none : blanks.count ':' = 0 := List.count_eq_zero.mpr noColon
        have colons : (c.rest.take length).count ':' + (c.rest.drop length).count ':' =
            c.rest.count ':' := by rw [← List.count_append, List.take_append_drop]
        have isEnd : after.IsIn c.rest := isIn.trans (List.drop_suffix _ _)
        dsimp only
        split
        · refine ⟨?_, ?_, isEnd⟩
          · rw [List.getLast?_append, last, Option.some_or]
            exact fun same => noFeed (Option.some.inj same)
          · rw [List.count_append]
            omega
        · have noGap : ':' ∉ gap.getD [] := by
            cases gap with
            | none => exact List.not_mem_nil
            | some s => exact noMore s rfl
          obtain ⟨lastOne, fewer, further⟩ := ih noGap broken after
          have onward : after.rest.count ':' ≤ (c.rest.drop length).count ':' :=
            isIn.sublist.count_le ':'
          refine ⟨?_, ?_, further.trans isEnd⟩
          · rw [List.getLast?_append, List.getLast?_append, last, Option.some_or]
            intro same
            rcases Option.or_eq_some_iff.mp same with there | ⟨-, here⟩
            · exact lastOne there
            · exact noFeed (Option.some.inj here)
          · rw [List.count_append, List.count_append]
            omega

theorem readPlain_gives (h : c.IsIn text) (inFlow : Bool) (indent : Int) :
    (readPlain inFlow indent c).1.IsFrom text ∧ (readPlain inFlow indent c).1.weight = 0 ∧
      (readPlain inFlow indent c).2.2.IsIn text := by
  obtain ⟨last, colons, isIn⟩ := readPlainText_spec inFlow (indent + 1) (c.rest.length + 1)
    List.not_mem_nil false c
  exact ⟨⟨last, Nat.le_trans colons (h.sublist.count_le ':')⟩, rfl, isIn.trans h⟩

end Localization.Yaml
