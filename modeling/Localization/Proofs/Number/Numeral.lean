import Localization.Number.Binary64
import Localization.Proofs.Text.Span
import Mathlib.Data.List.Induction
import Mathlib.Data.List.TakeDrop

/-! # Numbers as they are written

A numeral is a sign, digits with a point among or around them and a power of ten, or a word for an
infinity or for what is not a number. Blanks may stand around it, digits may be of any script and
letters of either case, and single underscores may stand between two digits. A binary number is read
from such a text and from no other.
-/
namespace Localization.Number

open Text

inductive WritesSign : List Char → Bool → Prop
  | none : WritesSign [] false
  | plus : WritesSign ['+'] false
  | minus : WritesSign ['-'] true

/-- The power of ten that ends a numeral. -/
inductive WritesPower : List Char → Int → Prop
  | none : WritesPower [] 0
  | some {sign digits : List Char} {negative : Bool} (signed : WritesSign sign negative)
      (nonempty : digits ≠ []) (each : ∀ c ∈ digits, c.isDigit = true) :
      WritesPower ('e' :: (sign ++ digits))
        (if negative then -(ofDigits digits : Int) else ofDigits digits)

inductive WritesMagnitude : List Char → Nat → Int → Prop
  | whole {digits power : List Char} {e : Int} (nonempty : digits ≠ [])
      (each : ∀ c ∈ digits, c.isDigit = true) (scale : WritesPower power e) :
      WritesMagnitude (digits ++ power) (ofDigits digits) e
  | point {digits fraction power : List Char} {e : Int} (nonempty : digits ++ fraction ≠ [])
      (each : ∀ c ∈ digits ++ fraction, c.isDigit = true) (scale : WritesPower power e) :
      WritesMagnitude (digits ++ '.' :: (fraction ++ power)) (ofDigits (digits ++ fraction))
        (e - fraction.length)

/-- Numerals in lower-case ASCII without underscores. -/
inductive Numeral : List Char → Binary64 → Prop
  | finite {sign text : List Char} {negative : Bool} {n : Nat} {e : Int}
      (signed : WritesSign sign negative) (written : WritesMagnitude text n e) :
      Numeral (sign ++ text) (.ofMagnitude negative n e)
  | infinite {sign word : List Char} {negative : Bool} (signed : WritesSign sign negative)
      (isWord : word = "inf".toList ∨ word = "infinity".toList) :
      Numeral (sign ++ word) (.infinite negative)
  | nan {sign : List Char} {negative : Bool} (signed : WritesSign sign negative) :
      Numeral (sign ++ "nan".toList) .nan

def Separates (cs : List Char) : Prop :=
  ∀ before after, cs = before ++ '_' :: after →
    (∃ c ∈ before.getLast?, c.isDigit = true) ∧ ∃ c ∈ after.head?, c.isDigit = true

/-- A text writes a number: a numeral once the blanks around it and its underscores are left out. -/
def WritesNumber (text : List Char) (x : Binary64) : Prop :=
  let plain := (trimNumber text).map Decimal.plainChar
  Separates plain ∧ Numeral (plain.filter (· != '_')) x

theorem exists_splitSign (cs : List Char) : ∃ sign negative rest,
    Decimal.splitSign cs = (negative, rest) ∧ cs = sign ++ rest ∧ WritesSign sign negative := by
  unfold Decimal.splitSign
  split
  · exact ⟨['-'], true, _, rfl, rfl, .minus⟩
  · exact ⟨['+'], false, _, rfl, rfl, .plus⟩
  · exact ⟨[], false, _, rfl, rfl, .none⟩

theorem splitSign_append {sign rest : List Char} {negative : Bool}
    (signed : WritesSign sign negative) (noSign : ∀ c ∈ rest.head?, c ≠ '-' ∧ c ≠ '+') :
    Decimal.splitSign (sign ++ rest) = (negative, rest) := by
  cases signed with
  | minus => rfl
  | plus => rfl
  | none =>
    refine Decimal.splitSign.eq_3 rest ?_ ?_
    · rintro more rfl
      exact (noSign '-' rfl).1 rfl
    · rintro more rfl
      exact (noSign '+' rfl).2 rfl

theorem digit_apart {c : Char} (h : c.isDigit = true) :
    c ≠ '-' ∧ c ≠ '+' ∧ c ≠ '.' ∧ c ≠ 'e' ∧ c ≠ 'i' ∧ c ≠ 'n' ∧ c ≠ 's' := by
  refine ⟨?_, ?_, ?_, ?_, ?_, ?_, ?_⟩ <;> rintro rfl <;> exact absurd h (by decide)

theorem spanDigits_append {digits rest : List Char} (each : ∀ c ∈ digits, c.isDigit = true)
    (stop : ∀ c ∈ rest.head?, c.isDigit = false) :
    Decimal.spanDigits (digits ++ rest) = (digits, rest) := by
  rw [Decimal.spanDigits, List.span_eq_takeWhile_dropWhile, takeWhile_append_of_stop each stop,
    dropWhile_append_of_stop each stop]

theorem exists_spanDigits (cs : List Char) : ∃ digits rest, Decimal.spanDigits cs = (digits, rest) ∧
    cs = digits ++ rest ∧ ∀ c ∈ digits, c.isDigit = true := by
  refine ⟨_, _, List.span_eq_takeWhile_dropWhile .., List.takeWhile_append_dropWhile.symm, ?_⟩
  exact List.all_eq_true.mp List.all_takeWhile

theorem readExponent?_eq_some_iff {cs : List Char} {e : Int} :
    Decimal.readExponent? cs = some e ↔ WritesPower cs e := by
  constructor
  · intro h
    cases cs with
    | nil =>
      cases h
      exact .none
    | cons c rest =>
      obtain ⟨sign, negative, digits, parts, rfl, signed⟩ := exists_splitSign rest
      rw [Decimal.readExponent?, parts] at h
      obtain ⟨letter, h⟩ := Option.ite_none_left_eq_some.mp h
      obtain ⟨tail, same⟩ := Option.ite_none_left_eq_some.mp h
      obtain rfl : c = 'e' := by simpa using letter
      simp only [Bool.or_eq_true, not_or, Bool.not_eq_true', Bool.not_eq_false,
        List.isEmpty_iff, List.all_eq_true] at tail
      obtain rfl := Option.some.inj same
      exact .some signed tail.1 tail.2
  · intro h
    cases h with
    | none => rfl
    | @some sign digits negative signed nonempty each =>
      have noSign : ∀ c ∈ digits.head?, c ≠ '-' ∧ c ≠ '+' := fun c first =>
        ⟨(digit_apart (each c (List.mem_of_mem_head? first))).1,
          (digit_apart (each c (List.mem_of_mem_head? first))).2.1⟩
      rw [Decimal.readExponent?, splitSign_append signed noSign]
      have some : digits.isEmpty = false := by simpa using nonempty
      have all : digits.all Char.isDigit = true := List.all_eq_true.mpr each
      simp [some, all]

theorem WritesPower.head {cs : List Char} {e : Int} (h : WritesPower cs e) :
    ∀ c ∈ cs.head?, c = 'e' := by
  cases h with
  | none => exact fun c none => by cases none
  | some signed nonempty each => exact forall_head?_cons.mpr rfl

theorem WritesPower.stop {cs : List Char} {e : Int} (h : WritesPower cs e) :
    ∀ c ∈ cs.head?, c.isDigit = false := fun c first => by
  rw [h.head c first]
  rfl

theorem readMagnitude?_eq_some_iff {cs : List Char} {n : Nat} {e : Int} :
    Decimal.readMagnitude? cs = some (n, e) ↔ WritesMagnitude cs n e := by
  constructor
  · intro h
    obtain ⟨digits, rest, span, rfl, each⟩ := exists_spanDigits cs
    rw [Decimal.readMagnitude?, span] at h
    dsimp only at h
    split at h
    · next more =>
      obtain ⟨fraction, power, spanMore, rfl, eachMore⟩ := exists_spanDigits more
      rw [spanMore] at h
      obtain ⟨nonempty, read⟩ := Option.ite_none_left_eq_some.mp h
      obtain ⟨scale, found, same⟩ := Option.map_eq_some_iff.mp read
      obtain ⟨rfl, rfl⟩ := Prod.mk.inj same
      refine .point ?_ ?_ (readExponent?_eq_some_iff.mp found)
      · simpa using nonempty
      · exact List.forall_mem_append.mpr ⟨each, eachMore⟩
    · obtain ⟨nonempty, read⟩ := Option.ite_none_left_eq_some.mp h
      obtain ⟨scale, found, same⟩ := Option.map_eq_some_iff.mp read
      obtain ⟨rfl, rfl⟩ := Prod.mk.inj same
      exact .whole (by simpa using nonempty) each (readExponent?_eq_some_iff.mp found)
  · intro h
    cases h with
    | @whole digits power _ nonempty each scale =>
      have some : digits.isEmpty = false := by simpa using nonempty
      rw [Decimal.readMagnitude?, spanDigits_append each scale.stop]
      dsimp only
      split
      · exact absurd (scale.head '.' rfl) (by decide)
      · rw [some, readExponent?_eq_some_iff.mpr scale]
        rfl
    | @point digits fraction power e nonempty each scale =>
      obtain ⟨first, second⟩ := List.forall_mem_append.mp each
      have some : (digits.isEmpty && fraction.isEmpty) = false := by simpa using nonempty
      have span : Decimal.spanDigits (digits ++ '.' :: (fraction ++ power)) =
          (digits, '.' :: (fraction ++ power)) :=
        spanDigits_append first (forall_head?_cons.mpr rfl)
      simp only [Decimal.readMagnitude?, span, spanDigits_append second scale.stop, some,
        readExponent?_eq_some_iff.mpr scale]
      rfl

theorem WritesMagnitude.head {cs : List Char} {n : Nat} {e : Int} (h : WritesMagnitude cs n e) :
    ∃ c rest, cs = c :: rest ∧ (c.isDigit = true ∨ c = '.') := by
  cases h with
  | @whole digits power _ nonempty each scale =>
    obtain ⟨c, rest, rfl⟩ := List.exists_cons_of_ne_nil nonempty
    exact ⟨c, rest ++ power, rfl, .inl (each c List.mem_cons_self)⟩
  | @point digits fraction power _ nonempty each scale =>
    cases digits with
    | nil => exact ⟨'.', _, rfl, .inr rfl⟩
    | cons c rest => exact ⟨c, _, rfl, .inl (each c List.mem_cons_self)⟩

theorem readUnsigned?_of_magnitude {cs : List Char} {n : Nat} {e : Int}
    (h : WritesMagnitude cs n e) (negative : Bool) :
    Decimal.readUnsigned? negative cs = some (.finite negative n e) := by
  obtain ⟨c, rest, rfl, begins⟩ := h.head
  have apart : c ≠ 'i' ∧ c ≠ 'n' ∧ c ≠ 's' := by
    rcases begins with digit | rfl
    · exact ⟨(digit_apart digit).2.2.2.2.1, (digit_apart digit).2.2.2.2.2⟩
    · decide
  have noSignal : Decimal.splitSignal (c :: rest) = (false, c :: rest) :=
    Decimal.splitSignal.eq_2 _ fun more same => apart.2.2 (List.cons.inj same).1
  have noWord : ¬ (c :: rest = "inf".toList || c :: rest = "infinity".toList) = true := by
    simp [apart.1]
  have noName : ¬ "nan".toList.isPrefixOf (c :: rest) = true := by
    simp [Ne.symm apart.2.1]
  rw [Decimal.readUnsigned?, if_neg noWord, noSignal]
  dsimp only
  rw [if_neg noName, readMagnitude?_eq_some_iff.mpr h]
  rfl

theorem splitSignal_eq {cs rest : List Char} {signaling : Bool}
    (h : Decimal.splitSignal cs = (signaling, rest)) :
    cs = (if signaling then ['s'] else []) ++ rest := by
  unfold Decimal.splitSignal at h
  split at h <;> cases h <;> rfl

theorem readUnsigned?_cases {cs : List Char} {negative : Bool} {d : Decimal}
    (h : Decimal.readUnsigned? negative cs = some d) :
    (d = .infinite negative ∧ (cs = "inf".toList ∨ cs = "infinity".toList)) ∨
      (∃ signaling digits, d = .nan negative signaling (ofDigits digits) ∧
        (∀ c ∈ digits, c.isDigit = true) ∧
        cs = (if signaling then ['s'] else []) ++ ("nan".toList ++ digits)) ∨
      ∃ n e, d = .finite negative n e ∧ WritesMagnitude cs n e := by
  obtain ⟨signaling, rest, parts⟩ : ∃ signaling rest,
      Decimal.splitSignal cs = (signaling, rest) := ⟨_, _, rfl⟩
  rw [Decimal.readUnsigned?, parts] at h
  dsimp only at h
  split at h
  · next word =>
    obtain rfl := Option.some.inj h
    refine .inl ⟨rfl, ?_⟩
    exact (Bool.or_eq_true_iff.mp word).imp of_decide_eq_true of_decide_eq_true
  split at h
  · next name =>
    obtain ⟨digits, rfl⟩ := List.isPrefixOf_iff_prefix.mp name
    have dropped : ("nan".toList ++ digits).drop 3 = digits := rfl
    rw [dropped] at h
    obtain ⟨each, same⟩ := Option.ite_none_right_eq_some.mp h
    exact .inr (.inl ⟨signaling, digits, (Option.some.inj same).symm, List.all_eq_true.mp each,
      splitSignal_eq parts⟩)
  · obtain ⟨⟨n, e⟩, read, same⟩ := Option.map_eq_some_iff.mp h
    exact .inr (.inr ⟨n, e, same.symm, readMagnitude?_eq_some_iff.mp read⟩)

theorem ofPlain?_eq_some_iff {cs : List Char} {x : Binary64} :
    Binary64.ofPlain? cs = some x ↔ Numeral cs x := by
  constructor
  · intro h
    obtain ⟨sign, negative, rest, parts, rfl, signed⟩ := exists_splitSign cs
    rw [Binary64.ofPlain?, Decimal.read?, parts] at h
    dsimp only at h
    cases read : Decimal.readUnsigned? negative rest with
    | none =>
      rw [read] at h
      cases h
    | some d =>
      rw [read] at h
      rcases readUnsigned?_cases read with ⟨rfl, isWord⟩ | ⟨signaling, digits, rfl, each, rfl⟩ |
        ⟨n, e, rfl, written⟩
      · cases h
        exact .infinite signed isWord
      · cases signaling with
        | true => cases h
        | false =>
          obtain ⟨last, same⟩ := Option.ite_none_right_eq_some.mp h
          cases same
          -- A digit behind the word would be the last character.
          cases digits using List.reverseRecOn with
          | nil => exact .nan signed
          | append_singleton digits digit =>
            simp only [← List.append_assoc, List.getLast?_concat] at last
            exact absurd (Option.some.inj last) (digit_apart (each digit (by simp))).2.2.2.2.2.1
      · cases h
        exact .finite signed written
  · intro h
    cases h with
    | @finite sign text negative n e signed written =>
      have noSign : ∀ c ∈ text.head?, c ≠ '-' ∧ c ≠ '+' := by
        obtain ⟨c, rest, rfl, begins⟩ := written.head
        refine forall_head?_cons.mpr ?_
        rcases begins with digit | rfl
        · exact ⟨(digit_apart digit).1, (digit_apart digit).2.1⟩
        · decide
      rw [Binary64.ofPlain?, Decimal.read?, splitSign_append signed noSign]
      dsimp only
      rw [readUnsigned?_of_magnitude written]
    | @infinite sign word negative signed isWord =>
      have noSign : ∀ c ∈ word.head?, c ≠ '-' ∧ c ≠ '+' := by
        rcases isWord with rfl | rfl <;> exact forall_head?_cons.mpr (by decide)
      have read : Decimal.readUnsigned? negative word = some (.infinite negative) := by
        rcases isWord with rfl | rfl <;> rfl
      rw [Binary64.ofPlain?, Decimal.read?, splitSign_append signed noSign]
      dsimp only
      rw [read]
    | @nan sign negative signed =>
      have noSign : ∀ c ∈ "nan".toList.head?, c ≠ '-' ∧ c ≠ '+' :=
        forall_head?_cons.mpr (by decide)
      have read : Decimal.readUnsigned? negative "nan".toList = some (.nan negative false 0) := rfl
      rw [Binary64.ofPlain?, Decimal.read?, splitSign_append signed noSign]
      dsimp only
      rw [read]
      simp

theorem not_separates_underscore (rest : List Char) : ¬ Separates ('_' :: rest) := by
  intro h
  obtain ⟨⟨c, none, -⟩, -⟩ := h [] rest rfl
  cases none

theorem separates_cons_iff {c : Char} {rest : List Char} (plain : c ≠ '_')
    (next : ∀ d ∈ rest.head?, d ≠ '_') : Separates (c :: rest) ↔ Separates rest := by
  constructor
  · rintro h before after rfl
    cases before with
    | nil => exact absurd rfl (next '_' rfl)
    | cons d before => exact h (c :: d :: before) after rfl
  · intro h before after same
    cases before with
    | nil => exact absurd (List.cons.inj same).1 plain
    | cons d before =>
      obtain ⟨rfl, rfl⟩ := List.cons.inj same
      cases before with
      | nil => exact absurd rfl (next '_' rfl)
      | cons e before => exact h (e :: before) after rfl

theorem separates_between_iff {c : Char} {rest : List Char} (plain : c ≠ '_') :
    Separates (c :: '_' :: rest) ↔
      c.isDigit = true ∧ (∃ d ∈ rest.head?, d.isDigit = true) ∧ Separates rest := by
  constructor
  · intro h
    obtain ⟨⟨d, last, digit⟩, follows⟩ := h [c] rest rfl
    obtain rfl := Option.some.inj last
    refine ⟨digit, follows, ?_⟩
    rintro before after rfl
    cases before with
    | nil =>
      obtain ⟨d, first, isDigit⟩ := follows
      obtain rfl := Option.some.inj first
      exact absurd isDigit (by decide)
    | cons e before => exact h (c :: '_' :: e :: before) after rfl
  · rintro ⟨digit, follows, h⟩ before after same
    match before with
    | [] => exact absurd (List.cons.inj same).1 plain
    | [d] =>
      obtain ⟨rfl, tail⟩ := List.cons.inj same
      obtain ⟨-, rfl⟩ := List.cons.inj tail
      exact ⟨⟨c, rfl, digit⟩, follows⟩
    | d :: e :: before =>
      obtain ⟨rfl, tail⟩ := List.cons.inj same
      obtain ⟨rfl, rfl⟩ := List.cons.inj tail
      obtain ⟨last, first⟩ := h before after rfl
      cases before with
      | nil => exact absurd last (by simp)
      | cons f before => exact ⟨last, first⟩

theorem underscoresSeparate_iff (cs : List Char) :
    Binary64.underscoresSeparate cs = true ↔ Separates cs := by
  fun_induction Binary64.underscoresSeparate cs with
  | case1 a b rest ih =>
    by_cases plain : a = '_'
    · subst plain
      exact iff_of_false (by simp) (not_separates_underscore _)
    · rw [separates_between_iff plain, ← ih]
      simp [and_assoc]
  | case2 rest => exact iff_of_false Bool.false_ne_true (not_separates_underscore rest)
  | case3 c rest few plain ih =>
    by_cases alone : rest = ['_']
    · subst alone
      refine iff_of_false Bool.false_ne_true fun h => ?_
      obtain ⟨-, ⟨d, none, -⟩, -⟩ := (separates_between_iff plain).mp h
      cases none
    · rw [ih, separates_cons_iff plain]
      rintro d first rfl
      obtain ⟨more, rfl⟩ := List.head?_eq_some_iff.mp first
      cases more with
      | nil => exact alone rfl
      | cons b more => exact few b more rfl
  | case4 =>
    refine iff_of_true rfl fun before after same => ?_
    cases before <;> cases same

theorem ofText?_eq_some_iff {cs : List Char} {x : Binary64} :
    Binary64.ofText? cs = some x ↔ WritesNumber cs x := by
  rw [Binary64.ofText?, Option.ite_none_right_eq_some, ofPlain?_eq_some_iff,
    underscoresSeparate_iff]
  rfl

end Localization.Number
