import Localization.Value.Basic
import Localization.Yaml.Token.Stream

/-! # Causes of faults

Most faults are that a text is malformed or that a scalar is out of range. The other ones need
something that a text seldom holds: a tag, an alias, a wide escape, very many colons, or more
collections within each other than the stack has room for. What is read of a text keeps account of
this, from its tokens on.
-/
namespace Localization.Yaml

def leastLongColons : Nat := 174

def isOpener (ch : Char) : Bool :=
  ch == '[' || ch == '\x7b' || ch == '-' || ch == '?' || ch == ':'

section

variable [Stack]

/-- What a text holds when it has a fault. A document that is too deep has an opener for each
level. -/
def Fault.Cause (text : List Char) : Fault → Prop
  | emptyNumber | boolean | timestamp | timestampKind => '!' ∈ text
  | realSize => '!' ∈ text ∨ leastLongColons ≤ text.count ':'
  | characterSize => ['\\', 'U'] <:+: text
  | recursion => '*' ∈ text ∨ Stack.documents ≤ text.countP isOpener
  | _ => True

def Yields {α : Type} (text : List Char) (P : α → Prop) : Except Fault α → Prop
  | .ok a => P a
  | .error fault => fault.Cause text

variable {α β : Type} {text : List Char} {P : α → Prop} {Q : β → Prop}

theorem Yields.ok {a : α} (h : P a) : Yields text P (.ok a) := h

theorem yields_malformed : Yields text P (.error .malformed) := trivial

theorem Yields.bind {r : Except Fault α} {f : α → Except Fault β} (h : Yields text P r)
    (rest : ∀ a, P a → Yields text Q (f a)) : Yields text Q (r >>= f) := by
  cases r with
  | error fault => exact h
  | ok a => exact rest a h

theorem Yields.ite {r s : Except Fault α} {condition : Prop} [Decidable condition]
    (yes : condition → Yields text P r) (no : ¬ condition → Yields text P s) :
    Yields text P (if condition then r else s) := iteInduction yes no

theorem Yields.mono {r : Except Fault α} {Q : α → Prop} (h : Yields text P r)
    (weaker : ∀ a, P a → Q a) : Yields text Q r := by
  cases r with
  | error fault => exact h
  | ok a => exact weaker a h

theorem Fault.Cause.of_suffix {last : List Char} (h : last <:+ text) {fault : Fault}
    (cause : fault.Cause last) : fault.Cause text := by
  cases fault with
  | emptyNumber => exact h.subset cause
  | boolean => exact h.subset cause
  | timestamp => exact h.subset cause
  | timestampKind => exact h.subset cause
  | realSize => exact cause.imp (h.subset ·) (Nat.le_trans · (h.sublist.count_le ':'))
  | characterSize => exact cause.trans h.isInfix
  | recursion => exact cause.imp (h.subset ·) (Nat.le_trans · h.sublist.countP_le)
  | _ => trivial

theorem Yields.of_suffix {last : List Char} (h : last <:+ text) {r : Except Fault α}
    (yields : Yields last P r) : Yields text P r := by
  cases r with
  | error fault => exact Fault.Cause.of_suffix h yields
  | ok a => exact yields

end

namespace Cursor

variable {text : List Char} {c : Cursor}

def IsIn (text : List Char) (c : Cursor) : Prop := c.rest <:+ text

theorem rest_step (c : Cursor) : c.step.rest = c.rest.tail := by
  rw [step]
  split
  · next none => rw [none]; rfl
  · next ch rest some =>
    rw [some]
    split
    · rfl
    · split <;> rfl

theorem IsIn.step (h : c.IsIn text) : c.step.IsIn text := by
  rw [IsIn, rest_step]
  exact (List.tail_suffix _).trans h

theorem rest_advance (c : Cursor) (n : Nat) : (c.advance n).rest = c.rest.drop n := by
  induction n generalizing c with
  | zero => rfl
  | succ n ih => rw [advance, ih, rest_step, List.drop_tail]

theorem IsIn.advance (h : c.IsIn text) (n : Nat) : (c.advance n).IsIn text := by
  rw [IsIn, rest_advance]
  exact (List.drop_suffix n _).trans h

theorem IsIn.span (h : c.IsIn text) (p : Char → Bool) : (c.span p).2.IsIn text := h.advance _

theorem IsIn.skip (h : c.IsIn text) (p : Char → Bool) : (c.skip p).IsIn text := h.span p

theorem IsIn.takeBreak (h : c.IsIn text) : c.takeBreak.2.IsIn text := by
  rw [Cursor.takeBreak]
  split
  · split
    · exact h.step
    · split
      · exact h.step
      · exact h
  · exact h

theorem IsIn.skipComment (h : c.IsIn text) : c.skipComment.IsIn text := by
  rw [Cursor.skipComment]
  split
  · exact h.skip _
  · exact h

theorem IsIn.finishLine [Stack] (h : c.IsIn text) : Yields text (IsIn text) c.finishLine := by
  rw [Cursor.finishLine]
  split
  · exact .ok (h.skip _).skipComment.takeBreak
  · exact yields_malformed

theorem IsIn.mem (h : c.IsIn text) {ch : Char} (next : c.peek = some ch) : ch ∈ text := by
  obtain ⟨rest, same⟩ := List.head?_eq_some_iff.mp next
  exact h.subset (same ▸ List.mem_cons_self)

end Cursor

section

variable [Stack] {text : List Char} {c : Cursor}

abbrev Goes {α : Type} (text : List Char) : Except Fault (α × Cursor) → Prop :=
  Yields text fun r => r.2.IsIn text

omit [Stack] in
theorem readHex?_isIn (h : c.IsIn text) {width n : Nat} {after : Cursor}
    (read : readHex? width c = some (n, after)) : after.IsIn text := by
  rw [readHex?] at read
  split at read
  · obtain ⟨-, rfl⟩ := Prod.mk.inj (Option.some.inj read)
    exact h.advance width
  · cases read

theorem readAnchor_goes (h : c.IsIn text) : Goes text (readAnchor c) := by
  rw [readAnchor]
  dsimp only
  split
  · exact yields_malformed
  · exact .ok (h.step.span _)

theorem readOctets_goes (h : c.IsIn text) (fuel : Nat) : Goes text (readOctets fuel c) := by
  induction fuel generalizing c with
  | zero => exact .ok h
  | succ fuel ih =>
    rw [readOctets]
    split
    · split
      · exact yields_malformed
      · next read =>
        refine (ih (readHex?_isIn h.step read)).bind ?_
        rintro ⟨rest, after⟩ isIn
        exact .ok isIn
    · exact .ok h

theorem readUriParts_goes (h : c.IsIn text) (fuel : Nat) : Goes text (readUriParts fuel c) := by
  induction fuel generalizing c with
  | zero => exact .ok h
  | succ fuel ih =>
    rw [readUriParts]
    split
    · split
      · refine (readOctets_goes h _).bind ?_
        rintro ⟨octets, after⟩ isIn
        dsimp only
        split
        · exact yields_malformed
        · refine (ih isIn).bind ?_
          rintro ⟨rest, last⟩ isIn
          exact .ok isIn
      · split
        · refine (ih (h.span _)).bind ?_
          rintro ⟨rest, last⟩ isIn
          exact .ok isIn
        · exact .ok h
    · exact .ok h

theorem readUri_goes (h : c.IsIn text) : Goes text (readUri c) := by
  refine (readUriParts_goes h _).bind ?_
  rintro ⟨uri, after⟩ isIn
  dsimp only
  split
  · exact yields_malformed
  · exact .ok isIn

theorem readHandle_goes (h : c.IsIn text) : Goes text (readHandle c) := by
  rw [readHandle]
  split
  · exact yields_malformed
  · split
    · exact .ok h.step
    · dsimp only
      split
      · exact .ok (h.step.span _).step
      · exact yields_malformed

theorem readNumber_goes (h : c.IsIn text) : Goes text (readNumber c) := by
  rw [readNumber]
  dsimp only
  split
  · exact yields_malformed
  · split
    · exact trivial
    · exact .ok (h.span _)

theorem readVersion_goes (h : c.IsIn text) : Goes text (readVersion c) := by
  refine (readNumber_goes (h.skip _)).bind ?_
  rintro ⟨major, after⟩ isIn
  dsimp only
  split
  · exact yields_malformed
  · refine (readNumber_goes isIn.step).bind ?_
    rintro ⟨minor, last⟩ isIn
    dsimp only
    split
    · exact .ok isIn
    · exact yields_malformed

theorem readHandleDirective_goes (h : c.IsIn text) : Goes text (readHandleDirective c) := by
  refine (readHandle_goes (h.skip _)).bind ?_
  rintro ⟨handle, after⟩ isIn
  dsimp only
  split
  · exact yields_malformed
  · refine (readUri_goes (isIn.skip _)).bind ?_
    rintro ⟨address, last⟩ isIn
    dsimp only
    split
    · exact .ok isIn
    · exact yields_malformed

end

end Localization.Yaml
