import Localization.Proofs.Yaml.Scalars
import Localization.Proofs.Yaml.Stream
import Localization.Yaml.Node.Reader

/-! # Nodes and the text they come from

A mapping with another tag than its own, and a scalar that does not fit its tag, come from a text
with a tag; an alias comes from a text with one. The reader of nodes fails as its tokens give cause
for.
-/
namespace Localization.Yaml

open Text

variable [Stack] {text : List Char}

inductive Node.IsFrom (text : List Char) : Node → Prop
  | scalar {tag : Tag} {s : List Char} (fits : Explained text (scalarValue tag s)) :
      IsFrom text (.scalar tag s)
  | sequence (tag : Tag) {items : List Node} (each : ∀ item ∈ items, IsFrom text item) :
      IsFrom text (.sequence tag items)
  | mapping {tag : Tag} {entries : List (Node × Node)} (own : tag = .mapping ∨ '!' ∈ text)
      (keys : ∀ entry ∈ entries, IsFrom text entry.1)
      (values : ∀ entry ∈ entries, IsFrom text entry.2) : IsFrom text (.mapping tag entries)
  | anchored (name : List Char) {node : Node} (inner : IsFrom text node) :
      IsFrom text (.anchored name node)
  | pointer (name : List Char) (mark : '*' ∈ text) : IsFrom text (.alias name)

def EntryFrom (text : List Char) (entry : Node × Node) : Prop :=
  entry.1.IsFrom text ∧ entry.2.IsFrom text

abbrev EntriesFrom (text : List Char) (entries : List (Node × Node)) : Prop :=
  ∀ entry ∈ entries, EntryFrom text entry

/-- A reader of tokens of the text, with openers for them and for some more. -/
structure Reader.IsFrom (text : List Char) (credit : Nat) (r : Reader) : Prop where
  tokens : ∀ t ∈ r.tokens, t.IsFrom text
  fault : ∀ fault ∈ r.fault, fault.Cause text
  paid : weigh r.tokens + credit ≤ text.countP isOpener

theorem Reader.IsFrom.mono {credit less : Nat} {r : Reader} (h : r.IsFrom text credit)
    (le : less ≤ credit) : r.IsFrom text less :=
  ⟨h.tokens, h.fault, Nat.le_trans (Nat.add_le_add_left le _) h.paid⟩

/-- A reading keeps to the tokens of the text and leaves the openers alone that are not those of the
tokens, and its result has a property. -/
def Reads {α : Type} (text : List Char) (credit : Nat) (P : α → Prop) (reading : Reading α) :
    Prop :=
  ∀ r : Reader, r.IsFrom text credit →
    Yields text (fun out => P out.1 ∧ out.2.IsFrom text credit) (reading r)

def ReadsBefore {α : Type} (text : List Char) (credit : Nat) (t : Token) (P : α → Prop)
    (reading : Reading α) : Prop :=
  ∀ r : Reader, r.IsFrom text credit → r.tokens.head? = some t →
    Yields text (fun out => P out.1 ∧ out.2.IsFrom text credit) (reading r)

section

variable {α β : Type} {credit : Nat} {P : α → Prop} {Q : β → Prop}

theorem Reads.pure {a : α} (h : P a) : Reads text credit P (pure a) := fun _ isFrom => ⟨h, isFrom⟩

theorem Reads.bind {reading : Reading α} {f : α → Reading β} (h : Reads text credit P reading)
    (rest : ∀ a, P a → Reads text credit Q (f a)) : Reads text credit Q (reading >>= f) :=
  fun r isFrom => (h r isFrom).bind fun out read => rest out.1 read.1 out.2 read.2

theorem Reads.ite {yes no : Reading α} {condition : Prop} [Decidable condition]
    (first : condition → Reads text credit P yes) (second : ¬ condition → Reads text credit P no) :
    Reads text credit P (if condition then yes else no) := iteInduction first second

theorem Reads.before {reading : Reading α} (h : Reads text credit P reading) (t : Token) :
    ReadsBefore text credit t P reading := fun r isFrom _ => h r isFrom

theorem ReadsBefore.ite {yes no : Reading α} {t : Token} {condition : Prop} [Decidable condition]
    (first : condition → ReadsBefore text credit t P yes)
    (second : ¬ condition → ReadsBefore text credit t P no) :
    ReadsBefore text credit t P (if condition then yes else no) := iteInduction first second

theorem Reads.peek {f : Token → Reading β}
    (rest : ∀ t : Token, t.IsFrom text → ReadsBefore text credit t Q (f t)) :
    Reads text credit Q (Reading.peek >>= f) := by
  rintro ⟨tokens, fault, handles, anchors⟩ isFrom
  cases tokens with
  | cons t others => exact rest t (isFrom.tokens t List.mem_cons_self) _ isFrom rfl
  | nil =>
    cases fault with
    | none => exact trivial
    | some fault => exact isFrom.fault fault rfl

theorem ReadsBefore.skip {t : Token} {f : Unit → Reading β}
    (rest : Reads text (credit + t.weight) Q (f ())) :
    ReadsBefore text credit t Q (Reading.skip >>= f) := by
  intro r isFrom head
  obtain ⟨others, same⟩ := List.head?_eq_some_iff.mp head
  have after : Reader.IsFrom text (credit + t.weight) { r with tokens := r.tokens.drop 1 } := by
    refine ⟨fun u inside => isFrom.tokens u (List.mem_of_mem_drop inside), isFrom.fault, ?_⟩
    have paid := isFrom.paid
    rw [same, weigh_cons] at paid
    show weigh (r.tokens.drop 1) + (credit + t.weight) ≤ _
    rw [same, List.drop_one, List.tail_cons]
    omega
  refine (rest _ after).mono fun out read => ⟨read.1, read.2.mono (Nat.le_add_right _ _)⟩

theorem Reads.accepts {wanted : Token} {f : Bool → Reading β}
    (first : Reads text (credit + wanted.weight) Q (f true))
    (second : Reads text credit Q (f false)) :
    Reads text credit Q (Reading.accept wanted >>= f) := by
  rw [Reading.accept, bind_assoc]
  refine .peek fun t _ => ?_
  by_cases same : t = wanted
  · subst same
    simp only [beq_self_eq_true, if_true, bind_assoc, pure_bind]
    exact .skip first
  · rw [if_neg fun equal => same (beq_iff_eq.mp equal), pure_bind]
    exact second.before t

theorem Reads.accept {wanted : Token} {yes no : Reading β}
    (first : Reads text (credit + wanted.weight) Q yes) (second : Reads text credit Q no) :
    Reads text credit Q (do if ← Reading.accept wanted then yes else no) := .accepts first second

theorem Reads.sees {wanted : List Token} {yes no : Reading β} (first : Reads text credit Q yes)
    (second : Reads text credit Q no) :
    Reads text credit Q (do if ← Reading.sees wanted then yes else no) := by
  rw [Reading.sees, bind_assoc]
  refine .peek fun t _ => ?_
  rw [pure_bind]
  exact (Reads.ite (fun _ => first) fun _ => second).before t

theorem Reads.deeper {level : Nat} {reading : Nat → Reading α} (paid : level < credit)
    (h : Reads text credit P (reading (level + 1))) :
    Reads text credit P (Localization.Yaml.deeper level reading) := by
  refine .ite (fun full => ?_) fun _ => h
  intro r isFrom
  have openers := isFrom.paid
  exact .inr (by omega)

end

def Properties.IsFrom (text : List Char) (p : Properties) : Prop := p.tag.isSome = true → '!' ∈ text

theorem Node.IsFrom.withAnchor {node : Node} (h : node.IsFrom text) (anchor : Option (List Char)) :
    (Localization.Yaml.withAnchor anchor node).IsFrom text := by
  cases anchor with
  | none => exact h
  | some name => exact .anchored name h

theorem Properties.IsFrom.scalar {p : Properties} (h : p.IsFrom text) {s : List Char} {plain : Bool}
    (form : p.tag = none → plain = true →
      s.getLast? ≠ some '\n' ∧ s.count ':' ≤ text.count ':') :
    (Node.scalar (p.scalarTag s plain) s).IsFrom text := by
  refine .scalar ?_
  cases tag : p.tag with
  | some address => exact scalarValue_explained_of_mark (h (by rw [tag]; rfl)) _ s
  | none =>
    have noTag : p.explicit? = none := by rw [Properties.explicit?, tag]
    rw [Properties.scalarTag, noTag, tag]
    cases plain with
    | true =>
      obtain ⟨last, colons⟩ := form tag rfl
      exact scalarValue_explained_of_form last colons
    | false => exact trivial

theorem Properties.IsFrom.emptyScalar {p : Properties} (h : p.IsFrom text) :
    (Node.scalar (p.scalarTag [] true) []).IsFrom text :=
  h.scalar fun _ _ => ⟨nofun, Nat.zero_le _⟩

theorem Properties.IsFrom.mapping {p : Properties} (h : p.IsFrom text)
    {entries : List (Node × Node)} (each : EntriesFrom text entries) :
    (Node.mapping (p.explicit?.getD .mapping) entries).IsFrom text := by
  refine .mapping ?_ (fun entry inside => (each entry inside).1) fun entry inside =>
    (each entry inside).2
  cases tag : p.tag with
  | some address => exact .inr (h (by rw [tag]; rfl))
  | none =>
    refine .inl ?_
    rw [Properties.explicit?, tag]
    rfl

section

variable {credit : Nat}

theorem Reads.cons {α : Type} {P : α → Prop} {first : Reading α} {more : Reading (List α)}
    (h : Reads text credit P first) (rest : Reads text credit (∀ a ∈ ·, P a) more) :
    Reads text credit (∀ a ∈ ·, P a) (do return (← first) :: (← more)) :=
  h.bind fun _ head => rest.bind fun _ tail => .pure (List.forall_mem_cons.mpr ⟨head, tail⟩)

end

end Localization.Yaml
