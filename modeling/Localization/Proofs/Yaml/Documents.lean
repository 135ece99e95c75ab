import Localization.Proofs.Yaml.Nodes
import Localization.Yaml.Document

/-! # Documents and the text they come from

Filling collections notes the faults that a text gives cause for, and a collection holds itself only
where the text has an alias.
-/
namespace Localization.Yaml

variable {text : List Char}

section

variable [Stack]

theorem Yields.mapM {α β : Type} {P : β → Prop} {f : α → Except Fault β} {items : List α}
    (each : ∀ a ∈ items, Yields text P (f a)) : Yields text (∀ b ∈ ·, P b) (items.mapM f) := by
  induction items with
  | nil => exact .ok nofun
  | cons a rest ih =>
    obtain ⟨first, others⟩ := List.forall_mem_cons.mp each
    rw [List.mapM_cons]
    refine first.bind fun b head => (ih others).bind fun bs tail => ?_
    exact .ok (List.forall_mem_cons.mpr ⟨head, tail⟩)

def Anchors.IsFrom (text : List Char) (anchors : Anchors) : Prop :=
  ∀ entry ∈ anchors, entry.2.IsFrom text

theorem Node.IsFrom.bare {node : Node} (h : node.IsFrom text) : node.bare.IsFrom text := by
  induction h with
  | scalar fits => exact .scalar fits
  | sequence tag each => exact .sequence tag each
  | mapping own keys values => exact .mapping own keys values
  | anchored name inner ih => exact ih
  | pointer name mark => exact .pointer name mark

theorem Node.IsFrom.entries {tag : Tag} {entries : List (Node × Node)}
    (h : (Node.mapping tag entries).IsFrom text) : EntriesFrom text entries := by
  cases h with
  | mapping own keys values => exact fun entry inside => ⟨keys entry inside, values entry inside⟩

theorem Node.IsFrom.items {tag : Tag} {items : List Node}
    (h : (Node.sequence tag items).IsFrom text) : ∀ item ∈ items, item.IsFrom text := by
  cases h with
  | sequence _ each => exact each

theorem Node.IsFrom.anchors {node : Node} (h : node.IsFrom text) :
    Anchors.IsFrom text node.anchors := by
  have ofItems {items : List Node} (each : ∀ item ∈ items, Anchors.IsFrom text item.anchors) :
      Anchors.IsFrom text (anchorsOfItems items) := by
    induction items with
    | nil => exact nofun
    | cons item rest ih =>
      obtain ⟨first, others⟩ := List.forall_mem_cons.mp each
      exact List.forall_mem_append.mpr ⟨first, ih others⟩
  have ofEntries {entries : List (Node × Node)}
      (keys : ∀ entry ∈ entries, Anchors.IsFrom text entry.1.anchors)
      (values : ∀ entry ∈ entries, Anchors.IsFrom text entry.2.anchors) :
      Anchors.IsFrom text (anchorsOfEntries entries) := by
    induction entries with
    | nil => exact nofun
    | cons entry rest ih =>
      obtain ⟨key, value⟩ := entry
      obtain ⟨first, otherKeys⟩ := List.forall_mem_cons.mp keys
      obtain ⟨second, otherValues⟩ := List.forall_mem_cons.mp values
      have both : Anchors.IsFrom text (anchorsOfEntry (key, value)) :=
        List.forall_mem_append.mpr ⟨first, second⟩
      exact List.forall_mem_append.mpr ⟨both, ih otherKeys otherValues⟩
  induction h with
  | scalar fits => exact nofun
  | sequence tag each ih => exact ofItems ih
  | mapping own keys values ihKeys ihValues => exact ofEntries ihKeys ihValues
  | anchored name inner ih => exact List.forall_mem_cons.mpr ⟨inner, ih⟩
  | pointer name mark => exact nofun

section

variable {anchors : Anchors} (known : anchors.IsFrom text)
include known

theorem Anchors.IsFrom.lookup {name : List Char} {node : Node}
    (found : anchors.lookup name = some node) : node.IsFrom text := by
  obtain ⟨before, after, parts, -⟩ := List.lookup_eq_some_iff.mp found
  exact known (name, node) (by rw [parts]; exact List.mem_append_right _ List.mem_cons_self)

theorem Anchors.IsFrom.deref {node : Node} (h : node.IsFrom text) :
    (Anchors.deref anchors node).IsFrom text := by
  have bare := h.bare
  rw [Anchors.deref]
  split
  · next name same =>
    cases found : anchors.lookup name with
    | none => exact same ▸ bare
    | some inner => exact (known.lookup found).bare
  · exact bare

theorem Anchors.IsFrom.mergedEntries {merged : Node → Except Fault (List (Node × Node))}
    (each : ∀ source : Node, source.IsFrom text → Yields text (EntriesFrom text) (merged source))
    {source : Node} (h : source.IsFrom text) :
    Yields text (EntriesFrom text) (Localization.Yaml.mergedEntries anchors merged source) := by
  have target := known.deref h
  rw [Localization.Yaml.mergedEntries]
  split
  · next tag items same =>
    rw [same] at target
    refine (Yields.mapM fun item inside => each item (target.items item inside)).bind ?_
    intro parts all
    refine .ok fun entry inside => ?_
    obtain ⟨part, listed, there⟩ := List.mem_flatten.mp inside
    exact all part (List.mem_reverse.mp listed) entry there
  · exact each source h

theorem Anchors.IsFrom.flatten (fuel : Nat) (path : List (List Char)) {entries : List (Node × Node)}
    (h : EntriesFrom text entries) :
    Yields text (EntriesFrom text) (Localization.Yaml.flatten anchors fuel path entries) := by
  induction fuel generalizing path entries with
  | zero => exact .ok h
  | succ fuel ih =>
    rw [Localization.Yaml.flatten]
    refine Yields.bind (Yields.mapM (P := EntriesFrom text) fun source inside => ?_)
      fun parts all => .ok ?_
    · obtain ⟨entry, listed, rfl⟩ := List.mem_map.mp inside
      refine known.mergedEntries (fun source isFrom => ?_) (h entry (List.mem_filter.mp listed).1).2
      have target := known.deref isFrom
      split
      · next tag inner same =>
        rw [same] at target
        split
        · exact .ite (fun _ => .ok nofun) fun _ => ih _ target.entries
        · exact ih _ target.entries
      · exact yields_malformed
    · refine List.forall_mem_append.mpr ⟨fun entry inside => ?_, fun entry inside => ?_⟩
      · obtain ⟨part, listed, there⟩ := List.mem_flatten.mp inside
        exact all part listed entry there
      · exact h entry (List.mem_filter.mp inside).1

theorem Anchors.IsFrom.plainText (fuel : Nat) (path : List (List Char)) {node : Node}
    (h : node.IsFrom text) :
    Explained text (Localization.Yaml.plainText anchors fuel path node) := by
  induction fuel generalizing path node with
  | zero => exact yields_malformed
  | succ fuel ih =>
    have bare := h.bare
    rw [Localization.Yaml.plainText]
    split
    · exact trivial
    · next tag entries same =>
      rw [same] at bare
      split
      · next entry found => exact ih path (bare.entries entry (List.mem_of_find?_eq_some found)).2
      · exact yields_malformed
    · next name same =>
      rw [same] at bare
      refine .ite (fun _ => ?_) fun _ => ?_
      · cases bare with
        | pointer _ mark => exact .inl mark
      · split
        · next inner found => exact ih _ (known.lookup found)
        · exact yields_malformed
    · exact yields_malformed

end

theorem mappingValue_explained (mark : '!' ∈ text) (tag : Tag) (s : List Char) :
    Explained text (mappingValue tag s) :=
  .ite (fun _ => mark) fun _ => scalarValue_explained_of_mark mark tag s

/-- The faults so far have a cause in the text, and an anchor that is used within itself is used by
an alias. -/
structure Building.IsFrom (text : List Char) (b : Building) : Prop where
  faults : ∀ noted ∈ b.faults, noted.2.Cause text
  loops : b.loops ≠ [] → '*' ∈ text

def Builds {α : Type} (text : List Char) (build : Build α) : Prop :=
  ∀ b : Building, b.IsFrom text → (build.run b).2.IsFrom text

section

variable {α β : Type}

theorem builds_pure (a : α) : Builds text (pure a) := fun _ isFrom => isFrom

theorem builds_get : Builds text (get : Build Building) := fun _ isFrom => isFrom

theorem Builds.bind {build : Build α} {f : α → Build β} (h : Builds text build)
    (rest : ∀ a, Builds text (f a)) : Builds text (build >>= f) :=
  fun b isFrom => rest _ _ (h b isFrom)

theorem Builds.ite {yes no : Build α} {condition : Prop} [Decidable condition]
    (first : condition → Builds text yes) (second : ¬ condition → Builds text no) :
    Builds text (if condition then yes else no) := iteInduction first second

theorem Builds.mapM {f : α → Build β} {items : List α} (each : ∀ a ∈ items, Builds text (f a)) :
    Builds text (items.mapM f) := by
  induction items with
  | nil => exact builds_pure _
  | cons a rest ih =>
    obtain ⟨first, others⟩ := List.forall_mem_cons.mp each
    rw [List.mapM_cons]
    exact first.bind fun b => (ih others).bind fun bs => builds_pure _

theorem Builds.foldlM {f : β → α → Build β} {items : List α}
    (each : ∀ b, ∀ a ∈ items, Builds text (f b a)) (start : β) :
    Builds text (items.foldlM f start) := by
  induction items generalizing start with
  | nil => exact builds_pure _
  | cons a rest ih =>
    rw [List.foldlM_cons]
    refine (each start a List.mem_cons_self).bind fun b => ?_
    exact ih (fun b a inside => each b a (List.mem_cons_of_mem _ inside)) b

end

theorem builds_note (level : Nat) {fault : Fault} (cause : fault.Cause text) :
    Builds text (note level fault) := by
  intro b isFrom
  refine ⟨List.forall_mem_append.mpr ⟨isFrom.faults, ?_⟩, isFrom.loops⟩
  exact List.forall_mem_singleton.mpr cause

theorem builds_noteError (level : Nat) {result : Except Fault Value}
    (h : Explained text result) : Builds text (noteError level result) := by
  cases result with
  | ok v => exact builds_pure v
  | error fault => exact builds_note level h

theorem builds_noteLoop (mark : '*' ∈ text) (name : List Char) : Builds text (noteLoop name) :=
  fun _ isFrom => ⟨isFrom.faults, fun _ => mark⟩

section

variable {anchors : Anchors} (known : anchors.IsFrom text) {build : Node → Build Value}
  (each : ∀ node : Node, node.IsFrom text → Builds text (build node))
include known each

theorem Anchors.IsFrom.buildPair (level : Nat) {item : Node} (h : item.IsFrom text) :
    Builds text (Localization.Yaml.buildPair anchors build level item) := by
  have target := known.deref h
  rw [Localization.Yaml.buildPair]
  split
  · next tag key value same =>
    rw [same] at target
    obtain ⟨isKey, isValue⟩ := target.entries (key, value) List.mem_cons_self
    exact (each key isKey).bind fun _ => (each value isValue).bind fun _ => builds_pure _
  · exact builds_note level trivial

theorem Anchors.IsFrom.buildKey (level : Nat) {key : Node} (h : key.IsFrom text) :
    Builds text (Localization.Yaml.buildKey anchors build level key) := by
  have target := known.deref h
  rw [Localization.Yaml.buildKey]
  split
  · exact builds_pure _
  · exact .ite (fun _ => builds_note level trivial) fun _ => each key h
  · next entries same =>
    rw [same] at target
    cases target with
    | mapping own keys values => exact each _ (.mapping (.inr (own.resolve_left nofun)) keys values)
  · exact .ite (fun _ => each key h) fun _ => builds_note level trivial
  · exact builds_note level trivial

theorem Anchors.IsFrom.buildMapping (level fuel : Nat) {entries : List (Node × Node)}
    (h : EntriesFrom text entries) :
    Builds text (Localization.Yaml.buildMapping anchors build level fuel entries) := by
  have flat := known.flatten fuel [] h
  rw [Localization.Yaml.buildMapping]
  split
  · next fault failed =>
    rw [failed] at flat
    exact (builds_note level flat).bind fun _ => builds_pure _
  · next merged ok =>
    rw [ok] at flat
    refine .foldlM (fun filled entry inside => ?_) []
    obtain ⟨isKey, isValue⟩ := flat entry inside
    refine (known.buildKey each level isKey).bind fun _ => ?_
    exact (each _ isValue).bind fun _ => builds_pure _

end

theorem Anchors.IsFrom.buildNode {anchors : Anchors} (known : anchors.IsFrom text) (fuel : Nat)
    (path : List (List Char)) (level : Nat) {node : Node} (h : node.IsFrom text) :
    Builds text (Localization.Yaml.buildNode anchors fuel path level node) := by
  induction fuel generalizing path level node with
  | zero => exact builds_pure _
  | succ fuel ih =>
    have each (inner : Node) (isFrom : inner.IsFrom text) :
        Builds text (Localization.Yaml.buildNode anchors fuel path (level + 1) inner) :=
      ih path (level + 1) isFrom
    cases h with
    | scalar fits => exact builds_noteError _ fits
    | sequence tag items =>
      have values := Builds.mapM fun item inside => each item (items item inside)
      have pairs := Builds.mapM fun item inside =>
        known.buildPair each (level + 1) (items item inside)
      rw [Localization.Yaml.buildNode.eq_def]
      dsimp only
      split
      · exact values.bind fun _ => builds_pure _
      · exact pairs.bind fun _ => builds_pure _
      · exact pairs.bind fun _ => builds_pure _
      · exact builds_note _ trivial
      · exact builds_note _ trivial
      · exact builds_note _ trivial
    | mapping own keys values =>
      have entries : EntriesFrom text _ :=
        fun entry inside => ⟨keys entry inside, values entry inside⟩
      have filled := known.buildMapping each (level + 1) fuel entries
      rw [Localization.Yaml.buildNode.eq_def]
      refine .ite (fun scalar => ?_) fun _ => ?_
      · -- The tag of a scalar is not that of mappings, so it is written.
        have mark : '!' ∈ text := own.resolve_left (by rintro rfl; exact nomatch scalar)
        refine builds_noteError _ (Explained.bind ?_ (mappingValue_explained mark _))
        exact known.plainText fuel [] (.mapping own keys values)
      · split
        · exact filled.bind fun _ => builds_pure _
        · exact filled.bind fun _ => builds_pure _
        · exact builds_note _ trivial
        · exact builds_note _ trivial
        · exact builds_note _ trivial
        · exact builds_note _ trivial
    | anchored name inner =>
      have stored (v : Value) : Builds text
          (modify fun b : Building => { b with values := (name, v) :: b.values }) :=
        fun b isFrom => ⟨isFrom.faults, isFrom.loops⟩
      exact (ih _ _ inner).bind fun v => (stored v).bind fun _ => builds_pure v
    | pointer name mark =>
      refine builds_get.bind fun b => ?_
      split
      · exact builds_pure _
      · refine .ite (fun _ => builds_noteLoop mark name) fun _ => ?_
        split
        · next inner found => exact ih _ _ (known.lookup found)
        · exact builds_note level trivial

omit [Stack] in
theorem firstFault_mem {faults : List (Nat × Fault)} {first : Nat × Fault}
    (found : firstFault faults = some first) : first ∈ faults := by
  induction faults generalizing first with
  | nil => cases found
  | cons noted rest ih =>
    rw [firstFault] at found
    split at found
    · next later same =>
      split at found
      · cases found
        exact List.mem_cons_of_mem _ (ih same)
      · cases found
        exact List.mem_cons_self
    · cases found
      exact List.mem_cons_self

def Document.IsFrom (text : List Char) (document : Document) : Prop :=
  document.loops ≠ [] → '*' ∈ text

theorem Node.IsFrom.document {node : Node} (h : node.IsFrom text) :
    Yields text (Document.IsFrom text) node.document := by
  rw [Node.document]
  split
  next v b built =>
  have isFrom : (v, b).2.IsFrom text :=
    built ▸ h.anchors.buildNode _ [] 0 h ⟨[], [], []⟩ ⟨nofun, nofun⟩
  split
  · next level fault found => exact isFrom.faults _ (firstFault_mem found)
  · refine .ok fun marked => isFrom.loops fun none => marked ?_
    rw [none]
    rfl

end

end Localization.Yaml
