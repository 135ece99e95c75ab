import Localization.Yaml.Scalar

/-! # Documents as values

A mapping becomes a map in which a later entry replaces an earlier one of the same key; keys
are scalars. A merge key puts the entries of other mappings before its own. An alias stands
for the value of its anchor.

Collections are filled level by level, so of several faults the one nearest to the root
counts, and of those on one level the first. A collection may hold itself through an alias.
-/
namespace Localization.Yaml

def Node.bare : Node → Node
  | anchored _ node => node.bare
  | other => other

def Node.tag? : Node → Option Tag
  | scalar tag _ => some tag
  | sequence tag _ => some tag
  | mapping tag _ => some tag
  | anchored _ node => node.tag?
  | .alias _ => none

mutual

def Node.anchors : Node → List (List Char × Node)
  | .anchored name node => (name, node) :: node.anchors
  | .sequence _ items => anchorsOfItems items
  | .mapping _ entries => anchorsOfEntries entries
  | _ => []

def anchorsOfItems : List Node → List (List Char × Node)
  | [] => []
  | item :: rest => item.anchors ++ anchorsOfItems rest

def anchorsOfEntries : List (Node × Node) → List (List Char × Node)
  | [] => []
  | entry :: rest => anchorsOfEntry entry ++ anchorsOfEntries rest

def anchorsOfEntry : Node × Node → List (List Char × Node)
  | (key, value) => key.anchors ++ value.anchors

end

abbrev Anchors := List (List Char × Node)

def Anchors.deref (anchors : Anchors) (node : Node) : Node :=
  match node.bare with
  | .alias name => ((anchors.lookup name).map Node.bare).getD (.alias name)
  | other => other

def isMergeKey (anchors : Anchors) (key : Node) : Bool :=
  (anchors.deref key).tag? == some .merge

def isValueKey (anchors : Anchors) (key : Node) : Bool :=
  (anchors.deref key).tag? == some .value

/-- The name by which a mapping is reached when it is merged. -/
def aliasName? (node : Node) : Option (List Char) :=
  match node with
  | .alias name => some name
  | .anchored name _ => some name
  | _ => none

/-- The entries that a merge key brings from its value: those of a mapping, or those of the
mappings in a sequence, of the last one first. -/
def mergedEntries (anchors : Anchors) (merged : Node → Except Fault (List (Node × Node)))
    (source : Node) : Except Fault (List (Node × Node)) :=
  match anchors.deref source with
  | .sequence _ items => do
    let parts ← items.mapM merged
    pure parts.reverse.flatten
  | _ => merged source

/-- The entries of a mapping with those of merged mappings before them. A mapping that is
merged into itself adds nothing. The second argument bounds the depth. -/
def flatten (anchors : Anchors) :
    Nat → List (List Char) → List (Node × Node) → Except Fault (List (Node × Node))
  | 0, _, entries => .ok entries
  | fuel + 1, path, entries => do
    let merged (source : Node) : Except Fault (List (Node × Node)) :=
      match anchors.deref source with
      | .mapping _ inner =>
        match aliasName? source with
        | some name =>
          if path.contains name then .ok [] else flatten anchors fuel (name :: path) inner
        | none => flatten anchors fuel path inner
      | _ => .error .malformed
    let sources := (entries.filter fun e => isMergeKey anchors e.1).map Prod.snd
    let parts ← sources.mapM (mergedEntries anchors merged)
    pure (parts.flatten ++ entries.filter fun e => !isMergeKey anchors e.1)

/-- The text of a scalar, or of the value entry of a mapping. The second argument bounds the
depth; the names are those of the aliases on the way. -/
def plainText (anchors : Anchors) : Nat → List (List Char) → Node → Except Fault (List Char)
  | 0, _, _ => .error .malformed
  | fuel + 1, path, node =>
    match node.bare with
    | .scalar _ text => .ok text
    | .mapping _ entries =>
      match entries.find? fun e => isValueKey anchors e.1 with
      | some entry => plainText anchors fuel path entry.2
      | none => .error .malformed
    | .alias name =>
      if path.contains name then .error .recursion
      else
        match anchors.lookup name with
        | some inner => plainText anchors fuel (name :: path) inner
        | none => .error .malformed
    | _ => .error .malformed

def Tag.isScalar : Tag → Bool
  | text | null | boolean | integer | real | timestamp | binary => true
  | _ => false

/-- Whether a tag is that of a collection, which is filled on the next level. -/
def Tag.isCollection : Tag → Bool
  | sequence | mapping | ordered | pairs | set => true
  | _ => false

def mappingValue (tag : Tag) (text : List Char) : Except Fault Value :=
  if tag = .timestamp then .error .timestampKind else scalarValue tag text

/-- The values of anchors so far, the names of anchors that are used within themselves, and the
faults with their levels. -/
structure Building where
  values : List (List Char × Value)
  loops : List (List Char)
  faults : List (Nat × Fault)

abbrev Build := StateM Building

def note (level : Nat) (fault : Fault) : Build Value := do
  modify fun b => { b with faults := b.faults ++ [(level, fault)] }
  pure .null

def noteError (level : Nat) (result : Except Fault Value) : Build Value :=
  match result with
  | .ok v => pure v
  | .error fault => note level fault

def loopMark (name : List Char) : Value := .tuple [.text (String.ofList name)]

def noteLoop (name : List Char) : Build Value := do
  modify fun b => { b with loops := name :: b.loops }
  pure (loopMark name)

def buildPair (anchors : Anchors) (build : Node → Build Value) (level : Nat) (item : Node) :
    Build Value :=
  match anchors.deref item with
  | .mapping _ [(key, value)] => do
    let k ← build key
    let v ← build value
    pure (.tuple [k, v])
  | _ => note level .malformed

def buildKey (anchors : Anchors) (build : Node → Build Value) (level : Nat) (key : Node) :
    Build Value :=
  match anchors.deref key with
  | .scalar .value text => pure (.text (String.ofList text))
  | .scalar tag _ => if tag.isCollection then note level .malformed else build key
  | .mapping .value entries => build (.mapping .text entries)
  | .mapping tag _ => if tag.isScalar then build key else note level .malformed
  | _ => note level .malformed

def buildEntry (anchors : Anchors) (build : Node → Build Value) (level : Nat) (filled : Entries)
    (entry : Node × Node) : Build Entries := do
  let k ← buildKey anchors build level entry.1
  let v ← build entry.2
  pure (filled.put k v)

def buildMapping (anchors : Anchors) (build : Node → Build Value) (level fuel : Nat)
    (entries : List (Node × Node)) : Build Entries :=
  match flatten anchors fuel [] entries with
  | .error fault => do
    let _ ← note level fault
    pure []
  | .ok entries => entries.foldlM (buildEntry anchors build level) []

/-- The value of a node on a level. The second argument bounds the depth; the names are those of
the anchors around the node. -/
def buildNode (anchors : Anchors) : Nat → List (List Char) → Nat → Node → Build Value
  | 0, _, _, _ => pure .null
  | fuel + 1, path, level, node =>
    let build := buildNode anchors fuel path (level + 1)
    match node with
    | .anchored name inner => do
      let v ← buildNode anchors fuel (name :: path) level inner
      modify fun b => { b with values := (name, v) :: b.values }
      pure v
    | .alias name => do
      match (← get).values.lookup name with
      | some v => pure v
      | none =>
        if path.contains name then noteLoop name
        else
          match anchors.lookup name with
          | some inner => buildNode anchors fuel (name :: path) level inner
          | none => note level .malformed
    | .scalar tag text =>
      noteError (if tag.isCollection then level + 1 else level) (scalarValue tag text)
    | .sequence tag items =>
      match tag with
      | .sequence => do return .list (← items.mapM build)
      | .ordered => do return .list (← items.mapM (buildPair anchors build (level + 1)))
      | .pairs => do return .list (← items.mapM (buildPair anchors build (level + 1)))
      | .mapping => note (level + 1) .malformed
      | .set => note (level + 1) .malformed
      | _ => note level .malformed
    | .mapping tag entries =>
      if tag.isScalar then
        noteError level ((plainText anchors fuel [] node).bind (mappingValue tag))
      else
        match tag with
        | .mapping => do return .map (← buildMapping anchors build (level + 1) fuel entries)
        | .set => do
          let filled ← buildMapping anchors build (level + 1) fuel entries
          pure (.list (filled.map Prod.fst))
        | .sequence => note (level + 1) .malformed
        | .ordered => note (level + 1) .malformed
        | .pairs => note (level + 1) .malformed
        | _ => note level .malformed

def firstFault : List (Nat × Fault) → Option (Nat × Fault)
  | [] => none
  | (level, fault) :: rest =>
    match firstFault rest with
    | some (other, later) => if other < level then some (other, later) else some (level, fault)
    | none => some (level, fault)

mutual

def Node.size : Node → Nat
  | .anchored _ node => node.size + 1
  | .sequence _ items => sizeOfItems items + 1
  | .mapping _ entries => sizeOfEntries entries + 1
  | _ => 1

def sizeOfItems : List Node → Nat
  | [] => 0
  | item :: rest => item.size + sizeOfItems rest

def sizeOfEntries : List (Node × Node) → Nat
  | [] => 0
  | entry :: rest => sizeOfEntry entry + sizeOfEntries rest

def sizeOfEntry : Node × Node → Nat
  | (key, value) => key.size + value.size

end

/-- A value, and the values of the anchors that are marked in it. -/
structure Document where
  value : Value
  loops : List (String × Value)

def Node.document (node : Node) : Except Fault Document :=
  let fuel := 8 * node.size * (node.anchors.length + 1) + 16
  let (v, b) := (buildNode node.anchors fuel [] 0 node).run ⟨[], [], []⟩
  match firstFault b.faults with
  | some (_, fault) => .error fault
  | none => .ok ⟨v, b.loops.filterMap fun name =>
      (b.values.lookup name).map (String.ofList name, ·)⟩

/-- Line breaks of all kinds as line feeds. -/
def unifyBreaks : List Char → List Char
  | '\x0d' :: '\n' :: rest => '\n' :: unifyBreaks rest
  | '\x0d' :: rest => '\n' :: unifyBreaks rest
  | c :: rest => c :: unifyBreaks rest
  | [] => []

def read [Stack] (text : List Char) : Except Fault Document := do
  match ← Node.ofText (unifyBreaks text) with
  | some node => node.document
  | none => pure ⟨.null, []⟩

end Localization.Yaml
