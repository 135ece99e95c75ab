import Localization.Value.Basic
import Localization.Yaml.Node.Basic

/-! # Nodes from tokens

A document is a single node between optional markers. A node is an alias, or a scalar or a
collection with an optional tag and an optional anchor. An anchor is given once, and before
its aliases.
-/
namespace Localization.Yaml

/-- The tokens left, the fault that ended them, the handles of tags with what they stand
for, and the anchors given so far. -/
structure Reader where
  tokens : List Token
  fault : Option Fault
  handles : List (List Char × List Char)
  anchors : List (List Char)

abbrev Reading := StateT Reader (Except Fault)

namespace Reading

def fail {α : Type} : Reading α := throw .malformed

def peek : Reading Token := do
  let r ← get
  match r.tokens with
  | token :: _ => pure token
  | [] => throw (r.fault.getD .malformed)

def skip : Reading Unit := modify fun r => { r with tokens := r.tokens.drop 1 }

def sees (wanted : List Token) : Reading Bool := return wanted.contains (← peek)

def accept (wanted : Token) : Reading Bool := do
  if (← peek) == wanted then
    skip
    pure true
  else pure false

end Reading

open Reading

def emptyScalar : Node := .scalar .null []

/-- A tag and an anchor before the content of a node. -/
structure Properties where
  anchor : Option (List Char)
  tag : Option (List Char)

def readAnchorToken : Reading (Option (List Char)) := do
  match ← peek with
  | .anchor name => do
    skip
    pure (some name)
  | _ => pure none

def readTagToken : Reading (Option (List Char)) := do
  match ← peek with
  | .tag none suffix => do
    skip
    pure (some suffix)
  | .tag (some handle) suffix => do
    skip
    match (← get).handles.lookup handle with
    | some replacement => pure (some (replacement ++ suffix))
    | none => fail
  | _ => pure none

/-- The properties of a node, in either order. -/
def readProperties : Reading Properties := do
  match ← peek with
  | .anchor _ => do
    let anchor ← readAnchorToken
    let tag ← readTagToken
    pure ⟨anchor, tag⟩
  | _ => do
    let tag ← readTagToken
    if tag.isNone then pure ⟨none, none⟩
    else do
      let anchor ← readAnchorToken
      pure ⟨anchor, tag⟩

/-- The explicit tag of a node; a lone exclamation mark is none. -/
def Properties.explicit? (p : Properties) : Option Tag :=
  match p.tag with
  | some address => if address == ['!'] then none else some (.ofAddress address)
  | none => none

def Properties.isEmpty (p : Properties) : Bool := p.anchor.isNone && p.tag.isNone

/-- The tag of a scalar: its own, that of its form when it is plain or marked so, or that of
texts. -/
def Properties.scalarTag (p : Properties) (text : List Char) (plain : Bool) : Tag :=
  match p.explicit? with
  | some tag => tag
  | none => if plain || p.tag.isSome then tagOfText text else .text

def addAnchor (anchor : Option (List Char)) : Reading Unit := do
  match anchor with
  | none => pure ()
  | some name => do
    if (← get).anchors.contains name then fail
    modify fun r => { r with anchors := name :: r.anchors }

def withAnchor (anchor : Option (List Char)) (node : Node) : Node :=
  match anchor with
  | some name => .anchored name node
  | none => node

/-- Where a node stands: in a flow collection, in a block collection, or as the value or key
of a block mapping, where a sequence need not be indented. -/
inductive Place where
  | flow
  | block
  | blockValue
  deriving DecidableEq

def Place.isBlock : Place → Bool
  | flow => false
  | _ => true

variable [Stack]

/-- A reading on the level below one, as long as the stack has room for it. -/
def deeper {α : Type} (level : Nat) (reading : Nat → Reading α) : Reading α :=
  if Stack.documents ≤ level then throw .recursion else reading (level + 1)

mutual

/-- A node on a level. The first argument bounds the number of tokens. -/
def readNode : Nat → Nat → Place → Reading Node
  | 0, _, _ => fail
  | fuel + 1, level, place => do
    match ← peek with
    | .alias name => do
      skip
      if (← get).anchors.contains name then pure (.alias name) else fail
    | _ => do
      let properties ← readProperties
      addAnchor properties.anchor
      let node ← readContent fuel level place properties
      pure (withAnchor properties.anchor node)

def readContent : Nat → Nat → Place → Properties → Reading Node
  | 0, _, _, _ => fail
  | fuel + 1, level, place, properties => do
    let sequenceTag := properties.explicit?.getD .sequence
    let mappingTag := properties.explicit?.getD .mapping
    match ← peek with
    | .blockEntry =>
      if place == .blockValue then return .sequence sequenceTag (← readIndentless fuel level)
      else if properties.isEmpty then fail
      else pure (.scalar (properties.scalarTag [] true) [])
    | .scalar text plain => do
      skip
      pure (.scalar (properties.scalarTag text (plain && properties.tag.isNone)) text)
    | .flowSequence => do
      skip
      return .sequence sequenceTag (← readFlowItems fuel level true)
    | .flowMapping => do
      skip
      return .mapping mappingTag (← readFlowEntries fuel level true)
    | .blockSequence =>
      if place.isBlock then do
        skip
        return .sequence sequenceTag (← readBlockItems fuel level)
      else if properties.isEmpty then fail
      else pure (.scalar (properties.scalarTag [] true) [])
    | .blockMapping =>
      if place.isBlock then do
        skip
        return .mapping mappingTag (← readBlockEntries fuel level)
      else if properties.isEmpty then fail
      else pure (.scalar (properties.scalarTag [] true) [])
    | _ =>
      if properties.isEmpty then fail else pure (.scalar (properties.scalarTag [] true) [])

def readOptional : Nat → Nat → Place → List Token → Reading Node
  | 0, _, _, _ => fail
  | fuel + 1, level, place, stops => do
    if ← sees stops then pure emptyScalar else readNode fuel level place

def readBlockItems : Nat → Nat → Reading (List Node)
  | 0, _ => fail
  | fuel + 1, level => do
    if ← accept .blockEntry then
      let item ← deeper level fun level =>
        readOptional fuel level .block [.blockEntry, .blockEnd]
      return item :: (← readBlockItems fuel level)
    else if ← accept .blockEnd then pure []
    else fail

def readIndentless : Nat → Nat → Reading (List Node)
  | 0, _ => fail
  | fuel + 1, level => do
    if ← accept .blockEntry then
      let item ← deeper level fun level =>
        readOptional fuel level .block [.blockEntry, .key, .value, .blockEnd]
      return item :: (← readIndentless fuel level)
    else pure []

def readValue : Nat → Nat → Place → List Token → Reading Node
  | 0, _, _, _ => fail
  | fuel + 1, level, place, stops => do
    if ← accept .value then readOptional fuel level place stops else pure emptyScalar

/-- The key and the value of an entry, after its key token. The tokens are those that end the
value; the value token ends the key too. -/
def readEntry : Nat → Nat → Place → List Token → Reading (Node × Node)
  | 0, _, _, _ => fail
  | fuel + 1, level, place, stops => deeper level fun level => do
    let key ← readOptional fuel level place (.value :: stops)
    let value ← readValue fuel level place stops
    pure (key, value)

def readBlockEntries : Nat → Nat → Reading (List (Node × Node))
  | 0, _ => fail
  | fuel + 1, level => do
    if ← accept .key then
      let entry ← readEntry fuel level .blockValue [.key, .value, .blockEnd]
      return entry :: (← readBlockEntries fuel level)
    else if ← accept .blockEnd then pure []
    else fail

def readFlowItems : Nat → Nat → Bool → Reading (List Node)
  | 0, _, _ => fail
  | fuel + 1, level, first => do
    if ← accept .flowSequenceEnd then pure []
    else
      if !first then
        if !(← accept .flowEntry) then fail
      if ← accept .key then
        let entry ← deeper level fun level =>
          readEntry fuel level .flow [.flowEntry, .flowSequenceEnd]
        return .mapping .mapping [entry] :: (← readFlowItems fuel level false)
      else if ← accept .flowSequenceEnd then pure []
      else
        let item ← deeper level fun level => readNode fuel level .flow
        return item :: (← readFlowItems fuel level false)

def readFlowEntries : Nat → Nat → Bool → Reading (List (Node × Node))
  | 0, _, _ => fail
  | fuel + 1, level, first => do
    if ← accept .flowMappingEnd then pure []
    else
      if !first then
        if !(← accept .flowEntry) then fail
      if ← accept .key then
        let entry ← readEntry fuel level .flow [.flowEntry, .flowMappingEnd]
        return entry :: (← readFlowEntries fuel level false)
      else if ← accept .flowMappingEnd then pure []
      else
        let key ← deeper level fun level => readNode fuel level .flow
        return (key, emptyScalar) :: (← readFlowEntries fuel level false)

end

def defaultHandles : List (List Char × List Char) :=
  [(['!'], ['!']), (['!', '!'], standardTags.toList)]

/-- The directives before a document. A version is given once and is 1; a handle is given
once. -/
def readDirectives : Nat → Bool → List (List Char × List Char) →
    Reading (List (List Char × List Char))
  | 0, _, _ => fail
  | fuel + 1, versioned, handles => do
    match ← peek with
    | .directive d => do
      skip
      match d with
      | .version major =>
        if versioned || major != 1 then fail else readDirectives fuel true handles
      | .handle name replacement =>
        if (handles.lookup name).isSome then fail
        else readDirectives fuel versioned ((name, replacement) :: handles)
      | .other => readDirectives fuel versioned handles
    | _ => pure handles

def skipDocumentEnds : Nat → Reading Unit
  | 0 => pure ()
  | fuel + 1 => do if ← accept .documentEnd then skipDocumentEnds fuel

/-- The content of a document with a start marker. -/
def readExplicit (fuel : Nat) : Reading Node := do
  let handles ← readDirectives fuel false []
  if !(← accept .documentStart) then fail
  modify fun r => { r with handles := handles ++ defaultHandles }
  match ← peek with
  | .directive _ => pure emptyScalar
  | .documentStart => pure emptyScalar
  | .documentEnd => pure emptyScalar
  | .streamEnd => pure emptyScalar
  | _ => readNode fuel 0 .block

def readDocument (fuel : Nat) : Reading (Option Node) := do
  match ← peek with
  | .streamEnd => pure none
  | first => do
    let explicit := match first with
      | .directive _ => true
      | .documentStart => true
      | _ => false
    let node ← if explicit then readExplicit fuel else readNode fuel 0 .block
    skipDocumentEnds fuel
    if ← sees [.streamEnd] then pure (some node) else fail

def Node.ofText (cs : List Char) : Except Fault (Option Node) :=
  if !cs.all isAllowed then .error .malformed
  else
    let (tokens, fault) := tokens cs
    let fuel := 5 * tokens.length + 8
    (readDocument fuel).run' ⟨tokens, fault, defaultHandles, []⟩

end Localization.Yaml
