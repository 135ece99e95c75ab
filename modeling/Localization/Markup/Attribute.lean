import Localization.Markup.Url
import Localization.Text.Split
import Localization.Trace

/-! # Attributes

The attributes of a tag are names with values, quoted or not, or names alone. The first
occurrence of a name wins. All attributes of a tag are dropped, and the drop reported, when
a quotation does not end, when a name is that of an event handler, or when an address among
the values is not safe. An address that cannot be judged ends the reading of the tag.
-/
namespace Localization.Markup

open Text

/-- Names and values in the order of the first occurrence of each name. -/
abbrev Attributes := List (List Char × List Char)

def isAttributeNameChar (c : Char) : Bool :=
  c.isAlphanum || c == '_' || c == '-' || c == ':' || c == '.'

def isValueEnd (c : Char) : Bool :=
  c == '"' || c == '\'' || c == '=' || c == '<' || c == '>' || c == '\x60'

def isBareChar (c : Char) : Bool := !isBlank c && !isValueEnd c

/-- The value from after an equals sign, and the text after it; none when its quotation
does not end. -/
def readValue? (cs : List Char) : Option (List Char × List Char) :=
  let start := cs.dropWhile isBlank
  match start with
  | '"' :: rest => cutAt? '"' rest
  | '\'' :: rest => cutAt? '\'' rest
  | _ => some (start.takeWhile isBareChar, start.dropWhile isBareChar)

/-- An attribute at the start of a text, which begins with a character of a name. -/
def readAttribute? (cs : List Char) : Option ((List Char × List Char) × List Char) :=
  let name := cs.takeWhile isAttributeNameChar
  let rest := cs.dropWhile isAttributeNameChar
  match rest.dropWhile isBlank with
  | '=' :: after => (readValue? after).map fun (value, rest) => ((name, value), rest)
  | _ => some ((name, []), rest)

/-- All occurrences of attributes, in order. Characters that begin no name are passed over.
The first argument bounds the number of steps. -/
def occurrencesFrom : Nat → List Char → Option Attributes
  | 0, _ => some []
  | _, [] => some []
  | fuel + 1, c :: rest =>
    if isAttributeNameChar c then
      match readAttribute? (c :: rest) with
      | some (item, after) =>
        (occurrencesFrom fuel after).map fun more => item :: more
      | none => none
    else occurrencesFrom fuel rest

def keepFirst (occurrences : Attributes) : Attributes :=
  occurrences.foldl
    (fun kept item =>
      if kept.any (fun other => other.1 == item.1) then kept else kept ++ [item]) []

/-- The attributes of a text; none when a quotation does not end. -/
def scanAttributes (cs : List Char) : Option Attributes :=
  (occurrencesFrom cs.length cs).map keepFirst

def isEventName (name : List Char) : Bool := "on".toList.isPrefixOf (lower name)

def urlNames : List String :=
  ["href", "src", "action", "formaction", "xlink:href", "poster", "cite"]

def isUrlName (name : List Char) : Bool := urlNames.contains (String.ofList (lower name))

/-- Why the attributes of a tag are dropped. -/
inductive Refusal where
  | malformed
  | event (name : List Char)
  | url (name value : List Char)
  deriving DecidableEq, Repr

def refusalOf? (name value : List Char) : Except Failure (Option Refusal) :=
  if isEventName name then .ok (some (.event name))
  else if isUrlName name then
    (isSafeUrl value).map fun safe => if safe then none else some (.url name value)
  else .ok none

def refusal? : Attributes → Except Failure (Option Refusal)
  | [] => .ok none
  | (name, value) :: rest => do
    match ← refusalOf? name value with
    | some refusal => pure (some refusal)
    | none => refusal? rest

/-- What is read of the attributes of a tag: those that it keeps, if any, or why they are
dropped. -/
inductive Verdict where
  | kept (attributes : Option Attributes)
  | refused (refusal : Refusal)
  deriving DecidableEq, Repr

def Verdict.attributes : Verdict → Option Attributes
  | kept attributes => attributes
  | refused _ => none

def readAttributes (cs : List Char) : Except Failure Verdict :=
  if cs.all isBlank then .ok (.kept none)
  else
    match scanAttributes cs with
    | none => .ok (.refused .malformed)
    | some attributes => (refusal? attributes).map fun
      | some refusal => .refused refusal
      | none => .kept (if attributes.isEmpty then none else some attributes)

def attributesOf (cs : List Char) : Except Failure (Option Attributes) :=
  (readAttributes cs).map Verdict.attributes

def textField (name : String) (cs : List Char) : String × Value := (name, .text (String.ofList cs))

def logRefusal (source : List Char) (refusal : Refusal) : Traced Unit :=
  let warn := Traced.log .warning "attributes"
  match refusal with
  | .malformed => warn "malformed_attributes" [textField "attributes" source]
  | .event name => warn "blocked_dangerous_attribute" [textField "attribute" name]
  | .url name value =>
    warn "blocked_unsafe_url" [textField "attribute" name, textField "value" value]

/-- The attributes that a tag keeps; a refusal is reported. -/
def parseAttributes (cs : List Char) : Attempt (Option Attributes) := do
  match ← Attempt.ofExcept (readAttributes cs) with
  | .kept attributes => pure attributes
  | .refused refusal => do
    liftM (logRefusal cs refusal)
    pure none

end Localization.Markup
