import Localization.Text.Split
import Localization.Text.Casing
import Localization.Value.Display

/-! # Paths into nested maps

A path is a text whose parts between points name keys, from the outermost map inwards.
Some keys are never followed, whatever a map holds under them.
-/
namespace Localization.Catalog

open Text

def unsafeKeys : List String := ["__proto__", "constructor", "prototype"]

/-- Whether a key is unsafe, blanks around it and case aside. -/
def isUnsafe (segment : String) : Bool :=
  unsafeKeys.contains (lowerString (trimString segment))

def segments (path : String) : List String := splitString '.' path

/-- The value under a key; absent when the key is unsafe, the node is no map, or the key
holds nothing. -/
def child? (node : Value) (segment : String) : Option Value :=
  if isUnsafe segment then none
  else
    match node with
    | .map entries =>
      match Entries.get? entries (.text segment) with
      | some .null => none
      | found => found
    | _ => none

def walk? (node : Value) : List String → Option Value
  | [] => some node
  | segment :: rest => (child? node segment).bind fun next => walk? next rest

def resolve? (root : Value) (path : String) : Option Value := walk? root (segments path)

end Localization.Catalog
