import Localization.Markup.Attribute

/-! # Escaping and allowed elements

The characters that could begin or end markup are written as character references, each by
itself, so that the escaped form of a text is made of the escaped forms of its parts. A few
inline elements may be written from a text, with a few attributes. Names count without
regard to case.
-/
namespace Localization.Markup

open Text

def escapeChar (c : Char) : List Char :=
  if c = '&' then "&amp;".toList
  else if c = '<' then "&lt;".toList
  else if c = '>' then "&gt;".toList
  else if c = '"' then "&quot;".toList
  else if c = '\'' then "&#039;".toList
  else [c]

def escape (cs : List Char) : List Char := cs.flatMap escapeChar

theorem escape_append (a b : List Char) : escape (a ++ b) = escape a ++ escape b := by
  simp [escape]

def safeTags : List String :=
  ["b", "strong", "em", "i", "u", "s", "mark", "small", "sub", "sup", "span"]

def safeAttributes : List String := ["class", "title", "id"]

def isSafeTag (name : List Char) : Bool := safeTags.contains (String.ofList (lower name))

def isSafeAttribute (name : List Char) : Bool :=
  safeAttributes.contains (String.ofList (lower name))

/-- Puts an attribute. A name that is present keeps its place and takes the new value. -/
def putAttribute : Attributes → List Char × List Char → Attributes
  | [], item => [item]
  | (name, value) :: rest, item =>
    if name == item.1 then (name, item.2) :: rest
    else (name, value) :: putAttribute rest item

/-- The allowed attributes, their names in lower case. -/
def filterAttributes (attributes : Attributes) : Attributes :=
  (attributes.filter fun item => isSafeAttribute item.1).foldl
    (fun kept item => putAttribute kept (lower item.1, item.2)) []

def attributeText (item : List Char × List Char) : List Char :=
  ' ' :: item.1 ++ '=' :: '"' :: escape item.2 ++ ['"']

def elementText (name : List Char) (attributes : Attributes) (content : List Char) : List Char :=
  '<' :: name ++ (filterAttributes attributes).flatMap attributeText ++ '>' :: escape content ++
    '<' :: '/' :: name ++ ['>']

end Localization.Markup
