import Localization.Markup.Reference
import Localization.Text.Split
import Localization.Text.Casing

/-! # Safe addresses

An address with a scheme is safe when the scheme is one of a few. The scheme is looked for
after character references are resolved and control characters and blanks around the
address are removed. An address without a scheme is relative and safe. An address whose
references cannot be resolved is not judged.
-/
namespace Localization.Markup

open Text

def safeSchemes : List String := ["http", "https", "mailto", "tel"]

def isControl (c : Char) : Bool := c.toNat ≤ 0x1F || c.toNat == 0x7F

def isSchemeChar (c : Char) : Bool := c.isAlphanum || c == '+' || c == '-' || c == '.'

/-- An address as it is judged. -/
def cleanUrl (cs : List Char) : Except Failure (List Char) :=
  (unescape cs).map fun resolved => trim (resolved.filter (!isControl ·))

/-- Whether a character makes the text before a colon part of a path. -/
def isPathMark (c : Char) : Bool := c == '/' || c == '?' || c == '#'

def isSafeScheme (scheme : List Char) : Bool := safeSchemes.contains (String.ofList (lower scheme))

def isSafeJudged (cleaned : List Char) : Bool :=
  match cleaned with
  | [] => true
  | first :: _ =>
    let scheme := cleaned.takeWhile (· != ':')
    if isPathMark first || first == '.' then true
    else if !cleaned.contains ':' then true
    else if scheme.any isPathMark then true
    else if !first.isAlpha then true
    else if !scheme.all isSchemeChar then true
    else isSafeScheme scheme

def isSafeUrl (url : List Char) : Except Failure Bool := (cleanUrl url).map isSafeJudged

end Localization.Markup
