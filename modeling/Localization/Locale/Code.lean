import Localization.Text.Split
import Localization.Text.Casing

/-! # Locale codes

A locale code is a language of two or three letters and further subtags of two to eight
letters or digits, each after a dash or an underscore. All are ASCII.
-/
namespace Localization.Locale

open Text

def isAsciiLetter (c : Char) : Bool := c.isAlpha
def isAsciiAlphanumeric (c : Char) : Bool := c.isAlphanum

/-- The underscore separates subtags as the dash does. -/
def dashed (cs : List Char) : List Char := cs.map fun c => if c = '_' then '-' else c

/-- The parts of a code between dashes or underscores. -/
def subtags (cs : List Char) : List (List Char) := splitAt '-' (dashed cs)

def isLanguage (part : List Char) : Bool :=
  2 ≤ part.length && part.length ≤ 3 && part.all isAsciiLetter

def isSubtag (part : List Char) : Bool :=
  2 ≤ part.length && part.length ≤ 8 && part.all isAsciiAlphanumeric

/-- Whether a text is a locale code from its first character to its last. -/
def isCode (cs : List Char) : Bool :=
  match subtags cs with
  | [] => false
  | language :: rest => isLanguage language && rest.all isSubtag

/-- Whether a text passes as a locale code. One line feed may follow the code. -/
def isAccepted (cs : List Char) : Bool :=
  isCode cs || (cs.getLast? == some '\n' && isCode cs.dropLast)

def accepts (s : String) : Bool := isAccepted s.toList

/-- The first subtag, in lower case. -/
def language (cs : List Char) : List Char := lower ((subtags (trim cs)).headD [])

def languageOf (s : String) : String := String.ofList (language s.toList)

end Localization.Locale
