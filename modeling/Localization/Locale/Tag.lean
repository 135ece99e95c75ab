import Localization.Locale.Code

/-! # Locale tags

A tag names a locale of some format data by language, script, territory and variant. Tags
are written with underscores; what follows an at sign is a modifier and what follows a
point does not count. A tag that is not in the data is completed from the likely script
and territory of its language, and loses them again where the data has no such locale.
-/
namespace Localization.Locale

open Text

/-- A part that is absent is empty. -/
structure Tag where
  language : List Char
  script : List Char
  territory : List Char
  variant : List Char
  modifier : List Char
  deriving DecidableEq, Repr

namespace Tag

/-- The parts that are present, joined by underscores. -/
def base (t : Tag) : List Char :=
  joinWith ['_'] ([t.language, t.script, t.territory, t.variant].filter (!·.isEmpty))

def text (t : Tag) : List Char :=
  t.base ++ (if t.modifier.isEmpty then [] else '@' :: t.modifier)

def capitalize : List Char → List Char
  | [] => []
  | c :: rest => c.toUpper :: rest.map Char.toLower

/-- Takes the first part for a place in the tag when it has the form of that place. -/
def takePart (fits : List Char → Bool) : List (List Char) → List Char × List (List Char)
  | [] => ([], [])
  | part :: rest => if fits part then (part, rest) else ([], part :: rest)

def isScript (part : List Char) : Bool := part.length == 4 && part.all isAsciiLetter

def isTerritory (part : List Char) : Bool :=
  (part.length == 2 && part.all isAsciiLetter) || (part.length == 3 && part.all Char.isDigit)

def isVariant (part : List Char) : Bool :=
  match part with
  | [] => false
  | c :: _ => (part.length == 4 && c.isDigit) || (5 ≤ part.length && isAsciiLetter c)

def read? (cs : List Char) : Option Tag :=
  let (body, modifier) := (cutAt? '@' cs).getD (cs, [])
  let body := ((cutAt? '.' body).map Prod.fst).getD body
  match splitAt '_' body with
  | [] => none
  | first :: parts =>
    let language := lower first
    let (script, parts) := takePart isScript parts
    let (territory, parts) := takePart isTerritory parts
    let (variant, parts) := takePart isVariant parts
    if language.isEmpty || !language.all isAsciiLetter || !parts.isEmpty then none
    else some ⟨language, capitalize script, upper territory, upper variant, modifier⟩

end Tag

/-- The locales of the format data, without modifiers. -/
def knownTags : List String :=
  ["ar", "ar_EG", "cs", "cs_CZ", "de", "de_AT", "de_CH", "de_DE", "en", "en_150", "en_GB", "en_IN",
   "en_US", "en_US_POSIX", "es", "es_419", "es_ES", "fr", "fr_FR", "he", "he_IL", "hi", "hi_IN",
   "it", "it_IT", "ja", "ja_JP", "no", "pl", "pl_PL", "pt", "pt_BR", "pt_PT", "ru", "ru_RU", "sr",
   "sr_Latn", "sv", "sv_SE", "zh", "zh_Hans", "zh_Hant", "zh_Hant_TW"]

/-- Languages that go by another code now. -/
def languageAliases : List (String × String) := [("iw", "he")]

/-- The most likely full tag for a partial one. -/
def likelyTags : List (String × String) :=
  [("ar", "ar_Arab_EG"), ("cs", "cs_Latn_CZ"), ("de", "de_Latn_DE"), ("en", "en_Latn_US"),
   ("es", "es_Latn_ES"), ("fr", "fr_Latn_FR"), ("he", "he_Hebr_IL"), ("hi", "hi_Deva_IN"),
   ("it", "it_Latn_IT"), ("ja", "ja_Jpan_JP"), ("pl", "pl_Latn_PL"), ("pt", "pt_Latn_BR"),
   ("ru", "ru_Cyrl_RU"), ("sr", "sr_Cyrl_RS"), ("sv", "sv_Latn_SE"), ("und_AT", "de_Latn_AT"),
   ("zh", "zh_Hans_CN"), ("zh_TW", "zh_Hant_TW")]

def likely? (cs : List Char) : Option Tag :=
  (likelyTags.lookup (String.ofList cs)).bind fun s => Tag.read? s.toList

namespace Tag

def isKnown (t : Tag) : Bool := knownTags.contains (String.ofList t.base)

/-- The tag itself or, where the data lacks it, its language and territory. -/
def reduce? (t : Tag) : Option Tag :=
  if t.isKnown then some t
  else
    let plain : Tag := ⟨t.language, [], t.territory, [], []⟩
    if plain.isKnown then some plain else none

/-- The tag with what is unknown left out and its language under its present code. -/
def renamed (t : Tag) : Tag :=
  { t with
    language := ((languageAliases.lookup (String.ofList t.language)).map String.toList).getD t.language
    territory := if t.territory = ['Z', 'Z'] then [] else t.territory
    script := if t.script = "Zzzz".toList then [] else t.script }

def completed? (t : Tag) : Option Tag :=
  (likely? t.language).map fun full =>
    ⟨full.language, full.script, t.territory, full.variant, full.modifier⟩

def resolve? (t : Tag) : Option Tag :=
  if t.isKnown then some t
  else ((likely? t.renamed.text).bind reduce?).or (t.renamed.completed?.bind reduce?)

end Tag

/-- The tag of the format data that a name with underscores stands for. -/
def tagOf? (cs : List Char) : Option Tag := (Tag.read? cs).bind Tag.resolve?

end Localization.Locale
