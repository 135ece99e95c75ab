import Localization.Negotiation.Ranking
import Localization.Number.Binary64
import Localization.Text.Split

/-! # Language preferences

A header lists language ranges between commas. After a semicolon, `q=` gives the quality of
a range; without a quality that can be read it is one. Parts without a range, and the range
of a single asterisk, do not count.
-/
namespace Localization.Negotiation

open Number Text

/-- A language range and how much it is wanted. -/
structure Preference where
  range : List Char
  quality : Binary64
  deriving Repr

def fullQuality : Binary64 := .ofInt 1

def qualityOf (parameters : List Char) : Binary64 :=
  match trim parameters with
  | 'q' :: '=' :: text => (Binary64.ofText? text).getD fullQuality
  | _ => fullQuality

def Preference.ofPart? (part : List Char) : Option Preference :=
  let (range, parameters) := (cutAt? ';' part).getD (part, [])
  let range := trim range
  if range.isEmpty || range == ['*'] then none else some ⟨range, qualityOf parameters⟩

def preferencesIn (header : List Char) : List Preference :=
  if header.isEmpty then [] else (splitAt ',' header).filterMap Preference.ofPart?

def preferences (header : List Char) : List Preference :=
  ranked (fun p q => p.quality.lt q.quality) (preferencesIn header)

end Localization.Negotiation
