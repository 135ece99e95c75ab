import Localization.Calendar.Date

/-! # Faults of a document

Most faults make a document malformed. A scalar that carries an explicit standard tag and
is not in the form of that tag is a fault of its own kind.
-/
namespace Localization.Yaml

inductive Fault where
  | malformed
  /-- A text that is no integer in a base. -/
  | integer (base : Nat) (text : String)
  /-- An integer of more digits than are read. -/
  | digits (count : Nat)
  /-- An integer of more digits than are written. -/
  | longInteger
  | real (text : String)
  /-- A power of sixty that is too large for a real. -/
  | realSize
  | emptyNumber
  | boolean
  | timestamp
  /-- A mapping in place of the text of a timestamp. -/
  | timestampKind
  | calendar (fault : Calendar.Fault)
  /-- An escape beyond the last character. -/
  | character
  /-- An escape beyond the characters and beyond thirty-one bits. -/
  | characterSize
  /-- A collection that contains itself. -/
  | recursion
  deriving Repr

end Localization.Yaml
