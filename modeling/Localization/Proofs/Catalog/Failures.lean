import Localization.Proofs.Catalog.Loading
import Localization.Proofs.Catalog.Site
import Localization.Proofs.Yaml.Documents

/-! # How a load fails

A load of a locale ends with its catalog, with the report that the locale has no files, or with the
failure of the first file that cannot be read. Such a failure is foreseen unless the text of the
file holds what few texts hold: a tag, an alias, a wide escape, very many colons, or more openers than
collections may be nested.
-/
namespace Localization

namespace Yaml

/-- Whether a fault is found by a check of the form or of the range of what is read. The others come
up where no check is made: a look-up finds nothing, a place is beyond the end of a text, a size is
beyond what is stored, or there is no end to what is gone through. -/
def Fault.isForeseen : Fault → Bool
  | malformed => true
  | integer _ _ => true
  | digits _ => true
  | longInteger => true
  | real _ => true
  | calendar _ => true
  | character => true
  | _ => false

section

variable [Stack]

/-- A text without tags, aliases and wide escapes that has few colons and is not nested too deeply,
as it cannot be with few openers. -/
structure IsOrdinary (text : List Char) : Prop where
  noTag : '!' ∉ text
  noAlias : '*' ∉ text
  noWide : ¬ ['\\', 'U'] <:+: text
  few : text.count ':' < leastLongColons
  shallow : text.countP isOpener < Stack.documents

theorem IsOrdinary.isForeseen {text : List Char} (plain : IsOrdinary text) {fault : Fault}
    (cause : fault.Cause text) : fault.isForeseen = true := by
  cases fault with
  | emptyNumber => exact absurd cause plain.noTag
  | boolean => exact absurd cause plain.noTag
  | timestamp => exact absurd cause plain.noTag
  | timestampKind => exact absurd cause plain.noTag
  | realSize => exact (cause.elim plain.noTag (Nat.not_le_of_lt plain.few)).elim
  | characterSize => exact absurd cause plain.noWide
  | recursion => exact (cause.elim plain.noAlias (Nat.not_le_of_lt plain.shallow)).elim
  | _ => rfl

end

end Yaml

/-- Whether a failure to read a file is foreseen. -/
def Failure.isForeseen : Failure → Bool
  | malformedFile _ => true
  | undecodable _ => true
  | scalar fault => fault.isForeseen
  | _ => false

namespace Catalog

open Text Yaml

section

variable [Stack]

section

variable {text : List Char} {loop : String → Except Fault Value}

mutual

theorem unroll_explained (each : ∀ name, Explained text (loop name)) :
    (v : Value) → Explained text (unroll loop v)
  | .map entries => by
    rw [unroll]
    exact (unrollEntries_explained each entries).bind fun _ => explained_pure _
  | .tuple items => by
    rw [unroll.eq_def]
    split
    · next same => cases same
    · exact each _
    · exact trivial
  | .null | .bool _ | .int _ | .float _ | .decimal _ | .text _ | .octets _ | .date _ | .moment _
  | .list _ => trivial

theorem unrollEntries_explained (each : ∀ name, Explained text (loop name)) :
    (entries : Entries) → Explained text (unrollEntries loop entries)
  | [] => trivial
  | entry :: rest => by
    rw [unrollEntries]
    refine (unrollEntry_explained each entry).bind fun _ => ?_
    exact (unrollEntries_explained each rest).bind fun _ => explained_pure _

theorem unrollEntry_explained (each : ∀ name, Explained text (loop name)) :
    (entry : Value × Value) → Explained text (unrollEntry loop entry)
  | (key, value) => by
    rw [unrollEntry]
    cases key.isLongInteger with
    | true => exact trivial
    | false =>
      cases isUnsafeKey key with
      | true => exact trivial
      | false => exact (unroll_explained each value).bind fun _ => explained_pure _

end

end

/-- A file that fails to be read is not in UTF-8, malformed, or has a fault with a cause in its
text. -/
inductive FailsBy (octets : List UInt8) : Failure → Prop
  | octets {fault : Utf8.Fault} (undecoded : Utf8.decode octets = .error fault) :
      FailsBy octets (.undecodable fault)
  | form {text : List Char} (decoded : Utf8.decode octets = .ok text) (path : String) :
      FailsBy octets (.malformedFile path)
  | fault {text : List Char} (decoded : Utf8.decode octets = .ok text) {fault : Fault}
      (cause : fault.Cause text) : FailsBy octets (.scalar fault)

theorem FailsBy.isForeseen {octets : List UInt8} {failure : Failure} (h : FailsBy octets failure)
    (plain : ∀ text, Utf8.decode octets = .ok text → IsOrdinary text) :
    failure.isForeseen = true := by
  cases h with
  | octets undecoded => rfl
  | form decoded path => rfl
  | fault decoded cause => exact (plain _ decoded).isForeseen cause

def octetsOf (files : Files) (name : String) : List UInt8 := (files.get? name).getD []

section

variable {folder : String} {files : Files} {locale : String}

end

end

end Catalog

end Localization
