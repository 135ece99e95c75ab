import Localization.Catalog.Path
import Localization.Trace

/-! # Merging catalogs and fragments

The entries of a second map are put into a first one, a later entry replacing an earlier
one, but maps under one key are merged in turn. Entries under unsafe keys are left out, at
every depth of the second map.

A fragment is a map of messages, or a map whose only key is `default` and holds one. It
becomes part of a catalog without its unsafe keys.
-/
namespace Localization.Catalog

/-- Whether a key of any kind is unsafe as text. An integer has a text here however many digits
it has; a file with such a key is refused when it is read. -/
def isUnsafeKey (key : Value) : Bool := isUnsafe key.display

def entriesOf : Option Value → Entries
  | some (.map entries) => entries
  | _ => []

mutual

def mergeValue (old : Option Value) : Value → Value
  | .map entries => .map (mergeInto (entriesOf old) (entriesOf old) entries)
  | other => other

/-- Puts an entry into `output`. What it is merged with is looked up in `target`, the
entries before merging. -/
def mergeEntry (target output : Entries) : Value × Value → Entries
  | (key, value) =>
    if isUnsafeKey key then output
    else Entries.put output key (mergeValue (Entries.get? target key) value)

def mergeInto (target output : Entries) : Entries → Entries
  | [] => output
  | entry :: rest => mergeInto target (mergeEntry target output entry) rest

end

def merge (target source : Entries) : Entries := mergeInto target target source

mutual

def unsafeKeysOfValue : Value → List String
  | .map entries => unsafeKeysIn entries
  | _ => []

def unsafeKeysOfEntry : Value × Value → List String
  | (key, value) => if isUnsafeKey key then [key.display] else unsafeKeysOfValue value

/-- The unsafe keys that merging leaves out, in the order in which it meets them. -/
def unsafeKeysIn : Entries → List String
  | [] => []
  | entry :: rest => unsafeKeysOfEntry entry ++ unsafeKeysIn rest

end

def logSkipped : List String → Traced Unit
  | [] => pure ()
  | key :: rest => do
    Traced.log .warning "loader" "skipped_unsafe_catalog_key" [("key", .text key)]
    logSkipped rest

/-- Merges two maps and reports the unsafe keys of the second. -/
def mergeLogged (target source : Entries) : Traced Entries := do
  logSkipped (unsafeKeysIn source)
  pure (merge target source)

def defaultKey : Value := .text "default"

/-- The fragment inside a wrapper. -/
def unwrap : Value → Value
  | .map [(key, .map entries)] => if key.sameKey defaultKey then .map entries else .map [(key, .map entries)]
  | other => other

/-- The messages of a fragment without unsafe keys. -/
def normalize (fragment : Value) : Except Failure Entries :=
  match unwrap fragment with
  | .map entries => .ok (merge [] entries)
  | other => .error (.fragmentKind other.kindName)

/-- The messages of a fragment; its unsafe keys are reported. -/
def normalizeLogged (fragment : Value) : Attempt Entries :=
  match unwrap fragment with
  | .map entries => liftM (mergeLogged [] entries)
  | other => throw (.fragmentKind other.kindName)

end Localization.Catalog
