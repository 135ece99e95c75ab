import Localization.Catalog.Merge
import Localization.Locale.Code
import Localization.Text.Table
import Localization.Text.Utf8
import Localization.Yaml.Document

/-! # Folders of catalog files

A folder holds files by name. A file whose name ends in `.yml` belongs to the locale that
the last part of its name before that ending spells. The catalog of a locale is merged from
its files in the order of their names; empty files and those that hold no mapping add
nothing.
-/
namespace Localization.Catalog

open Text

abbrev Files := Table (List UInt8)

structure Folder where
  path : String
  files : Option Files

def extension : List Char := ".yml".toList

/-- The name of a file without its ending; a name that is all ending is kept. -/
def stem (name : List Char) : List Char :=
  if name.length ≤ extension.length then name else name.take (name.length - extension.length)

def localeOfFile? (name : String) : Option String :=
  let cs := name.toList
  if extension.isSuffixOf cs then
    let code := ((splitAt '.' (stem cs)).getLast?).getD []
    if Locale.isAccepted code then some (String.ofList code) else none
  else none

/-- Puts a text among texts in ascending order. -/
def insertSorted (s : String) : List String → List String
  | [] => [s]
  | t :: rest => if t < s then t :: insertSorted s rest else s :: t :: rest

def sortTexts (texts : List String) : List String := texts.foldr insertSorted []

def filesOf (files : Files) (locale : String) : List String :=
  sortTexts (files.keys.filter fun name => localeOfFile? name == some locale)

/-- The locales of a folder, each once, in ascending order. -/
def localesOf (files : Files) : List String :=
  let found := files.keys.filterMap localeOfFile?
  sortTexts (found.foldl (fun seen l => if seen.contains l then seen else l :: seen) [])

def pathIn (folder name : String) : String := folder ++ "/" ++ name

mutual

/-- A value as merging finds it. Where merging comes to the mark of an anchor it finds what
`loop` has for the name, and it writes the keys that it comes to. -/
def unroll (loop : String → Except Yaml.Fault Value) : Value → Except Yaml.Fault Value
  | .map entries => do return .map (← unrollEntries loop entries)
  | .tuple [.text name] => loop name
  | other => .ok other

def unrollEntries (loop : String → Except Yaml.Fault Value) : Entries → Except Yaml.Fault Entries
  | [] => .ok []
  | entry :: rest => do
    let first ← unrollEntry loop entry
    let others ← unrollEntries loop rest
    pure (first :: others)

def unrollEntry (loop : String → Except Yaml.Fault Value) :
    Value × Value → Except Yaml.Fault (Value × Value)
  | (key, value) =>
    if key.isLongInteger then .error .longInteger
    else if isUnsafeKey key then .ok (key, value)
    else do
      let value ← unroll loop value
      pure (key, value)

end

/-- The value of a marked anchor as merging finds it. On a way through more marks than there are
it has come to one of them again, and merging does not end. -/
def unrollLoop (loops : List (String × Value)) : Nat → String → Except Yaml.Fault Value
  | 0, name => if (loops.lookup name).isSome then .error .recursion else .ok .null
  | fuel + 1, name =>
    match loops.lookup name with
    | some v => unroll (unrollLoop loops fuel) v
    | none => .ok .null

def unrollDocument (document : Yaml.Document) : Except Yaml.Fault Value :=
  unroll (unrollLoop document.loops document.loops.length) document.value

variable [Stack]

def readFile (path : String) (octets : List UInt8) : Except Failure Value :=
  match Utf8.decode octets with
  | .error fault => .error (.undecodable fault)
  | .ok text =>
    match (Yaml.read text).bind unrollDocument with
    | .ok v => .ok v
    | .error .malformed => .error (.malformedFile path)
    | .error fault => .error (.scalar fault)

def logLoader (level : Log.Level) (event : String) (fields : List (String × Value)) :
    Traced Unit :=
  Traced.log level "loader" event fields

def readFileLogged (path : String) (octets : List UInt8) : Attempt Value :=
  match readFile path octets with
  | .ok v => pure v
  | .error failure => do
    match failure with
    | .malformedFile _ => liftM (logLoader .error "yaml_parse_error" [("file", .text path)])
    | _ => pure ()
    throw failure

def mergeFile (path : String) (catalog : Entries) (v : Value) : Traced Entries :=
  match v with
  | .null => pure catalog
  | .map entries => mergeLogged catalog entries
  | _ => do
    logLoader .warning "invalid_yaml_format" [("file", .text path), ("expected", .text "mapping")]
    pure catalog

def mergeFiles (folder : String) (files : Files) (catalog : Entries) :
    List String → Attempt Entries
  | [] => pure catalog
  | name :: rest => do
    let path := pathIn folder name
    let v ← readFileLogged path ((files.get? name).getD [])
    let catalog ← liftM (mergeFile path catalog v)
    mergeFiles folder files catalog rest

def readLocale (folder : String) (files : Files) (locale : String) : Attempt Entries := do
  let names := filesOf files locale
  if names.isEmpty then throw (.noFilesFor locale folder)
  let catalog ← mergeFiles folder files [] names
  liftM (logLoader .info "loaded_translations"
    [("locale", .text locale), ("file_count", .int names.length),
      ("key_count", .int catalog.length)])
  pure catalog

end Localization.Catalog
