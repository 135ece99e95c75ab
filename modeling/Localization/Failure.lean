import Localization.Number.Decimal
import Localization.Settings.Issue
import Localization.Text.Utf8
import Localization.Value.Display
import Localization.Yaml.Fault

/-! # Failures

The ways in which an operation can end without a result, each by its cause, and the text
that each shows.
-/
namespace Localization

open Number Text Calendar

inductive Failure where
  | arithmetic (fault : ArithmeticFault)
  /-- A value that has no text. -/
  | unwritten (obstacle : Value.Obstacle)
  /-- A locale joins lists in a way that lacks one of the joints. -/
  | listJoint (name : String)
  /-- A catalog fragment of another kind than a mapping. -/
  | fragmentKind (kind : String)
  | noLocaleLoader (locale : String)
  | noCatalogSource
  | folderMissing (folder : String)
  | noFilesFor (locale folder : String)
  | noFiles (folder : String)
  | malformedFile (path : String)
  | undecodable (fault : Utf8.Fault)
  | scalar (fault : Yaml.Fault)
  | cacheCapacity
  | settings (rejection : Settings.Rejection)
  | unknownLevel (name : String)
  /-- A level that is neither a number nor a name. -/
  | levelKind
  /-- A key that cannot name a field. -/
  | fieldName
  /-- A count that is not a number. -/
  | undefinedCount
  | infiniteCount
  /-- A text of more digits than are read as a whole number. -/
  | digits (count : Nat)
  /-- A failure of a caller's handler, renderer or loader. -/
  | outside (text : String)
  | cancelled
  deriving Repr

def tooManyDigits (count : Nat) : String :=
  "Exceeds the limit (" ++ toString maxWholeDigits ++
    " digits) for integer string conversion: value has " ++ toString count ++
    " digits; use sys.set_int_max_str_digits() to increase the limit"

/-- What is said of a whole number of too many digits for a text. -/
def tooLongInteger : String :=
  "Exceeds the limit (" ++ toString maxWholeDigits ++
    " digits) for integer string conversion; use sys.set_int_max_str_digits() to increase the limit"

def Number.ArithmeticFault.message : ArithmeticFault → String
  | .invalid => "[<class 'decimal.InvalidOperation'>]"
  | .overflow => "[<class 'decimal.Overflow'>]"
  | .digits count => tooManyDigits count

def Value.Obstacle.message : Value.Obstacle → String
  | .digits => tooLongInteger
  | .nesting => "maximum recursion depth exceeded while getting the repr of an object"

def Calendar.Fault.message : Calendar.Fault → String
  | .year n => "year " ++ toString n ++ " is out of range"
  | .month => "month must be in 1..12"
  | .day => "day is out of range for month"
  | .hour => "hour must be in 0..23"
  | .minute => "minute must be in 0..59"
  | .second => "second must be in 0..59"
  | .offset seconds =>
    "offset must be a timedelta strictly between -timedelta(hours=24) and " ++
      "timedelta(hours=24), not " ++ spanText (seconds * 1000000) ++ "."

def Text.Utf8.Reason.message : Utf8.Reason → String
  | .start => "invalid start byte"
  | .continuation => "invalid continuation byte"
  | .truncated => "unexpected end of data"

def Text.Utf8.Fault.message (fault : Utf8.Fault) : String :=
  let subject :=
    if fault.count = 1 then
      "byte 0x" ++ String.ofList (hexDigits 2 fault.octet.toNat) ++ " in position " ++
        toString fault.start
    else
      "bytes in position " ++ toString fault.start ++ "-" ++
        toString (fault.start + fault.count - 1)
  "'utf-8' codec can't decode " ++ subject ++ ": " ++ fault.reason.message

def Yaml.Fault.message : Yaml.Fault → String
  | .integer base text =>
    "invalid literal for int() with base " ++ toString base ++ ": " ++ quoteString text
  | .digits count => tooManyDigits count
  | .longInteger => tooLongInteger
  | .realSize => "int too large to convert to float"
  | .real text => "could not convert string to float: " ++ quoteString text
  | .emptyNumber => "string index out of range"
  | .calendar fault => fault.message
  | .character => "chr() arg not in range(0x110000)"
  | .characterSize => "Python int too large to convert to C int"
  | .malformed => ""
  | .boolean => ""
  | .timestamp => ""
  | .timestampKind => ""
  | .recursion => ""

def Failure.message : Failure → String
  | arithmetic fault => fault.message
  | unwritten obstacle => obstacle.message
  | listJoint name => quoteString name
  | fragmentKind kind => "Catalog fragment must be a mapping, got " ++ kind
  | noLocaleLoader locale => "No loader defined for locale '" ++ locale ++ "'"
  | noCatalogSource => "Translator has no catalog loader"
  | folderMissing folder => "Translations directory not found: " ++ folder
  | noFilesFor locale folder =>
    "No translation files found for locale " ++ locale ++ " in " ++ folder
  | noFiles folder => "No translation files found in " ++ folder
  | malformedFile path => "Failed to parse " ++ path
  | undecodable fault => fault.message
  | scalar fault => fault.message
  | cacheCapacity => "ParseCache capacity must be at least 1"
  | settings rejection => rejection.message
  | unknownLevel name => "Unknown level: " ++ quoteString name
  | levelKind => ""
  | fieldName => ""
  | undefinedCount => "cannot convert NaN to integer"
  | infiniteCount => "cannot convert Infinity to integer"
  | digits count => tooManyDigits count
  | outside text => text
  | cancelled => ""

def Value.shown [Stack] (v : Value) : Except Failure String :=
  match v.obstacle? Stack.values with
  | some obstacle => .error (.unwritten obstacle)
  | none => .ok v.display

end Localization
