/-! # Issues with settings

Settings are taken only when every field is sound. Each field that is not has one issue,
with the place of the offending value and what is wrong with it.
-/
namespace Localization.Settings

/-- What is wrong with a value. -/
inductive Cause where
  /-- A rule of the field is broken. -/
  | rule (text : String)
  | notText
  | notList
  | notSwitch
  | unclearSwitch
  | notWhole
  | unclearWhole
  | fractional
  | notFinite
  | tooLong
  | notSettings
  deriving DecidableEq, Repr

def Cause.name : Cause → String
  | rule _ => "value_error"
  | notText => "string_type"
  | notList => "list_type"
  | notSwitch => "bool_type"
  | unclearSwitch => "bool_parsing"
  | notWhole => "int_type"
  | unclearWhole => "int_parsing"
  | fractional => "int_from_float"
  | notFinite => "finite_number"
  | tooLong => "int_parsing_size"
  | notSettings => "model_type"

def Cause.message : Cause → String
  | rule text => "Value error, " ++ text
  | notText => "Input should be a valid string"
  | notList => "Input should be a valid list"
  | notSwitch => "Input should be a valid boolean"
  | unclearSwitch => "Input should be a valid boolean, unable to interpret input"
  | notWhole => "Input should be a valid integer"
  | unclearWhole => "Input should be a valid integer, unable to parse string as an integer"
  | fractional => "Input should be a valid integer, got a number with a fractional part"
  | notFinite => "Input should be a finite number"
  | tooLong => "Unable to parse input string as an integer, exceeded maximum size"
  | notSettings => "Input should be a valid dictionary or instance of I18nSettings"

/-- The location of a value: its key and, within a list, its index. The issue of the fields
together has no location. -/
structure Issue where
  location : List String
  cause : Cause
  deriving DecidableEq, Repr

def Issue.text (issue : Issue) : String :=
  String.intercalate "." issue.location ++ "|" ++ issue.cause.name ++ "|" ++ issue.cause.message

/-- The issue of a value that is itself part of a value. -/
def Issue.within (key : String) (issue : Issue) : Issue :=
  { issue with location := key :: issue.location }

/-- Why settings are refused. -/
inductive Rejection where
  | invalid (issues : List Issue)
  /-- A variable of the environment that cannot be read as JSON. -/
  | unreadable (field : String)
  deriving DecidableEq, Repr

def Rejection.message : Rejection → String
  | invalid issues => String.intercalate "; " (issues.map Issue.text)
  | unreadable field =>
    "error parsing value for field \"" ++ field ++ "\" from source \"EnvSettingsSource\""

end Localization.Settings
