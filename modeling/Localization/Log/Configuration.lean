import Localization.Failure
import Localization.Json.Writer
import Localization.Log.Basic
import Localization.Settings.Application
import Localization.Text.Casing
import Localization.Text.Split

/-! # Configuration of logging

Entries below the root level are not written. In production they are written as JSON and
otherwise for a terminal; under test nothing is written. A level is named in any case, and
a name that is not known means `INFO`.

A line of JSON has the level among the fields: in the place of a field of that name, or else
at the end. Long texts are cut first.
-/
namespace Localization.Log

open Text

inductive Renderer where
  | json
  | console
  | silenced
  deriving DecidableEq, Repr

def Renderer.name : Renderer → String
  | json => "json"
  | console => "console"
  | silenced => "silenced"

structure Configuration where
  rootLevel : Nat
  renderer : Renderer
  deriving DecidableEq, Repr

def levels : Table Nat :=
  [("CRITICAL", 50), ("FATAL", 50), ("ERROR", 40), ("WARNING", 30), ("WARN", 30), ("INFO", 20),
    ("DEBUG", 10), ("NOTSET", 0)]

def infoLevel : Nat := 20

def silentLevel : Nat := 51

def plainLayout : String := "%(levelname)s:%(name)s:%(message)s"

/-- The rank of a level. Two names belong to layouts of lines and cannot be levels. -/
def rankOf (name : String) : Except Failure Nat :=
  match levels.get? name with
  | some rank => .ok rank
  | none =>
    if name = "BASIC_FORMAT" then .error (.unknownLevel plainLayout)
    else if name = "_STYLES" then .error .levelKind
    else .ok infoLevel

/-- The configuration for an application. A level and a choice of renderer that are given
go before those of the application; an empty level is not given. -/
def configure (app : Settings.Application) (testing : Bool) (level : Option String)
    (production : Option Bool) : Except Failure Configuration :=
  if testing then .ok ⟨silentLevel, .silenced⟩
  else do
    let name := match level with
      | none | some "" => app.logLevel
      | some name => name
    let rank ← rankOf (upperString name)
    pure ⟨rank, if production.getD app.isProduction then .json else .console⟩

def componentOf (name : String) : String :=
  if name.isEmpty then "unknown" else (splitString '.' name).getLast?.getD ""

def levelOf (method : String) : String :=
  if method = "warn" then "warning" else if method = "exception" then "error" else method

/-- Cuts every text among the fields. -/
def cutFields (limit : Int) (fields : Entries) : Entries :=
  fields.map fun (key, value) => (key, cutValue limit value)

def line (method : String) (fields : Entries) : Except Failure String :=
  let fields := Entries.put fields (.text "level") (.text (levelOf method))
  match Json.write? (.map (cutFields maxTextLength fields)) with
  | some text => .ok text
  | none => .error .fieldName

end Localization.Log
