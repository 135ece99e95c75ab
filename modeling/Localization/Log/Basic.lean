import Localization.Value.Basic

/-! # Log entries

Every noteworthy step leaves an entry: how grave it is, the component that wrote it, the
name of the event and fields in order. A text field that is longer than a limit is cut
before it is written, and says how long it was.
-/
namespace Localization.Log

inductive Level where
  | debug
  | info
  | warning
  | error
  deriving DecidableEq, Repr

def Level.name : Level → String
  | debug => "debug"
  | info => "info"
  | warning => "warning"
  | error => "error"

structure Entry where
  level : Level
  component : String
  event : String
  fields : List (String × Value)

def maxTextLength : Int := 200

/-- The first characters of a text; a negative length counts from the end. -/
def takeLength (length : Int) (cs : List Char) : List Char :=
  if 0 ≤ length then cs.take length.toNat else cs.take (cs.length - length.natAbs)

def cutText (limit : Int) (s : String) : String :=
  if limit < s.length then
    String.ofList (takeLength limit s.toList) ++ "...[truncated, " ++ toString s.length ++
      " chars total]"
  else s

def cutValue (limit : Int) : Value → Value
  | .text s => .text (cutText limit s)
  | other => other

def Entry.cut (entry : Entry) : Entry :=
  { entry with fields := entry.fields.map fun (name, value) => (name, cutValue maxTextLength value) }

end Localization.Log
