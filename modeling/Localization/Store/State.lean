import Localization.Catalog.Merge
import Localization.Text.Table
import Localization.Translation.Translate

/-! # States of a store

A store holds the catalogs of several locales and the locale that is active. Callers ask it
to load catalogs or to change the locale; while a catalog is fetched they are suspended.
Work that can go on stands in a queue, and each piece of it runs from one suspension to the
next at once. Calls and loads are numbered as they come and are never forgotten.
-/
namespace Localization.Store

/-- What a load fetches: the catalog of a locale, or what a namespace adds to it. -/
inductive Target where
  | catalog (locale : String)
  | addition (locale name : String)
  deriving DecidableEq, Repr

/-- The text under which a load is known while it is in flight. -/
def Target.key : Target → String
  | catalog locale => locale
  | addition locale name => locale ++ ":" ++ name

/-- A source answers its calls by their number with a value or the text of an error. A gated
source holds each answer back until it is released. -/
structure Source where
  gated : Bool
  answer : Nat → Except String Value

/-- What a caller asks for. -/
inductive Request where
  | setLocale (locale : String) (lazy : Bool)
  | loadLocale (locale : String)
  | loadNamespace (name : String) (locale : Option String)
  deriving DecidableEq, Repr

/-- What a caller gets: whether the locale changed, or nothing after a load. -/
inductive Reply where
  | changed (b : Bool)
  | loaded
  deriving DecidableEq, Repr

inductive Wake where
  | cancelled
  | completed (outcome : Except Failure Unit)

/-- How far a call has come. A call that changes the locale keeps the number of its
request. -/
inductive Phase where
  | created
  | suspended (load number : Nat)
  | waking (number : Nat) (wake : Wake)
  | ended (outcome : Except Failure Reply)

structure Call where
  request : Request
  phase : Phase

/-- How far a load has come. From the call of its source on, it keeps the number of locale
requests at that time and the answer of the source. -/
inductive Stage where
  | created
  | held (requests : Nat) (answer : Except String Value)
  | released (requests : Nat) (answer : Except String Value)
  | ended (outcome : Except Failure Unit)

structure Load where
  target : Target
  stage : Stage

/-- A piece of work that can run. -/
inductive Job where
  /-- Begin a call or go on with it. -/
  | advance (call : Nat)
  /-- Begin a load or go on with it. -/
  | run (load : Nat)
  /-- Hand the outcome of a load to a call. -/
  | deliver (load call : Nat)
  deriving DecidableEq, Repr

structure State where
  sources : Table Source
  /-- The sources of namespaces, by locale and name. -/
  additions : Table (Table Source)
  fallback : String
  debug : Bool
  handler : Option Translation.MissingHandler
  catalogs : Table Entries
  locale : String
  /-- The namespaces that are part of the catalog of a locale. -/
  merged : Table (List String)
  /-- The number of requests for a locale that have begun. -/
  requests : Nat
  /-- The loads of catalogs in flight, by key. -/
  catalogLoads : Table Nat
  /-- The loads of namespaces in flight, by key. -/
  additionLoads : Table Nat
  calls : List Call
  loads : List Load
  /-- The calls of sources so far. -/
  fetches : List Target
  ready : List Job

namespace State

def localeFor (s : State) (requested : Option String) : String :=
  match requested with
  | none | some "" => s.locale
  | some locale => locale

def isMerged (s : State) (locale name : String) : Bool :=
  ((s.merged.get? locale).getD []).contains name

def source? (s : State) : Target → Option Source
  | .catalog locale => s.sources.get? locale
  | .addition locale name => (s.additions.get? locale).bind fun names => names.get? name

def hasSource (s : State) (target : Target) : Bool := (s.source? target).isSome

def inFlight? (s : State) : Target → Option Nat
  | .catalog locale => s.catalogLoads.get? locale
  | .addition locale name => s.additionLoads.get? (Target.addition locale name).key

def waitsFor (s : State) (load call : Nat) : Bool :=
  match s.calls[call]? with
  | some ⟨_, .suspended l _⟩ => l == load
  | _ => false

def waiters (s : State) (load : Nat) : List Nat :=
  (List.range s.calls.length).filter (s.waitsFor load)

def setPhase (s : State) (call : Nat) (phase : Phase) : State :=
  { s with calls := s.calls.modify call fun c => { c with phase } }

def setStage (s : State) (load : Nat) (stage : Stage) : State :=
  { s with loads := s.loads.modify load fun l => { l with stage } }

def enqueue (s : State) (jobs : List Job) : State := { s with ready := s.ready ++ jobs }

def enter (s : State) (target : Target) (load : Nat) : State :=
  match target with
  | .catalog locale => { s with catalogLoads := s.catalogLoads.put locale load }
  | .addition .. => { s with additionLoads := s.additionLoads.put target.key load }

/-- Removes the load of a target from those in flight. -/
def leave (s : State) (target : Target) : State :=
  match target with
  | .catalog locale => { s with catalogLoads := s.catalogLoads.erase locale }
  | .addition .. => { s with additionLoads := s.additionLoads.erase target.key }

def markMerged (s : State) (locale : String) (names : List String) : State :=
  let known := (s.merged.get? locale).getD []
  { s with merged := s.merged.put locale (known ++ names.filter fun n => !known.contains n) }

end State

end Localization.Store
