import Localization.Store.Report

/-! # Running a store

Jobs run in the order in which they were queued. A store settles when its queue is empty;
only a release, a cancellation or a new call makes it go on.
-/
namespace Localization.Store.State

/-- Runs the first job of the queue. -/
def tick (s : State) : Traced State :=
  match s.ready with
  | [] => pure s
  | job :: rest => do
    let s := { s with ready := rest }
    s.report job
    pure (s.perform job)

def settleWithin : Nat → State → Traced State
  | 0, s => pure s
  | fuel + 1, s =>
    if s.ready.isEmpty then pure s
    else do
      let s ← s.tick
      settleWithin fuel s

/-- Runs the queue until it is empty. Beside the jobs in it, each call makes at most one
load, is handed one outcome and is woken once. -/
def settle (s : State) : Traced State := settleWithin (s.ready.length + 3 * s.calls.length) s

def normalizeAll : Table Value → Attempt (Table Entries)
  | [] => pure []
  | (locale, fragment) :: rest => do
    let messages ← Catalog.normalizeLogged fragment
    let others ← normalizeAll rest
    pure ((locale, messages) :: others)

/-- A new store. -/
def ofCatalogs (catalogs : Table Value) (sources : Table Source)
    (additions : Table (Table Source)) (locale fallback : String) (debug : Bool)
    (handler : Option Translation.MissingHandler) : Attempt State := do
  let catalogs ← normalizeAll catalogs
  pure ⟨sources, additions, fallback, debug, handler, catalogs, locale, [], 0, [], [], [], [], [], []⟩

def translate [Locale.Data] [Stack] (s : State) (key : String) (params : Option Entries) :
    Attempt String :=
  Translation.translate s.locale s.fallback
    (s.catalogs.map fun (locale, messages) => (locale, .map messages)) key params s.handler s.debug

def loadingLocales (s : State) : List String := s.catalogLoads.keys

def isLoadingNamespace (s : State) : Bool := !s.additionLoads.isEmpty

end Localization.Store.State
