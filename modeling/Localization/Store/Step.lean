import Localization.Store.State

/-! # Steps of a store

A job runs at once and changes the state. A call that needs a catalog joins the load that is
in flight for it, or creates one. A load that ends changes the catalogs, leaves the loads in
flight and hands its outcome to the calls that wait for it. A locale becomes active only if
no later request for a locale has begun.
-/
namespace Localization.Store.State

def conclude (s : State) (call : Nat) (outcome : Except Failure Reply) : State :=
  s.setPhase call (.ended outcome)

/-- Makes a locale active unless a later request has begun. -/
def switch (s : State) (call number : Nat) (locale : String) : State :=
  if number = s.requests then
    let s := { s with locale }
    s.conclude call (.ok (.changed true))
  else s.conclude call (.ok (.changed false))

def createLoad (s : State) (target : Target) : State :=
  let load := s.loads.length
  let s := { s.enter target load with loads := s.loads ++ [Load.mk target .created] }
  s.enqueue [.run load]

def join (s : State) (call number : Nat) (target : Target) : State :=
  match s.inFlight? target with
  | some load => s.setPhase call (.suspended load number)
  | none => (s.createLoad target).setPhase call (.suspended s.loads.length number)

/-- Runs a call up to its first suspension. -/
def begin (s : State) (call : Nat) : Request → State
  | .setLocale locale lazy =>
    let s := { s with requests := s.requests + 1 }
    if s.catalogs.has locale then s.switch call s.requests locale
    else if lazy && s.hasSource (.catalog locale) then s.join call s.requests (.catalog locale)
    else s.conclude call (.ok (.changed false))
  | .loadLocale locale =>
    if s.catalogs.has locale then s.conclude call (.ok .loaded)
    else if s.hasSource (.catalog locale) then s.join call 0 (.catalog locale)
    else s.conclude call (.error (.noLocaleLoader locale))
  | .loadNamespace name requested =>
    let locale := s.localeFor requested
    if s.isMerged locale name || !s.hasSource (.addition locale name) then
      s.conclude call (.ok .loaded)
    else s.join call 0 (.addition locale name)

/-- Ends a call after the load that it waited for. A call for a locale ends without a change
when the load failed. -/
def resume (s : State) (call number : Nat) (request : Request) (wake : Wake) : State :=
  match wake, request with
  | .cancelled, _ => s.conclude call (.error .cancelled)
  | .completed (.ok _), .setLocale locale _ => s.switch call number locale
  | .completed (.error _), .setLocale .. => s.conclude call (.ok (.changed false))
  | .completed (.ok _), _ => s.conclude call (.ok .loaded)
  | .completed (.error failure), _ => s.conclude call (.error failure)

def advance (s : State) (call : Nat) : State :=
  match s.calls[call]? with
  | some ⟨request, .created⟩ => s.begin call request
  | some ⟨request, .waking number wake⟩ => s.resume call number request wake
  | _ => s

def messagesOf : Except String Value → Except Failure Entries
  | .error text => .error (.outside text)
  | .ok fragment => Catalog.normalize fragment

/-- Takes fetched messages into the catalogs. -/
def absorb (s : State) (target : Target) (messages : Entries) : State :=
  match target with
  | .catalog locale => { s with catalogs := s.catalogs.put locale messages }
  | .addition locale name =>
    let old := (s.catalogs.get? locale).getD []
    let s := { s with catalogs := s.catalogs.put locale (Catalog.merge old messages) }
    s.markMerged locale [name]

/-- Takes what a load fetched, if it did not fail. -/
def accept (s : State) (target : Target) : Except Failure Entries → State
  | .ok messages => s.absorb target messages
  | .error _ => s

def complete (s : State) (load : Nat) (target : Target) (answer : Except String Value) : State :=
  let messages := messagesOf answer
  let s := ((s.accept target messages).leave target).setStage load
    (.ended (messages.map fun _ => ()))
  s.enqueue ((s.waiters load).map (Job.deliver load))

def fetch (s : State) (load : Nat) (target : Target) : State :=
  match s.source? target with
  | none => s
  | some source =>
    let answer := source.answer (s.fetches.count target)
    let s := { s with fetches := s.fetches ++ [target] }
    if source.gated then s.setStage load (.held s.requests answer)
    else s.complete load target answer

def run (s : State) (load : Nat) : State :=
  match s.loads[load]? with
  | some ⟨target, .created⟩ => s.fetch load target
  | some ⟨target, .released _ answer⟩ => s.complete load target answer
  | _ => s

def deliver (s : State) (load call : Nat) : State :=
  match s.loads[load]?, s.calls[call]? with
  | some ⟨_, .ended outcome⟩, some ⟨_, .suspended l number⟩ =>
    if l = load then
      (s.setPhase call (.waking number (.completed outcome))).enqueue [.advance call]
    else s
  | _, _ => s

def perform (s : State) : Job → State
  | .advance call => s.advance call
  | .run load => s.run load
  | .deliver load call => s.deliver load call

/-- A caller asks for something. -/
def start (s : State) (request : Request) : State :=
  let call := s.calls.length
  let s := { s with calls := s.calls ++ [Call.mk request .created] }
  s.enqueue [.advance call]

def release (s : State) (load : Nat) : State :=
  match s.loads[load]? with
  | some ⟨_, .held requests answer⟩ =>
    (s.setStage load (.released requests answer)).enqueue [.run load]
  | _ => s

/-- A call is cancelled. The load that it waits for goes on; a call that has ended keeps its
outcome. -/
def cancel (s : State) (call : Nat) : State :=
  match s.calls[call]? with
  | some ⟨_, .created⟩ => s.setPhase call (.waking 0 .cancelled)
  | some ⟨_, .suspended _ number⟩ =>
    (s.setPhase call (.waking number .cancelled)).enqueue [.advance call]
  | some ⟨_, .waking number _⟩ => s.setPhase call (.waking number .cancelled)
  | _ => s

def oldestHeld? (s : State) (key : String) : Option Nat :=
  s.loads.findIdx? fun l => match l.stage with
    | .held .. => l.target.key == key
    | _ => false

end Localization.Store.State
