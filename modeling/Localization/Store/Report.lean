import Localization.Store.Step

/-! # What a store reports

Before a job changes the state, it leaves entries about what it is going to do.
-/
namespace Localization.Store.State

def logStore (level : Log.Level) (event : String) (fields : List (String × Value)) :
    Traced Unit :=
  Traced.log level "store" event fields

def reportSwitch (s : State) (number : Nat) (locale : String) : Traced Unit :=
  if number = s.requests then logStore .info "locale_changed" [("locale", .text locale)]
  else logStore .debug "superseded_locale_request" [("locale", .text locale)]

def reportBegin (s : State) : Request → Traced Unit
  | .setLocale locale lazy =>
    if s.catalogs.has locale then logStore .info "locale_changed" [("locale", .text locale)]
    else if lazy && s.hasSource (.catalog locale) then pure ()
    else logStore .warning "locale_not_found" [("locale", .text locale)]
  | .loadLocale _ => pure ()
  | .loadNamespace name requested =>
    let locale := s.localeFor requested
    if s.isMerged locale name || s.hasSource (.addition locale name) then pure ()
    else
      logStore .warning "namespace_loader_missing"
        [("namespace", .text name), ("locale", .text locale)]

def reportResume (s : State) (number : Nat) : Request → Wake → Traced Unit
  | .setLocale locale _, .completed (.ok _) => s.reportSwitch number locale
  | .setLocale locale _, .completed (.error failure) =>
    logStore .error "locale_switch_failed"
      [("locale", .text locale), ("error", .text failure.message)]
  | _, _ => pure ()

/-- The unsafe keys of an answer that are left out. -/
def reportAnswer : Except String Value → Traced Unit
  | .ok fragment => do
    let _ ← (Catalog.normalizeLogged fragment).run
    pure ()
  | .error _ => pure ()

/-- The end of a load whose source was called after `requests` requests for a locale. -/
def reportComplete (s : State) (target : Target) (requests : Nat) (answer : Except String Value) :
    Traced Unit := do
  reportAnswer answer
  match target, messagesOf answer with
  | .catalog locale, .ok _ => logStore .info "loaded_locale" [("locale", .text locale)]
  | .catalog locale, .error failure =>
    logStore .error "locale_load_failed"
      [("locale", .text locale), ("error", .text failure.message)]
  | .addition locale name, .ok _ =>
    logStore .info "loaded_namespace" [("namespace", .text name), ("locale", .text locale)]
  | .addition locale name, .error failure =>
    logStore .error "namespace_load_failed"
      [("namespace", .text name), ("locale", .text locale), ("error", .text failure.message)]
  match target with
  | .catalog locale =>
    if requests = s.requests then pure ()
    else logStore .debug "stale_locale_load_completed" [("locale", .text locale)]
  | .addition .. => pure ()

def reportRun (s : State) (load : Nat) : Traced Unit :=
  match s.loads[load]? with
  | some ⟨target, .created⟩ =>
    match s.source? target with
    | some ⟨false, answer⟩ => s.reportComplete target s.requests (answer (s.fetches.count target))
    | _ => pure ()
  | some ⟨target, .released requests answer⟩ => s.reportComplete target requests answer
  | _ => pure ()

def report (s : State) : Job → Traced Unit
  | .advance call =>
    match s.calls[call]? with
    | some ⟨request, .created⟩ => s.reportBegin request
    | some ⟨request, .waking number wake⟩ => s.reportResume number request wake
    | _ => pure ()
  | .run load => s.reportRun load
  | .deliver .. => pure ()

end Localization.Store.State
