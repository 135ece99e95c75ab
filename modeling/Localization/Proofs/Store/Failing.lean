import Localization.Proofs.Store.Delivery

/-! # Loads that fail

A load fails when its source raises a failure or gives something that is no map. Then nothing is
brought in, the load leaves its place, and each call that waits for it is refused. The place is
free for a load that is created later.
-/
namespace Localization.Store

def Request.refusal (failure : Failure) : Request → Except Failure Reply
  | setLocale .. => .ok (.changed false)
  | _ => .error failure

namespace State

inductive Faulty : Except String Value → Failure → Prop
  | raised (text : String) : Faulty (.error text) (.outside text)
  | unfit (fragment : Value) (noMap : ∀ entries, fragment ≠ .map entries) :
      Faulty (.ok fragment) (.fragmentKind fragment.kindName)

/-- What a load that has failed leaves. -/
structure LeavesNoTrace (s t : State) (load : Nat) (target : Target) (failure : Failure) : Prop where
  catalogs : t.catalogs = s.catalogs
  locale : t.locale = s.locale
  merged : t.merged = s.merged
  requests : t.requests = s.requests
  calls : t.calls = s.calls
  loads : t.loads = (s.setStage load (.ended (.error failure))).loads
  inFlight : ∀ other, t.inFlight? other =
    if other.entry = target.entry then none else s.inFlight? other

/-- A call whose load has failed is refused, and it does not change the active locale. -/
structure Refused (s : State) (call : Nat) (request : Request) (failure : Failure) : Prop where
  reply (outcome : Except Failure Reply) : s.calls[call]? = some ⟨request, .ended outcome⟩ →
    outcome = request.refusal failure
  told : s.settle.value.calls[call]? = some ⟨request, .ended (request.refusal failure)⟩
  quiet (e : Event) : e.call? = some call → (s.handle e).locale = s.locale

theorem exists_unwrap_map (entries : Entries) :
    ∃ inner, Catalog.unwrap (.map entries) = .map inner := by
  unfold Catalog.unwrap
  split
  · next key inner same =>
    split
    · exact ⟨inner, rfl⟩
    · exact ⟨_, rfl⟩
  · exact ⟨entries, rfl⟩

theorem normalize_of_noMap {fragment : Value} (noMap : ∀ entries, fragment ≠ .map entries) :
    Catalog.normalize fragment = .error (.fragmentKind fragment.kindName) := by
  unfold Catalog.normalize
  cases fragment with
  | map entries => exact absurd rfl (noMap entries)
  | _ => rfl

theorem faulty_iff {answer : Except String Value} {failure : Failure} :
    Faulty answer failure ↔ messagesOf answer = .error failure := by
  constructor
  · intro faulty
    cases faulty with
    | raised text => rfl
    | unfit fragment noMap => exact normalize_of_noMap noMap
  · intro failed
    cases answer with
    | error text =>
      cases failed
      exact .raised text
    | ok fragment =>
      have noMap : ∀ entries, fragment ≠ .map entries := by
        rintro entries rfl
        obtain ⟨inner, same⟩ := exists_unwrap_map entries
        rw [messagesOf, Catalog.normalize, same] at failed
        cases failed
      have same := normalize_of_noMap noMap
      cases failed.symm.trans same
      exact .unfit fragment noMap

theorem leavesNoTrace {s : State} {e : Event} {load : Nat} {target : Target}
    {answer : Except String Value} {failure : Failure}
    (ends : s.ends? e = some (load, target, answer)) (failed : messagesOf answer = .error failure) :
    LeavesNoTrace s (s.handle e) load target failure := by
  obtain ⟨before, fetches, here, wasOpen, handled⟩ := handle_of_ends? ends
  rw [handled, complete, failed]
  refine ⟨?_, ?_, ?_, ?_, ?_, ?_, ?_⟩
  · cases target <;> rfl
  · cases target <;> rfl
  · cases target <;> rfl
  · cases target <;> rfl
  · cases target <;> rfl
  · cases target <;> rfl
  · intro other
    have left := inFlight?_leave { s with ready := s.ready.erase (.run load), fetches } target other
    have same : State.inFlight? { s with ready := s.ready.erase (.run load), fetches } other =
        s.inFlight? other := by
      cases other <;> rfl
    rw [same] at left
    rw [← left]
    cases other <;> rfl

theorem Receives.refusal {request : Request} {failure : Failure} {outcome : Except Failure Reply}
    (h : Receives request (.error failure) outcome) : outcome = request.refusal failure := by
  cases h with
  | unchanged => rfl
  | replied _ _ only =>
    cases request with
    | setLocale locale lazy => exact absurd rfl (only locale lazy)
    | loadLocale | loadNamespace => rfl

theorem Attends.refusal {s : State} {call load : Nat} {request sort : Request} {target : Target}
    {failure : Failure} {outcome : Except Failure Reply} (h : s.Attends call load request target)
    (failed : s.loads[load]? = some ⟨target, .ended (.error failure)⟩)
    (here : s.calls[call]? = some ⟨sort, .ended outcome⟩) : outcome = sort.refusal failure := by
  have asked : sort = request := by
    obtain ⟨stage, phase, -, found, -⟩ := h
    cases here.symm.trans found
    rfl
  subst asked
  obtain ⟨result, done, receives⟩ := h.receives here
  cases failed.symm.trans done
  exact receives.refusal

theorem Attends.handle_locale {s : State} {call load : Nat} {request : Request} {target : Target}
    {failure : Failure} (h : s.Attends call load request target)
    (failed : s.loads[load]? = some ⟨target, .ended (.error failure)⟩) {e : Event}
    (about : e.call? = some call) : (s.handle e).locale = s.locale := by
  by_cases same : (s.handle e).locale = s.locale
  · exact same
  · exfalso
    obtain ⟨other, before, lazy, there⟩ := State.handle_locale same
    by_cases mine : other = call
    · subst mine
      rcases h.handle e with attends | ⟨-, c, now, dropped⟩
      · cases attends.refusal (handle_ended failed e) there
      · cases there.symm.trans now
        cases dropped
    · rcases call_before there with new | ⟨phase, here⟩
      · cases new
      · have apart : e.call? ≠ some other := by
          rw [about]
          exact fun same => mine (Option.some.inj same).symm
        have kept := handle_calls_of_ne here apart
        cases there.symm.trans kept
        exact before ⟨lazy, here⟩

theorem Orderly.refused {s : State} (h : s.Orderly) {call load : Nat} {request : Request}
    {target : Target} {failure : Failure} (attends : s.Attends call load request target)
    (failed : s.loads[load]? = some ⟨target, .ended (.error failure)⟩) :
    s.Refused call request failure where
  reply outcome here := attends.refusal failed here
  told := by
    obtain ⟨outcome, ended, receives⟩ := h.replied attends failed
    rwa [← receives.refusal]
  quiet e about := attends.handle_locale failed about

theorem length_loads_le (s : State) (e : Event) : s.loads.length ≤ (s.handle e).loads.length := by
  by_cases le : s.loads.length ≤ (s.handle e).loads.length
  · exact le
  · have inside : (s.handle e).loads.length < s.loads.length := Nat.lt_of_not_le le
    obtain ⟨stage, there⟩ := handle_target (List.getElem?_eq_getElem inside) e
    have bound := (List.getElem?_eq_some_iff.mp there).1
    omega

theorem IsOpen.before {s : State} {e : Event} {load : Nat} {target : Target}
    (h : (s.handle e).IsOpen load target) : s.IsOpen load target ∨ s.loads.length ≤ load := by
  obtain ⟨stage, there, isOpen⟩ := h
  cases here : s.loads[load]? with
  | none => exact .inr (List.getElem?_eq_none_iff.mp here)
  | some l =>
    obtain ⟨sort, before⟩ := l
    obtain ⟨after, now⟩ := handle_target here e
    cases there.symm.trans now
    cases before with
    | ended result =>
      cases there.symm.trans (handle_ended here e)
      cases isOpen
    | created | held | released => exact .inl ⟨_, here, rfl⟩

theorem newer_of_free {s : State} (h : s.Tracked) {target : Target}
    (free : s.inFlight? target = none) (later : List Event) {load : Nat} {sort : Target}
    (isOpen : (s.after later).IsOpen load sort) (entry : sort.entry = target.entry) :
    s.loads.length ≤ load := by
  have first : ∀ load sort, s.IsOpen load sort → sort.entry = target.entry →
      s.loads.length ≤ load := by
    intro load sort isOpen entry
    have flight := h.inFlight?_of_isOpen isOpen
    rw [s.inFlight?_congr entry, free] at flight
    cases flight
  have all := after_induction (P := fun t => s.loads.length ≤ t.loads.length ∧
    ∀ load sort, t.IsOpen load sort → sort.entry = target.entry → s.loads.length ≤ load)
    (s := s) (fun t e kept => ?_) ⟨Nat.le_refl _, first⟩ later
  · exact all.2 load sort isOpen entry
  · refine ⟨Nat.le_trans kept.1 (length_loads_le t e), fun load sort isOpen entry => ?_⟩
    rcases isOpen.before with before | new
    · exact kept.2 load sort before entry
    · exact Nat.le_trans kept.1 new

theorem wants_iff {s : State} {target : Target} :
    s.wants target = true ↔ s.present target = false ∧ s.hasSource target = true := by
  cases target <;> simp [wants, present]

theorem Orderly.creates {s : State} (h : s.Orderly) {call load : Nat} {request : Request}
    {target sort : Target} (begins : Begins s (s.handle (.perform (.advance call))) call request
      target load sort) (free : s.inFlight? target = none) :
    .run load ∈ (s.handle (.perform (.advance call))).ready ∧
      ((s.handle (.perform (.advance call))).handle (.perform (.run load))).fetches =
        s.fetches ++ [target] := by
  have next := h.handle (.perform (.advance call))
  rcases begins.source with ⟨flight, -⟩ | ⟨-, rfl, rfl, loads⟩
  · rw [free] at flight
    cases flight
  · have new : (s.handle (.perform (.advance call))).loads[s.loads.length]? =
        some ⟨sort, .created⟩ := by
      rw [loads]
      exact List.getElem?_concat_length
    obtain ⟨queued, called⟩ := next.scheduled.begun new
    exact ⟨queued, called.trans (by rw [begins.fetches])⟩

/-- A load that fails brings nothing in and is not in flight any more. The calls that wait for it are
refused with its failure, and a later call waits for a load that has been created since. -/
theorem failed_load_leaves_no_trace {s : State} (new : s.IsNew) (events : List Event) {e : Event}
    {load : Nat} {target : Target} {answer : Except String Value} {failure : Failure}
    (ends : (s.after events).ends? e = some (load, target, answer))
    (faulty : Faulty answer failure) :
    LeavesNoTrace (s.after events) ((s.after events).handle e) load target failure ∧
      (∀ (call : Nat) (request : Request) (number : Nat),
        (s.after events).calls[call]? = some ⟨request, .suspended load number⟩ →
        ∀ later, .cancel call ∉ later →
          (((s.after events).handle e).after later).Refused call request failure) ∧
      ∀ (later : List Event) (call : Nat) (request : Request) (t : State),
        ((s.after events).handle e).after later = t →
        t.calls[call]? = some ⟨request, .created⟩ → t.demand? request = some target →
        t.present target = false →
        ∃ fresh sort,
          Begins t (t.handle (.perform (.advance call))) call request target fresh sort ∧
          ((s.after events).handle e).loads.length ≤ fresh ∧
          (t.inFlight? target = none →
            .run fresh ∈ (t.handle (.perform (.advance call))).ready ∧
              ((t.handle (.perform (.advance call))).handle (.perform (.run fresh))).fetches =
                t.fetches ++ [target]) ∧
          (t.Unrivalled target → sort = target) ∧
          ((∃ locale, target = .catalog locale) ∨ s.PlainLocales → t.Unrivalled target) := by
  have failed := faulty_iff.mp faulty
  have trace := leavesNoTrace ends failed
  obtain ⟨before, -, here, wasOpen, -⟩ := handle_of_ends? ends
  have orderly := new.orderly events
  have next := orderly.handle e
  have ended : ((s.after events).handle e).loads[load]? =
      some ⟨target, .ended (.error failure)⟩ := setStage_self here trace.loads
  have source : s.hasSource target = true := by
    have known := orderly.scheduled.sources load _ here
    rwa [hasSource_after] at known
  refine ⟨trace, ?_, ?_⟩
  · intro call request number waits later kept
    have attends : ((s.after events).handle e).Attends call load request target := by
      have same : ((s.after events).handle e).calls[call]? = _ := trace.calls ▸ waits
      exact ⟨_, _, ended, same, .waits _ number⟩
    rcases attends.after later with attends | ⟨cancelled, -⟩
    · exact (next.after later).refused attends (after_ended ended later)
    · exact absurd cancelled kept
  · rintro later call request t rfl created demand absent
    have history : ((s.after events).handle e).after later = s.after (events ++ e :: later) := by
      rw [after_append, after_cons]
    have there := next.after later
    have loadable : (((s.after events).handle e).after later).hasSource target = true := by
      rw [history, hasSource_after, source]
    obtain ⟨fresh, sort, begins⟩ := there.begins created demand (wants_iff.mpr ⟨absent, loadable⟩)
    refine ⟨fresh, sort, begins, ?_, there.creates begins, begins.sort_eq, ?_⟩
    · have free : ((s.after events).handle e).inFlight? target = none := by
        rw [trace.inFlight, if_pos rfl]
      exact newer_of_free next.tracked free (later ++ [.perform (.advance call)])
        (by rw [after_append]; exact begins.waits.isOpen) begins.entry
    · rintro (⟨locale, rfl⟩ | plain)
      · exact fun _ other _ entry => Target.eq_of_entry entry
      · cases target with
        | catalog locale => exact fun _ other _ entry => Target.eq_of_entry entry
        | addition locale name =>
          rw [history]
          exact plain.unrivalled new _ source

/-- A call for a locale and a request for it wait for one load, which is about to end. -/
def twoWait : List Event :=
  [.start (.loadLocale "de"), .start (.setLocale "de" true), .perform (.advance 0),
    .perform (.advance 1), .perform (.run 0), .release 0]

/-- Both calls are refused, and a third one creates a load of its own. -/
theorem twoWait_refused :
    failingFirst.IsNew ∧
      (failingFirst.after twoWait).ends? (.perform (.run 0)) =
        some (0, .catalog "de", .error "offline") ∧
      Faulty (.error "offline") (.outside "offline") ∧
      (((failingFirst.after twoWait).handle (.perform (.run 0))).after []).settle.value.calls[0]? =
        some ⟨.loadLocale "de", .ended (.error (.outside "offline"))⟩ ∧
      (((failingFirst.after twoWait).handle (.perform (.run 0))).after []).settle.value.calls[1]? =
        some ⟨.setLocale "de" true, .ended (.ok (.changed false))⟩ ∧
      .run 1 ∈ ((((failingFirst.after twoWait).handle (.perform (.run 0))).after
        [.start (.loadLocale "de")]).handle (.perform (.advance 2))).ready := by
  have ends : (failingFirst.after twoWait).ends? (.perform (.run 0)) =
      some (0, .catalog "de", .error "offline") := rfl
  have faulty : Faulty (.error "offline") (.outside "offline") := .raised "offline"
  obtain ⟨-, refused, restarts⟩ := failed_load_leaves_no_trace failingFirst_isNew twoWait ends faulty
  have first := refused 0 (.loadLocale "de") 0 rfl [] (by simp)
  have second := refused 1 (.setLocale "de" true) 1 rfl [] (by simp)
  obtain ⟨fresh, sort, begins, -, creates, -⟩ := restarts [.start (.loadLocale "de")] 2
    (.loadLocale "de") _ rfl rfl rfl rfl
  have new : fresh = 1 := by
    rcases begins.source with ⟨flight, -⟩ | ⟨-, -, new, -⟩
    · cases flight
    · exact new
  subst new
  exact ⟨failingFirst_isNew, ends, faulty, first.told, second.told, (creates rfl).1⟩

/-- Two pairs with one key. The source of the first one is held back, that of the second one fails
when it is called for the first time. -/
def oneKeyFailing : State :=
  ⟨[], [("en", [("shop:cart", ⟨true, fun _ => .ok (.map [(.text "total", .text "Total")])⟩)]),
      ("en:shop", [("cart", ⟨false, fun call => if call = 0 then .error "offline" else
        .ok (titleEntry "Cart")⟩)])],
    "en", false, none, [("en", [])], "en", [], 0, [], [], [], [], [], []⟩

/-- A load fails, the load of the other pair begins, and the first pair is asked for again. -/
def askedAgain : List Event :=
  [.start (.loadNamespace "cart" (some "en:shop")), .perform (.advance 0), .perform (.run 0),
    .perform (.deliver 0 0), .perform (.advance 0), .start (.loadNamespace "shop:cart" (some "en")),
    .perform (.advance 1), .perform (.run 1), .start (.loadNamespace "cart" (some "en:shop")),
    .perform (.advance 2)]

/-- The second call for the pair waits for the load of the other pair. It ends well with that one,
and the source of its own pair has been called only for the load that failed. -/
theorem failed_namespace_not_retried :
    let s := oneKeyFailing.after askedAgain
    let t := s.after [.release 1, .perform (.run 1), .perform (.deliver 1 1),
      .perform (.deliver 1 2), .perform (.advance 1), .perform (.advance 2)]
    oneKeyFailing.IsNew ∧
      s.calls[0]? = some ⟨.loadNamespace "cart" (some "en:shop"),
        .ended (.error (.outside "offline"))⟩ ∧
      s.calls[2]? = some ⟨.loadNamespace "cart" (some "en:shop"), .suspended 1 0⟩ ∧
      s.loads.map Load.target = [.addition "en:shop" "cart", .addition "en" "shop:cart"] ∧
      s.fetches = [.addition "en:shop" "cart", .addition "en" "shop:cart"] ∧
      t.calls[2]? = some ⟨.loadNamespace "cart" (some "en:shop"), .ended (.ok .loaded)⟩ ∧
      t.fetches = s.fetches ∧ t.ready = [] ∧ t.isMerged "en:shop" "cart" = false :=
  ⟨⟨[("en", .map [])], _, _, _, _, _, _, rfl⟩, rfl, rfl, rfl, rfl, rfl, rfl, rfl, rfl⟩

end State

end Localization.Store
