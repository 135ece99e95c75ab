import Localization.Proofs.Store.RunStep
import Localization.Proofs.Store.Waiting

/-! # States that differ in one call

Two states may have everything in common but one call and the jobs for it. Nothing but the call
itself reads these, so any event keeps the two states like that, unless it is the one with which
the call goes on.
-/
namespace Localization.Store

namespace State

/-- Two states have everything in common but a call and the jobs for it. -/
structure SameBut (call : Nat) (s t : State) : Prop where
  rest : { t with calls := s.calls, ready := s.ready } = s
  length : t.calls.length = s.calls.length
  calls (other : Nat) : other ≠ call → t.calls[other]? = s.calls[other]?
  ready : t.ready.filter (fun job => job.call? != some call) =
    s.ready.filter fun job => job.call? != some call

section

variable {s t u : State} {call : Nat}

theorem SameBut.refl (call : Nat) (s : State) : SameBut call s s :=
  ⟨rfl, rfl, fun _ _ => rfl, rfl⟩

theorem SameBut.symm (h : SameBut call s t) : SameBut call t s := by
  refine ⟨?_, h.length.symm, fun other differ => (h.calls other differ).symm, h.ready.symm⟩
  exact congrArg (fun v : State => { v with calls := t.calls, ready := t.ready }) h.rest.symm

theorem SameBut.trans (h : SameBut call s t) (k : SameBut call t u) : SameBut call s u := by
  refine ⟨?_, k.length.trans h.length, ?_, k.ready.trans h.ready⟩
  · have first := congrArg (fun v : State => { v with calls := s.calls, ready := s.ready }) k.rest
    exact first.trans h.rest
  · intro other differ
    exact (k.calls other differ).trans (h.calls other differ)

theorem SameBut.view {α : Type} (h : SameBut call s t) (view : State → α)
    (blind : ∀ (v : State) (calls : List Call) (ready : List Job),
      view { v with calls, ready } = view v) : view t = view s := by
  rw [← blind t s.calls s.ready, h.rest]

theorem SameBut.change {f : State → State} (h : SameBut call s t)
    (blind : ∀ (v : State) (calls : List Call) (ready : List Job),
      f { v with calls, ready } = { f v with calls, ready }) : SameBut call (f s) (f t) := by
  have calls (v : State) : (f v).calls = v.calls := by
    have same := congrArg State.calls (blind v v.calls v.ready)
    exact same
  have ready (v : State) : (f v).ready = v.ready := by
    have same := congrArg State.ready (blind v v.calls v.ready)
    exact same
  refine ⟨?_, ?_, ?_, ?_⟩
  · rw [calls, ready, ← blind, h.rest]
  · rw [calls, calls, h.length]
  · intro other differ
    rw [calls, calls, h.calls other differ]
  · rw [ready, ready, h.ready]

theorem SameBut.setStage (h : SameBut call s t) (load : Nat) (stage : Stage) :
    SameBut call (s.setStage load stage) (t.setStage load stage) :=
  h.change (f := (State.setStage · load stage)) fun _ _ _ => rfl

theorem SameBut.setPhase (h : SameBut call s t) (other : Nat) (phase : Phase) :
    SameBut call (s.setPhase other phase) (t.setPhase other phase) := by
  refine ⟨?_, ?_, ?_, h.ready⟩
  · exact congrArg (fun v : State => v.setPhase other phase) h.rest
  · simp only [State.setPhase, List.length_modify, h.length]
  · intro third differ
    rw [getElem?_setPhase, getElem?_setPhase, h.calls third differ]

theorem sameBut_setPhase (s : State) (call : Nat) (phase : Phase) :
    SameBut call s (s.setPhase call phase) :=
  ⟨rfl, List.length_modify .., fun _ differ => setPhase_of_ne rfl differ, rfl⟩

theorem SameBut.enqueue (h : SameBut call s t) {jobs others : List Job}
    (same : others.filter (fun job => job.call? != some call) =
      jobs.filter fun job => job.call? != some call) :
    SameBut call (s.enqueue jobs) (t.enqueue others) := by
  refine ⟨?_, h.length, h.calls, ?_⟩
  · exact congrArg (fun v : State => v.enqueue jobs) h.rest
  · show (t.ready ++ others).filter _ = (s.ready ++ jobs).filter _
    rw [List.filter_append, List.filter_append, h.ready, same]

theorem sameBut_enqueue (s : State) (call : Nat) :
    SameBut call s (s.enqueue [.advance call]) := by
  have added : SameBut call (s.enqueue []) (s.enqueue [.advance call]) :=
    (SameBut.refl call s).enqueue (by simp [Job.call?])
  have empty : s.enqueue [] = s := by simp [State.enqueue]
  rwa [empty] at added

theorem SameBut.dequeue (h : SameBut call s t) (job : Job) :
    SameBut call { s with ready := s.ready.erase job } { t with ready := t.ready.erase job } := by
  refine ⟨?_, h.length, h.calls, ?_⟩
  · exact congrArg (fun v : State => { v with ready := v.ready.erase job }) h.rest
  · have ready := congrArg (List.erase · job) h.ready
    simp only [List.erase_filter] at ready
    exact ready

theorem sameBut_dequeue {job : Job} (about : job.call? = some call) :
    SameBut call s { s with ready := s.ready.erase job } := by
  refine ⟨rfl, rfl, fun _ _ => rfl, ?_⟩
  have absent : job ∉ s.ready.filter fun job => job.call? != some call := by
    intro inside
    have other := (List.mem_filter.mp inside).2
    simp [about] at other
  have same := List.erase_of_not_mem absent
  rw [List.erase_filter] at same
  exact same

theorem SameBut.mem_ready (h : SameBut call s t) {job : Job} (apart : job.call? ≠ some call) :
    job ∈ t.ready ↔ job ∈ s.ready := by
  have same : job ∈ t.ready.filter (fun job => job.call? != some call) ↔
      job ∈ s.ready.filter fun job => job.call? != some call := by
    rw [h.ready]
  simpa [List.mem_filter, apart] using same

theorem SameBut.waiters (h : SameBut call s t) (load : Nat) :
    (t.waiters load).filter (· != call) = (s.waiters load).filter (· != call) := by
  rw [State.waiters, State.waiters, h.length, List.filter_filter, List.filter_filter]
  refine List.filter_congr fun other _ => ?_
  by_cases same : other = call
  · simp [same]
  · simp only [waitsFor, h.calls other same]

theorem SameBut.complete (h : SameBut call s t) (load : Nat) (target : Target)
    (answer : Except String Value) :
    SameBut call (s.complete load target answer) (t.complete load target answer) := by
  have closed := h.change
    (f := fun v => ((v.accept target (messagesOf answer)).leave target).setStage load
      (.ended ((messagesOf answer).map fun _ => ()))) fun v calls ready => by
    cases messagesOf answer <;> cases target <;> rfl
  refine closed.enqueue ?_
  have told (waiting : List Nat) :
      (waiting.map (Job.deliver load)).filter (fun job => job.call? != some call) =
        (waiting.filter (· != call)).map (Job.deliver load) := by
    rw [List.filter_map]
    refine congrArg _ (List.filter_congr fun other _ => ?_)
    simp [Job.call?, bne]
  rw [told, told, closed.waiters]

theorem SameBut.run (h : SameBut call s t) (load : Nat) :
    SameBut call (s.run load) (t.run load) := by
  have loads : t.loads = s.loads := h.view State.loads fun _ _ _ => rfl
  rw [State.run, State.run, loads]
  split
  · next target here =>
    have source : t.source? target = s.source? target :=
      h.view (State.source? · target) fun _ _ _ => rfl
    have fetches : t.fetches = s.fetches := h.view State.fetches fun _ _ _ => rfl
    have requests : t.requests = s.requests := h.view State.requests fun _ _ _ => rfl
    have called := h.change (f := (State.fetched · target)) fun _ _ _ => rfl
    rw [fetch, fetch, source]
    cases s.source? target with
    | none => exact h
    | some source =>
      show SameBut call
        (if source.gated then
          (s.fetched target).setStage load (.held s.requests (source.answer (s.fetches.count target)))
        else (s.fetched target).complete load target (source.answer (s.fetches.count target)))
        (if source.gated then
          (t.fetched target).setStage load (.held t.requests (source.answer (t.fetches.count target)))
        else (t.fetched target).complete load target (source.answer (t.fetches.count target)))
      rw [fetches, requests]
      split
      · exact called.setStage load _
      · exact called.complete load target _
  · exact h.complete load _ _
  · exact h

theorem SameBut.switch (h : SameBut call s t) (other number : Nat) (locale : String) :
    SameBut call (s.switch other number locale) (t.switch other number locale) := by
  have requests : t.requests = s.requests := h.view State.requests fun _ _ _ => rfl
  by_cases latest : number = s.requests
  · have moved := h.change (f := fun v : State => { v with locale }) fun _ _ _ => rfl
    rw [State.switch, State.switch, if_pos latest, if_pos (latest.trans requests.symm)]
    exact moved.setPhase other _
  · have overtaken : number ≠ t.requests := fun same => latest (same.trans requests)
    rw [State.switch, State.switch, if_neg latest, if_neg overtaken]
    exact h.setPhase other _

theorem SameBut.join (h : SameBut call s t) (other number : Nat) (target : Target) :
    SameBut call (s.join other number target) (t.join other number target) := by
  have flight : t.inFlight? target = s.inFlight? target :=
    h.view (State.inFlight? · target) fun _ _ _ => rfl
  have loads : t.loads = s.loads := h.view State.loads fun _ _ _ => rfl
  rw [State.join, State.join, flight, loads]
  split
  · exact h.setPhase other _
  · have entered := h.change
      (f := fun v => { v.enter target s.loads.length with loads := s.loads ++ [⟨target, .created⟩] })
      fun v calls ready => by cases target <;> rfl
    have created : SameBut call (s.createLoad target) (t.createLoad target) := by
      simp only [createLoad, loads]
      exact entered.enqueue rfl
    exact created.setPhase other _

theorem SameBut.open (h : SameBut call s t) (other : Nat) (locale : String) (lazy : Bool) :
    SameBut call (s.begin other (.setLocale locale lazy))
      (t.begin other (.setLocale locale lazy)) := by
  -- The two states are those after the request has been counted.
  have opened {u v : State} (k : SameBut call u v) : SameBut call
      (if u.catalogs.has locale then u.switch other u.requests locale
      else if lazy && u.hasSource (.catalog locale) then u.join other u.requests (.catalog locale)
      else u.conclude other (.ok (.changed false)))
      (if v.catalogs.has locale then v.switch other v.requests locale
      else if lazy && v.hasSource (.catalog locale) then v.join other v.requests (.catalog locale)
      else v.conclude other (.ok (.changed false))) := by
    have catalogs : v.catalogs = u.catalogs := k.view State.catalogs fun _ _ _ => rfl
    have requests : v.requests = u.requests := k.view State.requests fun _ _ _ => rfl
    have source : v.hasSource (.catalog locale) = u.hasSource (.catalog locale) :=
      k.view (State.hasSource · _) fun _ _ _ => rfl
    rw [catalogs, requests, source]
    split
    · exact k.switch other _ locale
    · split
      · exact k.join other _ _
      · exact k.setPhase other _
  have asked := h.change (f := fun v : State => { v with requests := v.requests + 1 }) fun _ _ _ => rfl
  exact opened asked

theorem SameBut.begin (h : SameBut call s t) (other : Nat) (request : Request) :
    SameBut call (s.begin other request) (t.begin other request) := by
  have catalogs : t.catalogs = s.catalogs := h.view State.catalogs fun _ _ _ => rfl
  have source (target : Target) : t.hasSource target = s.hasSource target :=
    h.view (State.hasSource · target) fun _ _ _ => rfl
  cases request with
  | setLocale locale lazy => exact h.open other locale lazy
  | loadLocale locale =>
    simp only [State.begin, catalogs, source]
    split
    · exact h.setPhase other _
    · split
      · exact h.join other _ _
      · exact h.setPhase other _
  | loadNamespace name requested =>
    have found : t.localeFor requested = s.localeFor requested :=
      h.view (State.localeFor · requested) fun _ _ _ => rfl
    have merged (locale : String) : t.isMerged locale name = s.isMerged locale name :=
      h.view (State.isMerged · locale name) fun _ _ _ => rfl
    simp only [State.begin, found, merged, source]
    split
    · exact h.setPhase other _
    · exact h.join other _ _

theorem SameBut.resume (h : SameBut call s t) (other number : Nat) (request : Request)
    (wake : Wake) :
    SameBut call (s.resume other number request wake) (t.resume other number request wake) := by
  rw [State.resume.eq_def, State.resume.eq_def]
  split
  · exact h.setPhase other _
  · exact h.switch other number _
  · exact h.setPhase other _
  · exact h.setPhase other _
  · exact h.setPhase other _

theorem SameBut.advance (h : SameBut call s t) {other : Nat} (differ : other ≠ call) :
    SameBut call (s.advance other) (t.advance other) := by
  rw [State.advance, State.advance, h.calls other differ]
  split
  · exact h.begin other _
  · exact h.resume other _ _ _
  · exact h

theorem SameBut.deliver (h : SameBut call s t) (load : Nat) {other : Nat} (differ : other ≠ call) :
    SameBut call (s.deliver load other) (t.deliver load other) := by
  have loads : t.loads = s.loads := h.view State.loads fun _ _ _ => rfl
  rw [State.deliver, State.deliver, h.calls other differ, loads]
  split
  · split
    · exact (h.setPhase other _).enqueue rfl
    · exact h
  · exact h

theorem sameBut_deliver (s : State) (load call : Nat) : SameBut call s (s.deliver load call) := by
  rw [State.deliver]
  split
  · split
    · exact (sameBut_setPhase s call _).trans (sameBut_enqueue _ call)
    · exact .refl call s
  · exact .refl call s

theorem SameBut.cancel (h : SameBut call s t) {other : Nat} (differ : other ≠ call) :
    SameBut call (s.cancel other) (t.cancel other) := by
  rw [State.cancel, State.cancel, h.calls other differ]
  split
  · exact h.setPhase other _
  · exact (h.setPhase other _).enqueue rfl
  · exact h.setPhase other _
  · exact h

theorem sameBut_cancel (s : State) (call : Nat) : SameBut call s (s.cancel call) := by
  rw [State.cancel]
  split
  · exact sameBut_setPhase s call _
  · exact (sameBut_setPhase s call _).trans (sameBut_enqueue _ call)
  · exact sameBut_setPhase s call _
  · exact .refl call s

theorem sameBut_handle (s : State) {e : Event} (about : e.call? = some call)
    (still : e ≠ .perform (.advance call)) : SameBut call s (s.handle e) := by
  cases e with
  | start | release | mark => cases about
  | cancel mine =>
    cases about
    exact sameBut_cancel s call
  | perform job =>
    simp only [State.handle]
    split
    · refine (sameBut_dequeue about).trans ?_
      cases job with
      | run load => cases about
      | advance mine =>
        cases about
        exact absurd rfl still
      | deliver load mine =>
        cases about
        exact sameBut_deliver _ load call
    · exact .refl call s

/-- Every event but the one with which a call goes on leaves two states that differ in the call
only. -/
theorem SameBut.handle (h : SameBut call s t) {e : Event} (still : e ≠ .perform (.advance call)) :
    SameBut call (s.handle e) (t.handle e) := by
  by_cases about : e.call? = some call
  · exact (sameBut_handle s about still).symm.trans (h.trans (sameBut_handle t about still))
  · cases e with
    | start request =>
      have asked : SameBut call { s with calls := s.calls ++ [⟨request, .created⟩] }
          { t with calls := t.calls ++ [⟨request, .created⟩] } := by
        refine ⟨?_, ?_, ?_, h.ready⟩
        · have grown := congrArg (fun v : State =>
            { v with calls := v.calls ++ [Call.mk request .created] }) h.rest
          exact grown
        · simp only [List.length_append, h.length]
        · intro other differ
          show (t.calls ++ _)[other]? = (s.calls ++ _)[other]?
          rw [List.getElem?_append, List.getElem?_append, h.length, h.calls other differ]
      refine asked.enqueue ?_
      rw [h.length]
    | release load =>
      have loads : t.loads = s.loads := h.view State.loads fun _ _ _ => rfl
      simp only [State.handle, State.release, loads]
      split
      · exact (h.setStage load _).enqueue rfl
      · exact h
    | cancel other => exact h.cancel (by rintro rfl; exact about rfl)
    | mark locale names =>
      exact h.change (f := (State.markMerged · locale names)) fun _ _ _ => rfl
    | perform job =>
      simp only [State.handle, h.mem_ready about]
      split
      · cases job with
        | run load => exact (h.dequeue _).run load
        | advance other => exact (h.dequeue _).advance (by rintro rfl; exact about rfl)
        | deliver load other => exact (h.dequeue _).deliver load (by rintro rfl; exact about rfl)
      · exact h

theorem SameBut.after (h : SameBut call s t) {later : List Event}
    (still : .perform (.advance call) ∉ later) : SameBut call (s.after later) (t.after later) := by
  induction later generalizing s t with
  | nil => exact h
  | cons e rest ih =>
    obtain ⟨now, later⟩ := List.ne_and_not_mem_of_not_mem_cons still
    exact ih (h.handle now.symm) later

end

end State

end Localization.Store
