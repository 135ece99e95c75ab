import Localization.Proofs.Store.Sharing

/-! # Calls that wait for a load

A call that begins and needs a load is suspended on the one that is in flight under its key, or it
creates one. From then on only a cancellation keeps the outcome of the load from the call: it is
woken with that outcome, which decides what it gives back.
-/
namespace Localization.Store

/-- The call that an event is about. -/
def Event.call? : Event → Option Nat
  | cancel call => some call
  | perform job => job.call?
  | _ => none

def Phase.isDropped : Phase → Bool
  | waking _ .cancelled => true
  | ended (.error .cancelled) => true
  | _ => false

namespace State

/-- What a request gets when the load that it waited for has ended. One for a locale can be
overtaken by another one, and it never fails. -/
inductive Receives : Request → Except Failure Unit → Except Failure Reply → Prop
  | decided (locale : String) (lazy changed : Bool) :
      Receives (.setLocale locale lazy) (.ok ()) (.ok (.changed changed))
  | unchanged (locale : String) (lazy : Bool) (failure : Failure) :
      Receives (.setLocale locale lazy) (.error failure) (.ok (.changed false))
  | replied (request : Request) (result : Except Failure Unit)
      (only : ∀ locale lazy, request ≠ .setLocale locale lazy) :
      Receives request result (replyTo result)

inductive Heeds (request : Request) (load : Nat) : Stage → Phase → Prop
  | waits (stage : Stage) (number : Nat) : Heeds request load stage (.suspended load number)
  | told (result : Except Failure Unit) (number : Nat) :
      Heeds request load (.ended result) (.waking number (.completed result))
  | returned (result : Except Failure Unit) (outcome : Except Failure Reply)
      (receives : Receives request result outcome) :
      Heeds request load (.ended result) (.ended outcome)

def Attends (s : State) (call load : Nat) (request : Request) (target : Target) : Prop :=
  ∃ (stage : Stage) (phase : Phase), s.loads[load]? = some ⟨target, stage⟩ ∧
    s.calls[call]? = some ⟨request, phase⟩ ∧ Heeds request load stage phase

def IsDropped (s : State) (call : Nat) : Prop :=
  ∃ c : Call, s.calls[call]? = some c ∧ c.phase.isDropped = true

theorem perform_calls_of_ne {s : State} {job : Job} {call : Nat} (other : job.call? ≠ some call) :
    (s.perform job).calls[call]? = s.calls[call]? := by
  have differ {mine : Nat} (about : job.call? = some mine) : call ≠ mine := by
    rintro rfl
    exact other about
  have step := perform_jobStep s job
  generalize s.perform job = t at step
  cases step with
  | idle _ nothing same => rw [same.calls]
  | refused mine request outcome here unwanted same => exact setPhase_of_ne same.calls (differ rfl)
  | joined mine request load number target here demand wanted flight same =>
    exact setPhase_of_ne same.calls (differ rfl)
  | created mine request number target here demand wanted free same =>
    rw [setPhase_of_ne same.calls (differ rfl), (createLoad_sameCalls s target).calls]
  | resumed mine request number wake outcome here reply same =>
    exact setPhase_of_ne same.calls (differ rfl)
  | held load target answer here same => rw [same.calls]; rfl
  | answered load target outcome here same => rw [same.calls]; rfl
  | ended load target requests answer outcome here same => rw [same.calls]; rfl
  | woken load mine request number target outcome here done same =>
    exact setPhase_of_ne same.calls (differ rfl)

theorem cancel_calls_of_ne {s : State} {mine call : Nat} (differ : call ≠ mine) :
    (s.cancel mine).calls[call]? = s.calls[call]? := by
  rw [cancel]
  split
  · exact setPhase_of_ne rfl differ
  · exact setPhase_of_ne rfl differ
  · exact setPhase_of_ne rfl differ
  · rfl

theorem handle_calls_of_ne {s : State} {e : Event} {call : Nat} {c : Call}
    (here : s.calls[call]? = some c) (other : e.call? ≠ some call) :
    (s.handle e).calls[call]? = some c := by
  cases e with
  | start request => exact getElem?_kept here _
  | release load => exact (release_sameCalls s load).calls ▸ here
  | mark locale names => exact here
  | cancel mine =>
    refine (cancel_calls_of_ne ?_).trans here
    rintro rfl
    exact other rfl
  | perform job =>
    rw [handle]
    split
    · exact (perform_calls_of_ne (s := { s with ready := s.ready.erase job }) other).trans here
    · exact here

theorem call_before {s : State} {e : Event} {call : Nat} {request : Request} {phase : Phase}
    (there : (s.handle e).calls[call]? = some ⟨request, phase⟩) :
    phase = .created ∨ ∃ before, s.calls[call]? = some ⟨request, before⟩ := by
  have moved {other : Nat} {asked : Request} {before after : Phase}
      (here : s.calls[other]? = some ⟨asked, before⟩)
      (calls : (s.handle e).calls = (s.setPhase other after).calls) :
      ∃ before, s.calls[call]? = some ⟨request, before⟩ := by
    rcases setPhase_cases here calls there with ⟨rfl, same⟩ | ⟨-, old⟩
    · cases same
      exact ⟨before, here⟩
    · exact ⟨phase, old⟩
  have step := handle_callStep s e
  generalize s.opened? e = opened at step
  cases step with
  | still same => exact .inr ⟨phase, same.calls ▸ there⟩
  | asked asked calls =>
    rw [calls] at there
    rcases getElem?_snoc there with old | ⟨-, same⟩
    · exact .inr ⟨phase, old⟩
    · cases same
      exact .inl rfl
  | opened other locale lazy after here calls => exact .inr (moved here calls)
  | switched other locale lazy here calls => exact .inr (moved here calls)
  | moved other asked before after here calls => exact .inr (moved here calls)

theorem perform_cancelled {s : State} {job : Job} {call number : Nat} {request : Request}
    (there : (s.perform job).calls[call]? = some ⟨request, .waking number .cancelled⟩) :
    s.calls[call]? = some ⟨request, .waking number .cancelled⟩ := by
  have step := perform_jobStep s job
  generalize s.perform job = t at step there
  -- A job leaves the call that it is about in a phase that is not this one.
  have passed {mine : Nat} {sort : Request} {before after : Phase}
      (here : s.calls[mine]? = some ⟨sort, before⟩)
      (calls : t.calls = (s.setPhase mine after).calls) (differ : after ≠ .waking number .cancelled) :
      s.calls[call]? = some ⟨request, .waking number .cancelled⟩ := by
    rcases setPhase_cases here calls there with ⟨-, same⟩ | ⟨-, old⟩
    · cases same
      exact absurd rfl differ
    · exact old
  cases step with
  | idle _ nothing same => exact same.calls ▸ there
  | refused mine sort outcome here unwanted same => exact passed here same.calls (by simp)
  | joined mine sort load other target here demand wanted flight same =>
    exact passed here same.calls (by simp)
  | created mine sort other target here demand wanted free same =>
    have calls : t.calls = (s.setPhase mine (.suspended s.loads.length other)).calls := by
      simp only [same.calls, setPhase, (createLoad_sameCalls s target).calls]
    exact passed here calls (by simp)
  | resumed mine sort other wake outcome here reply same => exact passed here same.calls (by simp)
  | held load target answer here same => exact same.calls ▸ there
  | answered load target outcome here same => exact same.calls ▸ there
  | ended load target requests answer outcome here same => exact same.calls ▸ there
  | woken load mine sort other target outcome here done same =>
    exact passed here same.calls (by simp)

theorem handle_cancelled {s : State} {e : Event} {call number : Nat} {request : Request} {c : Call}
    (here : s.calls[call]? = some c)
    (there : (s.handle e).calls[call]? = some ⟨request, .waking number .cancelled⟩) :
    c = ⟨request, .waking number .cancelled⟩ ∨ e = .cancel call := by
  by_cases about : e.call? = some call
  · cases e with
    | start | release | mark => cases about
    | cancel mine =>
      cases about
      exact .inr rfl
    | perform job =>
      rw [handle] at there
      split at there
      · have old := perform_cancelled there
        exact .inl (Option.some.inj (here.symm.trans old))
      · exact .inl (Option.some.inj (here.symm.trans there))
  · rw [handle_calls_of_ne here about] at there
    exact .inl (Option.some.inj there)

theorem IsDropped.handle {s : State} {call : Nat} (h : s.IsDropped call) (e : Event) :
    (s.handle e).IsDropped call := by
  obtain ⟨c, here, dropped⟩ := h
  have step := handle_callStep s e
  generalize s.opened? e = opened at step
  cases step with
  | still same => exact ⟨c, same.calls ▸ here, dropped⟩
  | asked request calls => exact ⟨c, calls ▸ getElem?_kept here _, dropped⟩
  | opened other locale lazy phase old calls =>
    by_cases same : call = other
    · subst same
      cases here.symm.trans old
      cases dropped
    · exact ⟨c, (setPhase_of_ne calls same).trans here, dropped⟩
  | switched other locale lazy old calls =>
    by_cases same : call = other
    · subst same
      cases here.symm.trans old
      cases dropped
    · exact ⟨c, (setPhase_of_ne calls same).trans here, dropped⟩
  | moved other request before after old calls requests locale passage =>
    by_cases same : call = other
    · subst same
      cases here.symm.trans old
      refine ⟨_, setPhase_self old calls, ?_⟩
      cases passage with
      | cancelled | stopped => rfl
      | present | unknown | awaited | skipped | joined | woken | superseded | unchanged | loaded
        | failed => cases dropped
    · exact ⟨c, (setPhase_of_ne calls same).trans here, dropped⟩

theorem IsDropped.after {s : State} {call : Nat} (h : s.IsDropped call) (later : List Event) :
    (s.after later).IsDropped call :=
  after_induction (P := fun t => t.IsDropped call) (fun _ e dropped => dropped.handle e) h later

theorem handle_ended {s : State} {load : Nat} {target : Target} {result : Except Failure Unit}
    (here : s.loads[load]? = some ⟨target, .ended result⟩) (e : Event) :
    (s.handle e).loads[load]? = some ⟨target, .ended result⟩ := by
  have kept {other : Nat} {sort : Target} {before after : Stage}
      (there : s.loads[other]? = some ⟨sort, before⟩) (wasOpen : before.isOpen = true)
      (loads : (s.handle e).loads = (s.setStage other after).loads) :
      (s.handle e).loads[load]? = some ⟨target, .ended result⟩ := by
    refine (setStage_of_ne loads ?_).trans here
    rintro rfl
    cases here.symm.trans there
    cases wasOpen
  have step := handle_loadStep s e
  generalize s.absorbed? e = absorbed at step
  cases step with
  | still same => exact same.loads ▸ here
  | marked locale names loads => exact loads ▸ here
  | created sort free wanted loads => exact loads ▸ getElem?_kept here _
  | moved other sort before after there wasOpen isOpen loads => exact kept there wasOpen loads
  | failed other sort before answer failure there wasOpen result loads =>
    exact kept there wasOpen loads
  | ended other sort before answer messages there wasOpen result loads =>
    exact kept there wasOpen loads

theorem after_ended {s : State} {load : Nat} {target : Target} {result : Except Failure Unit}
    (here : s.loads[load]? = some ⟨target, .ended result⟩) (later : List Event) :
    (s.after later).loads[load]? = some ⟨target, .ended result⟩ :=
  after_induction (P := fun t => t.loads[load]? = some ⟨target, .ended result⟩)
    (fun _ e ended => handle_ended ended e) here later

theorem Heeds.later {request : Request} {load : Nat} {before after : Stage} {phase : Phase}
    (h : Heeds request load before phase)
    (ended : ∀ result, before = .ended result → after = .ended result) :
    Heeds request load after phase := by
  cases h with
  | waits _ number => exact .waits after number
  | told result number => exact ended result rfl ▸ .told result number
  | returned result outcome receives => exact ended result rfl ▸ .returned result outcome receives

/-- A step of a call that waits for a load: it is told of the end, it returns, or it is
cancelled. -/
theorem Heeds.passage {s t : State} {request : Request} {load : Nat} {target : Target}
    {stage : Stage} {before after : Phase} (there : s.loads[load]? = some ⟨target, stage⟩)
    (h : Heeds request load stage before) (passage : Passage s t request before after) :
    Heeds request load stage after ∨ ∃ number, after = .waking number .cancelled := by
  cases passage with
  | present | unknown | awaited | skipped | joined => cases h
  | woken _ found number sort outcome ended =>
    cases h
    cases there.symm.trans ended
    exact .inl (.told outcome number)
  | cancelled _ _ isOpen => exact .inr ⟨_, rfl⟩
  | stopped => cases h
  | superseded locale lazy number =>
    cases h
    exact .inl (.returned _ _ (.decided locale lazy false))
  | unchanged locale lazy number failure =>
    cases h
    exact .inl (.returned _ _ (.unchanged locale lazy failure))
  | loaded _ number only =>
    cases h
    exact .inl (.returned _ _ (.replied request _ only))
  | failed _ number failure only =>
    cases h
    exact .inl (.returned _ _ (.replied request _ only))

theorem Attends.handle {s : State} {call load : Nat} {request : Request} {target : Target}
    (h : s.Attends call load request target) (e : Event) :
    (s.handle e).Attends call load request target ∨
      e = .cancel call ∧ (s.handle e).IsDropped call := by
  obtain ⟨stage, phase, there, here, heeds⟩ := h
  obtain ⟨next, moved⟩ := handle_target there e
  have attends {after : Phase} (now : (s.handle e).calls[call]? = some ⟨request, after⟩)
      (heeds : Heeds request load stage after) : (s.handle e).Attends call load request target := by
    refine ⟨next, after, moved, now, heeds.later ?_⟩
    rintro result rfl
    cases moved.symm.trans (handle_ended there e)
    rfl
  have step := handle_callStep s e
  generalize s.opened? e = opened at step
  cases step with
  | still same => exact .inl (attends (same.calls ▸ here) heeds)
  | asked asking calls => exact .inl (attends (calls ▸ getElem?_kept here _) heeds)
  | opened other locale lazy after old calls =>
    by_cases same : call = other
    · subst same
      cases here.symm.trans old
      cases heeds
    · exact .inl (attends ((setPhase_of_ne calls same).trans here) heeds)
  | switched other locale lazy old calls =>
    by_cases same : call = other
    · subst same
      cases here.symm.trans old
      cases heeds
      exact .inl (attends (setPhase_self old calls) (.returned _ _ (.decided locale lazy true)))
    · exact .inl (attends ((setPhase_of_ne calls same).trans here) heeds)
  | moved other asking before after old calls requests locale passage =>
    by_cases same : call = other
    · subst same
      cases here.symm.trans old
      have now := setPhase_self old calls
      rcases heeds.passage there passage with told | ⟨number, rfl⟩
      · exact .inl (attends now told)
      · rcases handle_cancelled here now with was | cancels
        · cases was
          cases heeds
        · exact .inr ⟨cancels, _, now, rfl⟩
    · exact .inl (attends ((setPhase_of_ne calls same).trans here) heeds)

theorem Attends.after {s : State} {call load : Nat} {request : Request} {target : Target}
    (h : s.Attends call load request target) (later : List Event) :
    (s.after later).Attends call load request target ∨
      .cancel call ∈ later ∧ (s.after later).IsDropped call := by
  induction later generalizing s with
  | nil => exact .inl h
  | cons e rest ih =>
    rcases h.handle e with attends | ⟨rfl, dropped⟩
    · exact (ih attends).imp id (And.imp_left (List.mem_cons_of_mem e))
    · exact .inr ⟨List.mem_cons_self, dropped.after rest⟩

theorem Attends.receives {s : State} {call load : Nat} {request : Request} {target : Target}
    (h : s.Attends call load request target) {outcome : Except Failure Reply}
    (here : s.calls[call]? = some ⟨request, .ended outcome⟩) :
    ∃ result, s.loads[load]? = some ⟨target, .ended result⟩ ∧ Receives request result outcome := by
  obtain ⟨stage, phase, there, found, heeds⟩ := h
  cases here.symm.trans found
  cases heeds with
  | returned result _ receives => exact ⟨result, there, receives⟩

theorem Scheduled.replied {s : State} (h : s.Scheduled none) (quiet : s.ready = [])
    {call load : Nat} {request : Request} {target : Target}
    (attends : s.Attends call load request target) {result : Except Failure Unit}
    (done : s.loads[load]? = some ⟨target, .ended result⟩) :
    ∃ outcome, s.calls[call]? = some ⟨request, .ended outcome⟩ ∧ Receives request result outcome := by
  have never {job : Job} (due : s.Due none job) : False := by
    rcases due with queued | running
    · rw [quiet] at queued
      cases queued
    · cases running
  obtain ⟨stage, phase, there, here, heeds⟩ := attends
  cases there.symm.trans done
  cases heeds with
  | waits _ number =>
    obtain ⟨sort, stage, same, told⟩ := h.calls call _ here
    cases there.symm.trans same
    exact (never (told rfl)).elim
  | told _ number => exact (never (h.calls call _ here)).elim
  | returned _ outcome receives => exact ⟨outcome, here, receives⟩

theorem Orderly.replied {s : State} (h : s.Orderly) {call load : Nat} {request : Request}
    {target : Target} (attends : s.Attends call load request target) {result : Except Failure Unit}
    (done : s.loads[load]? = some ⟨target, .ended result⟩) :
    ∃ outcome, s.settle.value.calls[call]? = some ⟨request, .ended outcome⟩ ∧
      Receives request result outcome := by
  obtain ⟨jobs, value⟩ := settle_value s
  have quiet := settle_ready s
  rw [value] at quiet ⊢
  rcases attends.after (jobs.map .perform) with settled | ⟨cancelled, -⟩
  · exact (h.after _).scheduled.replied quiet settled (after_ended done _)
  · simp at cancelled

structure Waits (s : State) (call : Nat) (request : Request) (load : Nat) (target : Target) :
    Prop where
  suspended : ∃ number, s.calls[call]? = some ⟨request, .suspended load number⟩
  isOpen : s.IsOpen load target

/-- A call that needs a target has begun between two states. It waits for the load that was in
flight under the key of the target, or for a new one of the target itself. -/
structure Begins (s t : State) (call : Nat) (request : Request) (target : Target) (load : Nat)
    (sort : Target) : Prop where
  entry : sort.entry = target.entry
  waits : t.Waits call request load sort
  fetches : t.fetches = s.fetches
  source : s.inFlight? target = some load ∧ t.loads = s.loads ∨
    s.inFlight? target = none ∧ sort = target ∧ load = s.loads.length ∧
      t.loads = s.loads ++ [⟨target, .created⟩]

/-- No load of another target is open under the key of a target. -/
def Unrivalled (s : State) (target : Target) : Prop :=
  ∀ (load : Nat) (other : Target), s.IsOpen load other → other.entry = target.entry → other = target

theorem IsOpen.of_loads {s t : State} (loads : t.loads = s.loads) {load : Nat} {target : Target}
    (h : s.IsOpen load target) : t.IsOpen load target := by
  obtain ⟨stage, here, isOpen⟩ := h
  exact ⟨stage, loads ▸ here, isOpen⟩

theorem Waits.attends {s : State} {call load : Nat} {request : Request} {target : Target}
    (h : s.Waits call request load target) : s.Attends call load request target := by
  obtain ⟨⟨number, here⟩, stage, there, -⟩ := h
  exact ⟨stage, _, there, here, .waits stage number⟩

theorem Begins.sort_eq {s t : State} {call load : Nat} {request : Request} {target sort : Target}
    (h : Begins s t call request target load sort) (unrivalled : s.Unrivalled target) :
    sort = target := by
  rcases h.source with ⟨-, loads⟩ | ⟨-, same, -⟩
  · have wasOpen := h.waits.isOpen.of_loads loads.symm
    exact unrivalled load sort wasOpen h.entry
  · exact same

theorem Scheduled.queued {s : State} (h : s.Scheduled none) {call : Nat} {request : Request}
    (here : s.calls[call]? = some ⟨request, .created⟩) : .advance call ∈ s.ready := by
  rcases h.calls call _ here with queued | running
  · exact queued
  · cases running

theorem Orderly.begins {s : State} (h : s.Orderly) {call : Nat} {request : Request}
    {target : Target} (here : s.calls[call]? = some ⟨request, .created⟩)
    (demand : s.demand? request = some target) (wanted : s.wants target = true) :
    ∃ load sort,
      Begins s (s.handle (.perform (.advance call))) call request target load sort := by
  simp only [State.handle, if_pos (h.scheduled.queued here)]
  have step := perform_jobStep { s with ready := s.ready.erase (.advance call) } (.advance call)
  generalize State.perform { s with ready := s.ready.erase (.advance call) } (.advance call) = t
    at step
  cases step with
  | idle _ nothing same => cases nothing _ here
  | refused _ request outcome there unwanted same =>
    cases here.symm.trans there
    have unneeded := unwanted target demand
    have refused : s.wants target = false := by cases target <;> exact unneeded
    rw [refused] at wanted
    cases wanted
  | joined _ request load number other there needs wants flight same =>
    cases here.symm.trans there
    cases demand.symm.trans needs
    have flight : s.inFlight? target = some load := flight
    obtain ⟨sort, stage, found, isOpen, entry⟩ := h.tracked.held target load flight
    refine ⟨load, sort, entry, ⟨⟨number, setPhase_self here same.calls⟩, ?_⟩, same.fetches,
      .inl ⟨flight, same.loads⟩⟩
    exact IsOpen.of_loads same.loads ⟨stage, found, isOpen⟩
  | created _ request number other there needs wants free same =>
    cases here.symm.trans there
    cases demand.symm.trans needs
    have vacant : s.inFlight? target = none := free
    have loads : t.loads = s.loads ++ [⟨target, .created⟩] := same.loads
    have calls : t.calls = (s.setPhase call (.suspended s.loads.length number)).calls := by
      rw [same.calls]
      cases target <;> rfl
    have fetches : t.fetches = s.fetches := by
      rw [same.fetches]
      cases target <;> rfl
    have new : t.loads[s.loads.length]? = some ⟨target, .created⟩ := by
      rw [loads]
      exact List.getElem?_concat_length
    exact ⟨s.loads.length, target, rfl, ⟨⟨number, setPhase_self here calls⟩, .created, new, rfl⟩,
      fetches, .inr ⟨vacant, rfl, rfl, loads⟩⟩
  | resumed _ request number wake outcome there reply same => cases here.symm.trans there

end State

end Localization.Store
