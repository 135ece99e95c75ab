import Localization.Proofs.Store.Flight
import Localization.Proofs.Store.JobStep

/-! # What is due has its job in the queue

A call that can go on, a load that has not called its source or has been released, and the
outcome of an ended load for each call that waits for it: all of them have their jobs in the
queue. So when the queue is empty, no call waits for a load that has ended, and no load waits
to call its source.
-/
namespace Localization.Store

/-- The call that a job is about. -/
def Job.call? : Job → Option Nat
  | advance call => some call
  | run _ => none
  | deliver _ call => some call

namespace State

def Due (s : State) (running : Option Job) (job : Job) : Prop := job ∈ s.ready ∨ running = some job

def CallDue (s : State) (running : Option Job) (call : Nat) : Phase → Prop
  | .created | .waking .. => s.Due running (.advance call)
  | .suspended load _ => ∃ (target : Target) (stage : Stage), s.loads[load]? = some ⟨target, stage⟩ ∧
      (stage.isOpen = false → s.Due running (.deliver load call))
  | .ended _ => True

def LoadDue (s : State) (running : Option Job) (load : Nat) : Stage → Prop
  | .created | .released .. => s.Due running (.run load)
  | _ => True

structure Scheduled (s : State) (running : Option Job) : Prop where
  sources (load : Nat) (l : Load) : s.loads[load]? = some l → s.hasSource l.target = true
  calls (call : Nat) (c : Call) : s.calls[call]? = some c → s.CallDue running call c.phase
  loads (load : Nat) (l : Load) : s.loads[load]? = some l → s.LoadDue running load l.stage

theorem IsNew.scheduled {s : State} (h : s.IsNew) : s.Scheduled none := by
  obtain ⟨-, -, -, -, calls, loads, -⟩ := h.blank
  refine ⟨?_, ?_, ?_⟩
  · intro load l found
    simp [loads] at found
  · intro call c found
    simp [calls] at found
  · intro load l found
    simp [loads] at found

section

variable {s t : State} {running after : Option Job}

theorem CallDue.imp {call : Nat} {phase : Phase} (h : s.CallDue running call phase)
    (kept : ∀ (load : Nat) (l : Load), s.loads[load]? = some l → t.loads[load]? = some l)
    (due : ∀ job : Job, job.call? = some call → s.Due running job → t.Due after job) :
    t.CallDue after call phase := by
  cases phase with
  | created => exact due (.advance call) rfl h
  | waking number wake => exact due (.advance call) rfl h
  | suspended load number =>
    obtain ⟨target, stage, there, told⟩ := h
    exact ⟨target, stage, kept load _ there, fun done => due (.deliver load call) rfl (told done)⟩
  | ended outcome => trivial

theorem LoadDue.imp {load : Nat} {stage : Stage} (h : s.LoadDue running load stage)
    (due : s.Due running (.run load) → t.Due after (.run load)) : t.LoadDue after load stage := by
  cases stage with
  | created => exact due h
  | released requests answer => exact due h
  | held | ended => trivial

theorem Scheduled.imp (h : s.Scheduled running) (calls : t.calls = s.calls)
    (loads : t.loads = s.loads) (sources : t.sources = s.sources)
    (additions : t.additions = s.additions)
    (due : ∀ job, s.Due running job → t.Due after job) : t.Scheduled after := by
  refine ⟨?_, ?_, ?_⟩
  · intro load l found
    have same : t.hasSource l.target = s.hasSource l.target := by
      cases l.target <;> simp only [hasSource, source?, sources, additions]
    exact same.trans (h.sources load l (loads ▸ found))
  · intro call c found
    refine (h.calls call c (calls ▸ found)).imp ?_ fun job _ => due job
    exact fun load l there => loads ▸ there
  · intro load l found
    exact (h.loads load l (loads ▸ found)).imp (due _)

theorem Scheduled.congr (h : s.Scheduled running) (same : SameWork s t) : t.Scheduled running :=
  h.imp same.calls same.loads same.sources same.additions fun _ => Or.imp (same.ready ▸ id) id

theorem Scheduled.enqueue (h : s.Scheduled running) (jobs : List Job) :
    (s.enqueue jobs).Scheduled running :=
  h.imp rfl rfl rfl rfl fun _ => Or.imp (List.mem_append_left jobs) id

theorem Scheduled.dequeued (h : s.Scheduled none) (job : Job) :
    State.Scheduled { s with ready := s.ready.erase job } (some job) := by
  refine h.imp rfl rfl rfl rfl fun other due => ?_
  by_cases same : other = job
  · exact .inr (congrArg some same.symm)
  · rcases due with queued | running
    · exact .inl ((List.mem_erase_of_ne same).mpr queued)
    · cases running

theorem Scheduled.setPhase (h : s.Scheduled running) {call : Nat} {request : Request}
    {before next : Phase} (here : s.calls[call]? = some ⟨request, before⟩)
    (mine : ∀ job, running = some job → job.call? = some call)
    (due : s.CallDue none call next) : (s.setPhase call next).Scheduled none := by
  refine ⟨h.sources, ?_, ?_⟩
  · intro other c found
    rcases setPhase_cases here rfl found with ⟨rfl, rfl⟩ | ⟨differ, there⟩
    · exact due
    · refine (h.calls other c there).imp (fun _ _ => id) fun job about => ?_
      rintro (queued | runs)
      · exact .inl queued
      · exact absurd (Option.some.inj (about.symm.trans (mine job runs))) differ
  · intro load l found
    refine (h.loads load l found).imp ?_
    rintro (queued | runs)
    · exact .inl queued
    · cases mine _ runs

theorem Scheduled.createLoad (h : s.Scheduled running) {target : Target}
    (source : s.hasSource target = true) : (s.createLoad target).Scheduled running := by
  have sources (other : Target) : (s.createLoad target).hasSource other = s.hasSource other := by
    cases target <;> cases other <;> rfl
  have loads : (s.createLoad target).loads = s.loads ++ [⟨target, .created⟩] := rfl
  have calls : (s.createLoad target).calls = s.calls := (createLoad_sameCalls s target).calls
  have ready : (s.createLoad target).ready = s.ready ++ [.run s.loads.length] := by
    cases target <;> rfl
  have due (job : Job) : s.Due running job → (s.createLoad target).Due running job :=
    Or.imp (fun queued => by rw [ready]; exact List.mem_append_left _ queued) id
  refine ⟨?_, ?_, ?_⟩
  · intro load l found
    rw [sources]
    rw [loads] at found
    rcases getElem?_snoc found with old | ⟨-, rfl⟩
    · exact h.sources load l old
    · exact source
  · intro call c found
    rw [calls] at found
    refine (h.calls call c found).imp ?_ fun job _ => due job
    intro load l there
    rw [loads]
    exact getElem?_kept there _
  · intro load l found
    rw [loads] at found
    rcases getElem?_snoc found with old | ⟨rfl, rfl⟩
    · exact (h.loads load l old).imp (due _)
    · refine .inl ?_
      rw [ready]
      exact List.mem_append_right _ List.mem_cons_self

theorem waitsFor_iff {load call : Nat} :
    s.waitsFor load call = true ↔
      ∃ request number, s.calls[call]? = some ⟨request, .suspended load number⟩ := by
  rw [waitsFor]
  split
  · next request other number here =>
    constructor
    · intro same
      rw [beq_iff_eq.mp same] at here
      exact ⟨request, number, here⟩
    · rintro ⟨_, _, there⟩
      rw [here] at there
      cases there
      exact beq_self_eq_true load
  · next other =>
    refine iff_of_false Bool.false_ne_true ?_
    rintro ⟨request, number, here⟩
    exact other request load number here

theorem mem_waiters {load call number : Nat} {request : Request}
    (here : s.calls[call]? = some ⟨request, .suspended load number⟩) :
    call ∈ s.waiters load := by
  refine List.mem_filter.mpr ⟨List.mem_range.mpr ?_, waitsFor_iff.mpr ⟨request, number, here⟩⟩
  exact (List.getElem?_eq_some_iff.mp here).1

/-- A job that runs is not due any more when its load has gone on. The calls that wait for a
load that ends are to be told. -/
theorem Scheduled.setStage (h : s.Scheduled running) {load : Nat} {target : Target}
    {before next : Stage} (here : s.loads[load]? = some ⟨target, before⟩)
    (mine : ∀ job, running = some job → job = .run load) (due : s.LoadDue none load next)
    (told : next.isOpen = false → ∀ call ∈ s.waiters load, .deliver load call ∈ s.ready) :
    (s.setStage load next).Scheduled none := by
  have kept {job : Job} (notMine : job ≠ .run load) (due : s.Due running job) :
      (s.setStage load next).Due none job :=
    due.imp id fun runs => absurd (mine job runs) notMine
  refine ⟨?_, ?_, ?_⟩
  · intro other l found
    rcases setStage_cases here rfl found with ⟨rfl, rfl⟩ | ⟨-, there⟩
    · have source := h.sources other _ here
      exact source
    · exact h.sources other l there
  · intro call c found
    have before := h.calls call c found
    obtain ⟨request, phase⟩ := c
    cases phase with
    | created => exact kept (by rintro ⟨⟩) before
    | waking number wake => exact kept (by rintro ⟨⟩) before
    | suspended awaited number =>
      by_cases same : awaited = load
      · subst same
        refine ⟨target, next, setStage_self here rfl, fun done => ?_⟩
        exact .inl (told done call (mem_waiters found))
      · obtain ⟨sort, stage, there, tell⟩ := before
        refine ⟨sort, stage, (setStage_of_ne rfl same).trans there, fun done => ?_⟩
        exact kept (by rintro ⟨⟩) (tell done)
    | ended outcome => trivial
  · intro other l found
    rcases setStage_cases here rfl found with ⟨rfl, rfl⟩ | ⟨differ, there⟩
    · exact due.imp id
    · refine (h.loads other l there).imp (kept ?_)
      rintro ⟨⟩
      exact differ rfl

theorem Scheduled.ending (h : s.Scheduled running) {load : Nat} {target : Target} {before : Stage}
    (here : s.loads[load]? = some ⟨target, before⟩)
    (mine : ∀ job, running = some job → job = .run load) (outcome : Except Failure Unit) :
    (s.ending load outcome).Scheduled none := by
  refine (h.enqueue ((s.waiters load).map (Job.deliver load))).setStage here mine trivial ?_
  intro _ call waits
  exact List.mem_append_right _ (List.mem_map_of_mem waits)

end

theorem Scheduled.idle {s : State} {job : Job} (h : s.Scheduled (some job)) (nothing : s.Idle job) :
    s.Scheduled none := by
  have queued {other : Job} (due : s.Due (some job) other) (busy : ¬ s.Idle other) :
      s.Due none other := by
    rcases due with there | runs
    · exact .inl there
    · exact absurd (Option.some.inj runs ▸ nothing) busy
  refine ⟨h.sources, ?_, ?_⟩
  · intro call c found
    have due := h.calls call c found
    obtain ⟨request, phase⟩ := c
    cases phase with
    | created => exact queued due fun idle => by cases idle _ found
    | waking number wake => exact queued due fun idle => by cases idle _ found
    | suspended load number =>
      obtain ⟨target, stage, there, told⟩ := due
      refine ⟨target, stage, there, fun done => queued (told done) fun idle => ?_⟩
      cases stage with
      | ended outcome => exact idle request number target outcome found there
      | created | held | released => cases done
    | ended outcome => trivial
  · intro load l found
    have due := h.loads load l found
    obtain ⟨target, stage⟩ := l
    cases stage with
    | created =>
      refine queued due fun idle => ?_
      have source := h.sources load _ found
      rw [(idle target _ found).1 rfl] at source
      cases source
    | released requests answer =>
      exact queued due fun idle => (idle target _ found).2 requests answer rfl
    | held | ended => trivial

theorem Scheduled.perform {s : State} {job : Job} (h : s.Scheduled (some job))
    (tracked : s.Tracked) : (s.perform job).Scheduled none := by
  have step := perform_jobStep s job
  have concluded {call : Nat} {request : Request} {before : Phase}
      (h : s.Scheduled (some (.advance call))) (here : s.calls[call]? = some ⟨request, before⟩)
      (outcome : Except Failure Reply) : (s.setPhase call (.ended outcome)).Scheduled none :=
    h.setPhase here (fun _ runs => Option.some.inj runs ▸ rfl) trivial
  cases step with
  | idle job nothing same => exact (h.idle nothing).congr same
  | refused call request outcome here unwanted same => exact (concluded h here outcome).congr same
  | joined call request load number target here demand wanted flight same =>
    obtain ⟨other, stage, there, isOpen, -⟩ := tracked.held target load flight
    refine (h.setPhase here (fun _ runs => Option.some.inj runs ▸ rfl) ?_).congr same
    exact ⟨other, stage, there, fun done => by rw [isOpen] at done; cases done⟩
  | created call request number target here demand wanted free same =>
    have source : s.hasSource target = true := by
      cases target <;> exact (Bool.and_eq_true_iff.mp wanted).2
    have calls : (s.createLoad target).calls = s.calls := (createLoad_sameCalls s target).calls
    refine ((h.createLoad source).setPhase (calls ▸ here)
      (fun _ runs => Option.some.inj runs ▸ rfl) ?_).congr same
    have new : (s.createLoad target).loads[s.loads.length]? = some ⟨target, .created⟩ :=
      List.getElem?_concat_length
    exact ⟨target, .created, new, fun done => by cases done⟩
  | resumed call request number wake outcome here reply same =>
    exact (concluded h here outcome).congr same
  | held load target answer here same =>
    have fetched : (s.fetched target).Scheduled (some (.run load)) := ⟨h.sources, h.calls, h.loads⟩
    have moved : ((s.fetched target).setStage load (.held s.requests answer)).Scheduled none :=
      fetched.setStage here (fun _ runs => (Option.some.inj runs).symm) trivial fun done => by
        cases done
    exact moved.congr same
  | answered load target outcome here same =>
    have fetched : (s.fetched target).Scheduled (some (.run load)) := ⟨h.sources, h.calls, h.loads⟩
    exact (fetched.ending here (fun _ runs => (Option.some.inj runs).symm) outcome).congr same
  | ended load target requests answer outcome here same =>
    exact (h.ending here (fun _ runs => (Option.some.inj runs).symm) outcome).congr same
  | woken load call request number target outcome here done same =>
    refine ((h.enqueue [.advance call]).setPhase here (fun _ runs => Option.some.inj runs ▸ rfl)
      ?_).congr same
    exact .inl (List.mem_append_right _ List.mem_cons_self)

theorem Scheduled.start {s : State} (h : s.Scheduled none) (request : Request) :
    (s.start request).Scheduled none := by
  have queued := h.enqueue [.advance s.calls.length]
  refine ⟨h.sources, ?_, queued.loads⟩
  intro call c found
  rcases getElem?_snoc found with old | ⟨rfl, rfl⟩
  · exact queued.calls call c old
  · exact .inl (List.mem_append_right _ List.mem_cons_self)

theorem Scheduled.release {s : State} (h : s.Scheduled none) (load : Nat) :
    (s.release load).Scheduled none := by
  rw [State.release]
  split
  · next target requests answer here =>
    refine (h.enqueue [.run load]).setStage here (fun _ none => by cases none) ?_ ?_
    · exact .inl (List.mem_append_right _ List.mem_cons_self)
    · intro done
      cases done
  · exact h

theorem Scheduled.cancel {s : State} (h : s.Scheduled none) (call : Nat) :
    (s.cancel call).Scheduled none := by
  rw [State.cancel]
  split
  · next request here =>
    exact h.setPhase here (fun _ none => by cases none) (h.calls call _ here)
  · next request load number here =>
    refine (h.enqueue [.advance call]).setPhase here (fun _ none => by cases none) ?_
    exact .inl (List.mem_append_right _ List.mem_cons_self)
  · next request number wake here =>
    exact h.setPhase here (fun _ none => by cases none) (h.calls call _ here)
  · exact h

theorem Scheduled.handle {s : State} (h : s.Scheduled none) (tracked : s.Tracked) (e : Event) :
    (s.handle e).Scheduled none := by
  cases e with
  | start request => exact h.start request
  | release load => exact h.release load
  | cancel call => exact h.cancel call
  | mark locale names => exact ⟨h.sources, h.calls, h.loads⟩
  | perform job =>
    rw [State.handle]
    split
    · have same : State.Tracked { s with ready := s.ready.erase job } :=
        tracked.of_same rfl rfl fun target => by cases target <;> rfl
      exact (h.dequeued job).perform same
    · exact h

end State

end Localization.Store
