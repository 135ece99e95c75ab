import Localization.Proofs.Store.LoadStep

/-! # What a job does

A job has nothing to do, or it takes one call or one load to its next phase or stage. It may
call a source, and it may put further jobs into the queue. What a job leaves is said here
entirely, but for the catalogs, the active locale and the tables of the loads in flight.
-/
namespace Localization.Store

def Phase.isActive : Phase → Bool
  | created | waking .. => true
  | _ => false

def Stage.isCalled : Stage → Bool
  | created => false
  | _ => true

def Wake.outcome : Wake → Except Failure Unit
  | cancelled => .error .cancelled
  | completed outcome => outcome

def replyTo (outcome : Except Failure Unit) : Except Failure Reply := outcome.map fun _ => .loaded

namespace State

/-- The target of the load that a request may need. -/
def demand? (s : State) : Request → Option Target
  | .setLocale locale lazy => if lazy then some (.catalog locale) else none
  | .loadLocale locale => some (.catalog locale)
  | .loadNamespace name requested => some (.addition (s.localeFor requested) name)

/-- The second state has the calls, the loads, the queue and the sources of the first one. -/
structure SameWork (s t : State) : Prop where
  calls : t.calls = s.calls
  loads : t.loads = s.loads
  fetches : t.fetches = s.fetches
  ready : t.ready = s.ready
  sources : t.sources = s.sources
  additions : t.additions = s.additions

def fetched (s : State) (target : Target) : State := { s with fetches := s.fetches ++ [target] }

def ending (s : State) (load : Nat) (outcome : Except Failure Unit) : State :=
  (s.setStage load (.ended outcome)).enqueue ((s.waiters load).map (Job.deliver load))

def Idle (s : State) : Job → Prop
  | .advance call => ∀ c, s.calls[call]? = some c → c.phase.isActive = false
  | .run load => ∀ target stage, s.loads[load]? = some ⟨target, stage⟩ →
      (stage = .created → s.hasSource target = false) ∧
        ∀ requests answer, stage ≠ .released requests answer
  | .deliver load call => ∀ request number target outcome,
      s.calls[call]? = some ⟨request, .suspended load number⟩ →
      s.loads[load]? ≠ some ⟨target, .ended outcome⟩

inductive JobStep (s t : State) : Job → Prop
  | idle (job : Job) (nothing : s.Idle job) (same : SameWork s t) : JobStep s t job
  | refused (call : Nat) (request : Request) (outcome : Except Failure Reply)
      (here : s.calls[call]? = some ⟨request, .created⟩)
      (unwanted : ∀ target, s.demand? request = some target → s.wants target = false)
      (same : SameWork (s.setPhase call (.ended outcome)) t) : JobStep s t (.advance call)
  | joined (call : Nat) (request : Request) (load number : Nat) (target : Target)
      (here : s.calls[call]? = some ⟨request, .created⟩) (demand : s.demand? request = some target)
      (wanted : s.wants target = true) (flight : s.inFlight? target = some load)
      (same : SameWork (s.setPhase call (.suspended load number)) t) : JobStep s t (.advance call)
  | created (call : Nat) (request : Request) (number : Nat) (target : Target)
      (here : s.calls[call]? = some ⟨request, .created⟩) (demand : s.demand? request = some target)
      (wanted : s.wants target = true) (free : s.inFlight? target = none)
      (same : SameWork ((s.createLoad target).setPhase call (.suspended s.loads.length number)) t) :
      JobStep s t (.advance call)
  | resumed (call : Nat) (request : Request) (number : Nat) (wake : Wake)
      (outcome : Except Failure Reply)
      (here : s.calls[call]? = some ⟨request, .waking number wake⟩)
      (reply : (∀ locale lazy, request ≠ .setLocale locale lazy) → outcome = replyTo wake.outcome)
      (same : SameWork (s.setPhase call (.ended outcome)) t) : JobStep s t (.advance call)
  | held (load : Nat) (target : Target) (answer : Except String Value)
      (here : s.loads[load]? = some ⟨target, .created⟩)
      (same : SameWork ((s.fetched target).setStage load (.held s.requests answer)) t) :
      JobStep s t (.run load)
  | answered (load : Nat) (target : Target) (outcome : Except Failure Unit)
      (here : s.loads[load]? = some ⟨target, .created⟩)
      (same : SameWork ((s.fetched target).ending load outcome) t) : JobStep s t (.run load)
  | ended (load : Nat) (target : Target) (requests : Nat) (answer : Except String Value)
      (outcome : Except Failure Unit)
      (here : s.loads[load]? = some ⟨target, .released requests answer⟩)
      (same : SameWork (s.ending load outcome) t) : JobStep s t (.run load)
  | woken (load call : Nat) (request : Request) (number : Nat) (target : Target)
      (outcome : Except Failure Unit)
      (here : s.calls[call]? = some ⟨request, .suspended load number⟩)
      (done : s.loads[load]? = some ⟨target, .ended outcome⟩)
      (same : SameWork
        ((s.setPhase call (.waking number (.completed outcome))).enqueue [.advance call]) t) :
      JobStep s t (.deliver load call)

theorem SameWork.refl (s : State) : SameWork s s := ⟨rfl, rfl, rfl, rfl, rfl, rfl⟩

theorem switch_sameWork (s : State) (call number : Nat) (locale : String) :
    ∃ outcome, SameWork (s.setPhase call (.ended outcome)) (s.switch call number locale) := by
  rw [switch]
  split
  · exact ⟨_, rfl, rfl, rfl, rfl, rfl, rfl⟩
  · exact ⟨_, .refl _⟩

theorem join_jobStep {s : State} {call : Nat} {request : Request} {target : Target}
    (here : s.calls[call]? = some ⟨request, .created⟩) (demand : s.demand? request = some target)
    (wanted : s.wants target = true) (requests number : Nat) :
    JobStep s ({ s with requests }.join call number target) (.advance call) := by
  have flight : State.inFlight? { s with requests } target = s.inFlight? target := by
    cases target <;> rfl
  rw [join, flight]
  cases found : s.inFlight? target with
  | some load =>
    exact .joined call request load number target here demand wanted found ⟨rfl, rfl, rfl, rfl, rfl, rfl⟩
  | none =>
    refine .created call request number target here demand wanted found ?_
    cases target <;> exact ⟨rfl, rfl, rfl, rfl, rfl, rfl⟩

theorem begin_setLocale_jobStep {s : State} {call : Nat} {locale : String} {lazy : Bool}
    (here : s.calls[call]? = some ⟨.setLocale locale lazy, .created⟩) :
    JobStep s (s.begin call (.setLocale locale lazy)) (.advance call) := by
  have only {target : Target} (demand : s.demand? (.setLocale locale lazy) = some target) :
      lazy = true ∧ target = .catalog locale := by
    cases lazy <;> cases demand
    exact ⟨rfl, rfl⟩
  simp only [begin]
  split
  · next has =>
    obtain ⟨outcome, same⟩ := switch_sameWork { s with requests := s.requests + 1 } call
      (s.requests + 1) locale
    refine .refused call _ outcome here ?_
      ⟨same.calls, same.loads, same.fetches, same.ready, same.sources, same.additions⟩
    intro target demand
    obtain ⟨-, rfl⟩ := only demand
    simp [wants, has]
  · next missing =>
    split
    · next loadable =>
      obtain ⟨rfl, loadable⟩ := Bool.and_eq_true_iff.mp loadable
      have source : s.hasSource (.catalog locale) = true := loadable
      exact join_jobStep here rfl (by simpa [wants, missing] using source) _ _
    · next unloadable =>
      refine .refused call _ _ here ?_ ⟨rfl, rfl, rfl, rfl, rfl, rfl⟩
      intro target demand
      obtain ⟨rfl, rfl⟩ := only demand
      have noSource : ¬ s.hasSource (.catalog locale) = true :=
        fun source => unloadable (Bool.and_eq_true_iff.mpr ⟨rfl, source⟩)
      simp [wants, noSource]

theorem begin_jobStep {s : State} {call : Nat} {request : Request}
    (here : s.calls[call]? = some ⟨request, .created⟩) :
    JobStep s (s.begin call request) (.advance call) := by
  cases request with
  | setLocale locale lazy => exact begin_setLocale_jobStep here
  | loadLocale locale =>
    simp only [begin]
    split
    · next has =>
      refine .refused call _ _ here ?_ (.refl _)
      rintro target ⟨⟩
      simp [wants, has]
    · next missing =>
      split
      · next source => exact join_jobStep here rfl (by simpa [wants, missing] using source) _ 0
      · next noSource =>
        refine .refused call _ _ here ?_ (.refl _)
        rintro target ⟨⟩
        simp [wants, noSource]
  | loadNamespace name requested =>
    simp only [begin]
    split
    · next done =>
      refine .refused call _ _ here ?_ (.refl _)
      rintro target ⟨⟩
      rcases Bool.or_eq_true_iff.mp done with merged | noSource
      · simp [wants, merged]
      · simpa [wants] using fun _ => noSource
    · next missing => exact join_jobStep here rfl (by simpa [wants] using missing) _ 0

theorem resume_jobStep {s : State} {call number : Nat} {request : Request} {wake : Wake}
    (here : s.calls[call]? = some ⟨request, .waking number wake⟩) :
    JobStep s (s.resume call number request wake) (.advance call) := by
  have resumed {t : State} {outcome : Except Failure Reply}
      (reply : (∀ locale lazy, request ≠ .setLocale locale lazy) → outcome = replyTo wake.outcome)
      (same : SameWork (s.setPhase call (.ended outcome)) t) : JobStep s t (.advance call) :=
    .resumed call request number wake outcome here reply same
  rw [resume.eq_def]
  split
  · exact resumed (fun _ => rfl) (.refl _)
  · next locale lazy =>
    obtain ⟨outcome, same⟩ := switch_sameWork s call number locale
    exact resumed (fun other => absurd rfl (other locale lazy)) same
  · next locale lazy => exact resumed (fun other => absurd rfl (other locale lazy)) (.refl _)
  · exact resumed (fun _ => rfl) (.refl _)
  · exact resumed (fun _ => rfl) (.refl _)

theorem advance_jobStep (s : State) (call : Nat) : JobStep s (s.advance call) (.advance call) := by
  rw [advance]
  split
  · next request here => exact begin_jobStep here
  · next request number wake here => exact resume_jobStep here
  · next notCreated notWaking =>
    refine .idle _ ?_ (.refl s)
    rintro ⟨request, phase⟩ here
    cases phase with
    | created => exact absurd here (notCreated request)
    | waking number wake => exact absurd here (notWaking request number wake)
    | suspended load number => rfl
    | ended outcome => rfl

theorem deliver_jobStep (s : State) (load call : Nat) :
    JobStep s (s.deliver load call) (.deliver load call) := by
  rw [deliver]
  split
  · next target outcome request other number done here =>
    split
    · next same =>
      subst same
      exact .woken other call request number target outcome here done (.refl _)
    · next differ =>
      refine .idle _ ?_ (.refl s)
      intro _ _ _ _ suspended
      rw [here] at suspended
      cases suspended
      exact absurd rfl differ
  · next notDone =>
    refine .idle _ ?_ (.refl s)
    intro request number target outcome here done
    exact notDone _ _ _ _ _ done here

theorem waiters_congr {s t : State} (calls : t.calls = s.calls) (load : Nat) :
    t.waiters load = s.waiters load := by
  have waits : t.waitsFor load = s.waitsFor load := by
    funext call
    simp only [waitsFor, calls]
  rw [waiters, waits, calls]
  rfl

theorem complete_sameWork (s : State) (load : Nat) (target : Target)
    (answer : Except String Value) :
    SameWork (s.ending load ((messagesOf answer).map fun _ => ())) (s.complete load target answer) := by
  have accepted : SameWork s ((s.accept target (messagesOf answer)).leave target) := by
    cases messagesOf answer <;> cases target <;> exact ⟨rfl, rfl, rfl, rfl, rfl, rfl⟩
  have waiting := waiters_congr accepted.calls load
  refine ⟨accepted.calls, ?_, accepted.fetches, ?_, accepted.sources, accepted.additions⟩
  · show List.modify _ _ _ = List.modify _ _ _
    rw [accepted.loads]
  · show _ ++ _ = _ ++ _
    have same : waiters (((s.accept target (messagesOf answer)).leave target).setStage load
        (.ended ((messagesOf answer).map fun _ => ()))) load = s.waiters load := waiting
    rw [same]
    exact congrArg (· ++ _) accepted.ready

theorem run_jobStep (s : State) (load : Nat) : JobStep s (s.run load) (.run load) := by
  rw [run]
  split
  · next target here =>
    rw [fetch]
    cases found : s.source? target with
    | none =>
      refine .idle _ ?_ (.refl s)
      intro other stage there
      rw [here] at there
      cases there
      refine ⟨fun _ => ?_, fun _ _ same => by cases same⟩
      rw [hasSource, found]
      rfl
    | some source =>
      dsimp only
      split
      · exact .held load target _ here ⟨rfl, rfl, rfl, rfl, rfl, rfl⟩
      · exact .answered load target _ here (complete_sameWork (s.fetched target) load target _)
  · next target requests answer here =>
    exact .ended load target requests answer _ here (complete_sameWork s load target answer)
  · next notCreated notReleased =>
    refine .idle _ ?_ (.refl s)
    intro target stage here
    refine ⟨?_, ?_⟩
    · rintro rfl
      exact absurd here (notCreated target)
    · rintro requests answer rfl
      exact absurd here (notReleased target requests answer)

theorem perform_jobStep (s : State) (job : Job) : JobStep s (s.perform job) job := by
  cases job with
  | advance call => exact advance_jobStep s call
  | run load => exact run_jobStep s load
  | deliver load call => exact deliver_jobStep s load call

end State

end Localization.Store
