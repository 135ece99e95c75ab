import Localization.Proofs.Store.Sharing

/-! # How a load ends

A load that runs calls its source, or it ends with the answer that the source gave. Only such a
run ends a load, and the answer is always one that the source of its target gives to one of its
calls.
-/
namespace Localization.Store

def Stage.answer? : Stage → Option (Except String Value)
  | held _ answer | released _ answer => some answer
  | _ => none

namespace State

inductive RunStep (s : State) (load : Nat) : State → Prop
  | idle (silent : s.answer? load = none) : RunStep s load s
  | held (target : Target) (source : Source) (here : s.loads[load]? = some ⟨target, .created⟩)
      (found : s.source? target = some source) (silent : s.answer? load = none) :
      RunStep s load ((s.fetched target).setStage load
        (.held s.requests (source.answer (s.fetches.count target))))
  | answered (target : Target) (source : Source) (here : s.loads[load]? = some ⟨target, .created⟩)
      (found : s.source? target = some source)
      (ends : s.answer? load = some (target, source.answer (s.fetches.count target))) :
      RunStep s load
        ((s.fetched target).complete load target (source.answer (s.fetches.count target)))
  | ended (target : Target) (requests : Nat) (answer : Except String Value)
      (here : s.loads[load]? = some ⟨target, .released requests answer⟩)
      (ends : s.answer? load = some (target, answer)) :
      RunStep s load (s.complete load target answer)

theorem run_runStep (s : State) (load : Nat) : RunStep s load (s.run load) := by
  rw [run]
  split
  · next target here =>
    rw [fetch]
    cases found : s.source? target with
    | none => exact .idle (by simp [answer?, here, found])
    | some source =>
      obtain ⟨gated, answer⟩ := source
      cases gated with
      | true => exact .held target _ here found (by simp [answer?, here, found])
      | false => exact .answered target _ here found (by simp [answer?, here, found])
  · next target requests answer here =>
    exact .ended target requests answer here (by simp [answer?, here])
  · next notCreated notReleased =>
    refine .idle ?_
    cases here : s.loads[load]? with
    | none => simp [answer?, here]
    | some l =>
      obtain ⟨target, stage⟩ := l
      cases stage with
      | created => exact absurd here (notCreated target)
      | released requests answer => exact absurd here (notReleased target requests answer)
      | held | ended => simp [answer?, here]

/-- The load that ends with an event, with its target and its answer. -/
def ends? (s : State) : Event → Option (Nat × Target × Except String Value)
  | .perform (.run load) =>
    if .run load ∈ s.ready then (s.answer? load).map fun found => (load, found) else none
  | _ => none

theorem absorbed?_eq (s : State) (e : Event) :
    s.absorbed? e = (s.ends? e).bind fun (_, target, answer) => brought target answer := by
  cases e with
  | perform job =>
    cases job with
    | run load =>
      simp only [absorbed?, ends?]
      split
      · cases s.answer? load <;> rfl
      · rfl
    | advance | deliver => rfl
  | start | release | cancel | mark => rfl

theorem ends?_eq_some {s : State} {e : Event} {load : Nat} {target : Target}
    {answer : Except String Value} (h : s.ends? e = some (load, target, answer)) :
    e = .perform (.run load) ∧ .run load ∈ s.ready ∧ s.answer? load = some (target, answer) := by
  unfold ends? at h
  split at h
  · split at h
    · next queued =>
      obtain ⟨found, given, same⟩ := Option.map_eq_some_iff.mp h
      cases same
      exact ⟨rfl, queued, given⟩
    · cases h
  · cases h

theorem handle_of_ends? {s : State} {e : Event} {load : Nat} {target : Target}
    {answer : Except String Value} (h : s.ends? e = some (load, target, answer)) :
    ∃ (before : Stage) (fetches : List Target), s.loads[load]? = some ⟨target, before⟩ ∧
      before.isOpen = true ∧
      s.handle e = State.complete { s with ready := s.ready.erase (.run load), fetches } load
        target answer := by
  obtain ⟨rfl, queued, given⟩ := ends?_eq_some h
  have given : State.answer? { s with ready := s.ready.erase (.run load) } load =
    some (target, answer) := given
  have step := run_runStep { s with ready := s.ready.erase (.run load) } load
  have ran : s.handle (.perform (.run load)) =
      State.run { s with ready := s.ready.erase (.run load) } load := by
    simp only [State.handle, if_pos queued, perform]
  rw [ran]
  generalize State.run { s with ready := s.ready.erase (.run load) } load = t at step
  cases step with
  | idle silent => rw [silent] at given; cases given
  | held _ source here found silent => rw [silent] at given; cases given
  | answered _ source here found ends =>
    cases ends.symm.trans given
    exact ⟨.created, _, here, rfl, rfl⟩
  | ended _ requests _ here ends =>
    cases ends.symm.trans given
    exact ⟨_, s.fetches, here, rfl, rfl⟩

theorem SameWork.source? {s t : State} (same : SameWork s t) (target : Target) :
    t.source? target = s.source? target := by
  cases target <;> simp only [State.source?, same.sources, same.additions]

theorem handle_source? (s : State) (e : Event) (target : Target) :
    (s.handle e).source? target = s.source? target := by
  cases e with
  | start request => cases target <;> rfl
  | mark locale names => cases target <;> rfl
  | cancel call =>
    simp only [State.handle, cancel]
    split <;> cases target <;> rfl
  | release load =>
    simp only [State.handle, release]
    split <;> cases target <;> rfl
  | perform job =>
    simp only [State.handle]
    split
    · have step := perform_jobStep { s with ready := s.ready.erase job } job
      generalize State.perform { s with ready := s.ready.erase job } job = t at step ⊢
      have dequeued : State.source? { s with ready := s.ready.erase job } target =
          s.source? target := by
        cases target <;> rfl
      rw [← dequeued]
      cases step with
      | idle _ nothing same => exact same.source? target
      | refused _ _ _ _ _ same => rw [same.source?]; cases target <;> rfl
      | joined _ _ _ _ _ _ _ _ _ same => rw [same.source?]; cases target <;> rfl
      | created _ _ _ sort _ _ _ _ same => rw [same.source?]; cases target <;> cases sort <;> rfl
      | resumed _ _ _ _ _ _ _ same => rw [same.source?]; cases target <;> rfl
      | held _ _ _ _ same => rw [same.source?]; cases target <;> rfl
      | answered _ _ _ _ same => rw [same.source?]; cases target <;> rfl
      | ended _ _ _ _ _ _ same => rw [same.source?]; cases target <;> rfl
      | woken _ _ _ _ _ _ _ _ same => rw [same.source?]; cases target <;> rfl
    · rfl

theorem after_source? (s : State) (events : List Event) (target : Target) :
    (s.after events).source? target = s.source? target := by
  induction events generalizing s with
  | nil => rfl
  | cons e rest ih => exact (ih (s.handle e)).trans (handle_source? s e target)

/-- The source of a target gives an answer to one of its calls. -/
def Gives (s : State) (target : Target) (answer : Except String Value) : Prop :=
  ∃ (source : Source) (k : Nat), s.source? target = some source ∧ source.answer k = answer

theorem Gives.handle {s : State} {target : Target} {answer : Except String Value}
    (h : s.Gives target answer) (e : Event) : (s.handle e).Gives target answer := by
  obtain ⟨source, k, found, same⟩ := h
  exact ⟨source, k, (handle_source? s e target).trans found, same⟩

inductive StageStep (s : State) (e : Event) (load : Nat) (target : Target) : Stage → Prop
  | kept (stage : Stage) (here : s.loads[load]? = some ⟨target, stage⟩) :
      StageStep s e load target stage
  | created : StageStep s e load target .created
  | held (requests : Nat) (answer : Except String Value) (gives : s.Gives target answer) :
      StageStep s e load target (.held requests answer)
  | released (requests : Nat) (answer : Except String Value)
      (here : s.loads[load]? = some ⟨target, .held requests answer⟩) :
      StageStep s e load target (.released requests answer)
  | ended (answer : Except String Value) (ends : s.ends? e = some (load, target, answer)) :
      StageStep s e load target (.ended ((messagesOf answer).map fun _ => ()))

theorem run_stageStep {s : State} {other : Nat} (queued : .run other ∈ s.ready) {load : Nat}
    {target : Target} {stage : Stage}
    (there : (State.run { s with ready := s.ready.erase (.run other) } other).loads[load]? =
      some ⟨target, stage⟩) : StageStep s (.perform (.run other)) load target stage := by
  have ends : s.ends? (.perform (.run other)) =
      (s.answer? other).map fun found => (other, found) := by
    simp only [ends?, if_pos queued]
  have step := run_runStep { s with ready := s.ready.erase (.run other) } other
  generalize State.run { s with ready := s.ready.erase (.run other) } other = t at step there
  -- A load that ends is this one, and its answer is the one that it ends with.
  have closed {u : State} {sort : Target} {before : Stage} {answer : Except String Value}
      (there : (u.complete other sort answer).loads[load]? = some ⟨target, stage⟩)
      (loads : u.loads = s.loads) (here : s.loads[other]? = some ⟨sort, before⟩)
      (given : s.answer? other = some (sort, answer)) :
      StageStep s (.perform (.run other)) load target stage := by
    have ended : (u.complete other sort answer).loads =
        (s.setStage other (.ended ((messagesOf answer).map fun _ => ()))).loads := by
      rw [(complete_sameWork u other sort answer).loads]
      simp only [ending, enqueue, setStage, loads]
    rcases setStage_cases here ended there with ⟨rfl, same⟩ | ⟨-, old⟩
    · cases same
      exact .ended answer (by rw [ends, given]; rfl)
    · exact .kept stage old
  cases step with
  | idle => exact .kept stage there
  | held sort source here found =>
    rcases setStage_cases here rfl there with ⟨rfl, same⟩ | ⟨-, old⟩
    · cases same
      refine .held _ _ ⟨source, _, ?_, rfl⟩
      rw [← found]
      cases target <;> rfl
    · exact .kept stage old
  | answered sort source here found given => exact closed there rfl here given
  | ended sort requests answer here given => exact closed there rfl here given

theorem handle_stageStep {s : State} {e : Event} {load : Nat} {target : Target} {stage : Stage}
    (there : (s.handle e).loads[load]? = some ⟨target, stage⟩) :
    StageStep s e load target stage := by
  cases e with
  | start request => exact .kept stage there
  | mark locale names => exact .kept stage there
  | cancel call => exact .kept stage ((cancel_sameLoads s call).loads ▸ there)
  | release other =>
    simp only [State.handle, release] at there
    split at there
    · next sort requests answer here =>
      rcases setStage_cases here rfl there with ⟨rfl, same⟩ | ⟨-, old⟩
      · cases same
        exact .released requests answer here
      · exact .kept stage old
    · exact .kept stage there
  | perform job =>
    simp only [State.handle] at there
    split at there
    · next queued =>
      cases job with
      | run other => exact run_stageStep queued there
      | deliver other call =>
        have same := deliver_sameLoads { s with ready := s.ready.erase (.deliver other call) } other call
        exact .kept stage (same.loads ▸ there)
      | advance call =>
        have step := advance_jobStep { s with ready := s.ready.erase (.advance call) } call
        simp only [perform] at there
        generalize State.advance { s with ready := s.ready.erase (.advance call) } call = t
          at step there
        cases step with
        | idle _ nothing same => exact .kept stage (same.loads ▸ there)
        | refused _ request outcome here unwanted same => exact .kept stage (same.loads ▸ there)
        | joined _ request found number sort here demand wanted flight same =>
          exact .kept stage (same.loads ▸ there)
        | created _ request number sort here demand wanted free same =>
          rw [same.loads] at there
          rcases getElem?_snoc there with old | ⟨-, same⟩
          · exact .kept stage old
          · cases same
            exact .created
        | resumed _ request number wake outcome here reply same =>
          exact .kept stage (same.loads ▸ there)
    · exact .kept stage there

theorem ends?_of_ended {s : State} {e : Event} {load : Nat} {target : Target}
    {outcome : Except Failure Unit}
    (there : (s.handle e).loads[load]? = some ⟨target, .ended outcome⟩) :
    s.loads[load]? = some ⟨target, .ended outcome⟩ ∨
      ∃ answer, s.ends? e = some (load, target, answer) ∧
        outcome = (messagesOf answer).map fun _ => () := by
  have step := handle_stageStep there
  cases step with
  | kept _ here => exact .inl here
  | ended answer ends => exact .inr ⟨answer, ends, rfl⟩

def Answered (s : State) : Prop :=
  ∀ (load : Nat) (target : Target) (stage : Stage) (answer : Except String Value),
    s.loads[load]? = some ⟨target, stage⟩ → stage.answer? = some answer → s.Gives target answer

theorem IsNew.answered {s : State} (h : s.IsNew) : s.Answered := by
  obtain ⟨-, -, -, -, -, loads, -⟩ := h.blank
  intro load target stage answer here
  simp [loads] at here

theorem Answered.handle {s : State} (h : s.Answered) (e : Event) : (s.handle e).Answered := by
  intro load target stage answer there keeps
  have step := handle_stageStep there
  cases step with
  | kept _ here => exact (h load target stage answer here keeps).handle e
  | created => cases keeps
  | held requests given gives =>
    cases keeps
    exact gives.handle e
  | released requests given here => exact (h load target _ answer here keeps).handle e
  | ended given ends => cases keeps

theorem IsNew.answered_after {s : State} (h : s.IsNew) (events : List Event) :
    (s.after events).Answered :=
  after_induction (fun _ e answered => answered.handle e) h.answered events

theorem Answered.gives {s : State} (h : s.Answered) {e : Event} {load : Nat} {target : Target}
    {answer : Except String Value} (ends : s.ends? e = some (load, target, answer)) :
    s.Gives target answer := by
  obtain ⟨-, -, given⟩ := ends?_eq_some ends
  have step := run_runStep s load
  generalize s.run load = t at step
  cases step with
  | idle silent => cases silent.symm.trans given
  | held _ source here found silent => cases silent.symm.trans given
  | answered _ source here found ends =>
    cases ends.symm.trans given
    exact ⟨source, _, found, rfl⟩
  | ended _ requests _ here ends =>
    cases ends.symm.trans given
    exact h load target _ answer here rfl

end State

end Localization.Store
