import Localization.Proofs.Store.JobStep

/-! # A store settles

Beside the jobs in the queue, each call has some work before it: to begin, to be handed the
outcome of a load, to be woken. No job makes the work more, and each job that runs leaves the
queue. So the queue gets empty, and then nothing goes on without a release, a cancellation or
a new call.
-/
namespace Localization.Store

def Call.awaits (load : Nat) (c : Call) : Bool :=
  match c.phase with
  | .suspended awaited _ => awaited == load
  | _ => false

namespace State

def total {α : Type} (weight : α → Nat) : List α → Nat
  | [] => 0
  | x :: rest => weight x + total weight rest

/-- The number of jobs that a call in a phase can still cause. -/
def rest (s : State) : Phase → Nat
  | .created => 3
  | .suspended load _ => if s.loads[load]?.all (·.stage.isOpen) then 2 else 1
  | .waking .. | .ended _ => 0

def work (s : State) : Nat := s.ready.length + total (fun c => s.rest c.phase) s.calls

theorem total_modify {α : Type} (f : α → α) (weight : α → Nat) {xs : List α} {i : Nat} {x : α}
    (here : xs[i]? = some x) :
    total weight (xs.modify i f) + weight x = total weight xs + weight (f x) := by
  induction xs generalizing i with
  | nil => cases here
  | cons y others ih =>
    cases i with
    | zero =>
      cases here
      simp only [List.modify_zero_cons, total]
      omega
    | succ i =>
      have h := ih here
      simp only [List.modify_succ_cons, total]
      omega

theorem total_eq_add_countP {α : Type} (p : α → Bool) {first second : α → Nat} (xs : List α)
    (h : ∀ x, first x = second x + if p x then 1 else 0) :
    total first xs = total second xs + xs.countP p := by
  induction xs with
  | nil => rfl
  | cons x others ih =>
    have here := h x
    simp only [total, List.countP_cons]
    omega

theorem length_filter_range {α : Type} (p : α → Bool) (xs : List α) :
    ((List.range xs.length).filter fun i => xs[i]?.any p).length = xs.countP p := by
  induction xs with
  | nil => rfl
  | cons x rest ih =>
    rw [List.length_cons, List.range_succ_eq_map, ← List.countP_eq_length_filter, List.countP_cons,
      List.countP_map, List.countP_cons, ← ih, ← List.countP_eq_length_filter]
    rfl

theorem length_waiters (s : State) (load : Nat) :
    (s.waiters load).length = s.calls.countP (Call.awaits load) := by
  have waits : s.waitsFor load = fun call => s.calls[call]?.any (Call.awaits load) := by
    funext call
    rw [waitsFor]
    rcases s.calls[call]? with _ | ⟨request, phase⟩
    · rfl
    · cases phase <;> rfl
  rw [waiters, waits, length_filter_range]

section

variable {s t : State}

theorem rest_congr (loads : t.loads = s.loads) (phase : Phase) : t.rest phase = s.rest phase := by
  cases phase <;> simp only [rest, loads]

theorem SameWork.work_eq (same : SameWork s t) : t.work = s.work := by
  simp only [work, same.ready, same.calls, rest_congr same.loads]

theorem work_enqueue (s : State) (jobs : List Job) : (s.enqueue jobs).work = s.work + jobs.length := by
  have ready : (s.enqueue jobs).ready = s.ready ++ jobs := rfl
  have calls : (s.enqueue jobs).calls = s.calls := rfl
  simp only [work, ready, calls, List.length_append, rest_congr (t := s.enqueue jobs) (s := s) rfl]
  omega

theorem work_setPhase {call : Nat} {request : Request} {before : Phase}
    (here : s.calls[call]? = some ⟨request, before⟩) (after : Phase) :
    (s.setPhase call after).work + s.rest before = s.work + s.rest after := by
  have sum := total_modify (fun c => { c with phase := after }) (fun c => s.rest c.phase) here
  have rests (phase : Phase) : (s.setPhase call after).rest phase = s.rest phase :=
    rest_congr rfl phase
  have ready : (s.setPhase call after).ready = s.ready := rfl
  simp only [work, rests, ready]
  simp only [setPhase]
  dsimp only at sum
  omega

theorem work_setPhase_le {call : Nat} {request : Request} {before after : Phase}
    (here : s.calls[call]? = some ⟨request, before⟩) (le : s.rest after ≤ s.rest before) :
    (s.setPhase call after).work ≤ s.work := by
  have moved := work_setPhase here after
  omega

theorem rest_suspended_le (s : State) (load number : Nat) :
    s.rest (.suspended load number) ≤ 2 := by
  simp only [rest]
  split <;> omega

theorem work_createLoad (s : State) (target : Target) :
    (s.createLoad target).work = s.work + 1 := by
  have calls : (s.createLoad target).calls = s.calls := (createLoad_sameCalls s target).calls
  have loads : (s.createLoad target).loads = s.loads ++ [⟨target, .created⟩] := rfl
  have ready : (s.createLoad target).ready.length = s.ready.length + 1 := by
    cases target <;> exact List.length_append
  have rests (phase : Phase) : (s.createLoad target).rest phase = s.rest phase := by
    cases phase with
    | suspended load number =>
      by_cases old : load < s.loads.length
      · simp only [rest, loads, List.getElem?_append_left old]
      · have before := List.getElem?_eq_none (Nat.le_of_not_lt old)
        have after : (s.loads ++ [⟨target, .created⟩])[load]?.all (·.stage.isOpen) = true := by
          rw [List.getElem?_append_right (Nat.le_of_not_lt old), List.getElem?_singleton]
          split <;> rfl
        simp only [rest, loads, before, after, Option.all_none]
    | created | waking | ended => rfl
  simp only [work, calls, rests, ready]
  omega

theorem work_setStage {load : Nat} {target : Target} {before after : Stage}
    (here : s.loads[load]? = some ⟨target, before⟩) (wasOpen : before.isOpen = true)
    (isOpen : after.isOpen = true) : (s.setStage load after).work = s.work := by
  have loads := Eq.refl (s.setStage load after).loads
  have rests (phase : Phase) : (s.setStage load after).rest phase = s.rest phase := by
    cases phase with
    | suspended other number =>
      by_cases same : other = load
      · subst same
        simp only [rest, setStage_self here loads, here, Option.all_some, wasOpen, isOpen]
      · simp only [rest, setStage_of_ne loads same]
    | created | waking | ended => rfl
  have calls : (s.setStage load after).calls = s.calls := rfl
  have ready : (s.setStage load after).ready = s.ready := rfl
  simp only [work, calls, ready, rests]

/-- The jobs that a load puts into the queue at its end were counted at the calls that wait for
it. -/
theorem work_ending {load : Nat} {target : Target} {before : Stage}
    (here : s.loads[load]? = some ⟨target, before⟩) (wasOpen : before.isOpen = true)
    (outcome : Except Failure Unit) : (s.ending load outcome).work = s.work := by
  have loads : (s.ending load outcome).loads = (s.setStage load (.ended outcome)).loads := rfl
  have calls : (s.ending load outcome).calls = s.calls := rfl
  have ready : (s.ending load outcome).ready.length = s.ready.length + (s.waiters load).length := by
    simp only [ending, enqueue, setStage, List.length_append, List.length_map]
  have rests (c : Call) :
      s.rest c.phase = (s.ending load outcome).rest c.phase + if c.awaits load then 1 else 0 := by
    obtain ⟨request, phase⟩ := c
    cases phase with
    | suspended other number =>
      by_cases same : other = load
      · subst same
        have closed : Stage.isOpen (.ended outcome) = false := rfl
        simp only [rest, setStage_self here loads, here, Option.all_some, wasOpen, closed,
          Call.awaits, beq_self_eq_true, if_true, Bool.false_eq_true, if_false]
      · simp only [rest, setStage_of_ne loads same, Call.awaits, beq_eq_false_iff_ne.mpr same,
          Bool.false_eq_true, if_false, Nat.add_zero]
    | created | waking | ended => rfl
  have sum := total_eq_add_countP (Call.awaits load) s.calls rests
  have count := length_waiters s load
  simp only [work, calls, ready]
  omega

end

theorem perform_work_le (s : State) (job : Job) : (s.perform job).work ≤ s.work := by
  have step := perform_jobStep s job
  cases step with
  | idle job nothing same => exact Nat.le_of_eq same.work_eq
  | refused call request outcome here unwanted same =>
    exact same.work_eq ▸ work_setPhase_le here (Nat.zero_le _)
  | joined call request load number target here demand wanted flight same =>
    have le := rest_suspended_le s load number
    exact same.work_eq ▸ work_setPhase_le here (Nat.le_succ_of_le le)
  | created call request number target here demand wanted free same =>
    have calls : (s.createLoad target).calls = s.calls := (createLoad_sameCalls s target).calls
    have added := work_createLoad s target
    have moved := work_setPhase (calls ▸ here) (.suspended s.loads.length number)
    have suspended := rest_suspended_le (s.createLoad target) s.loads.length number
    have before : (s.createLoad target).rest .created = 3 := rfl
    rw [same.work_eq]
    omega
  | resumed call request number wake outcome here reply same =>
    exact same.work_eq ▸ work_setPhase_le here (Nat.le_refl 0)
  | held load target answer here same =>
    rw [same.work_eq]
    exact Nat.le_of_eq (work_setStage (s := s.fetched target) here rfl rfl)
  | answered load target outcome here same =>
    rw [same.work_eq]
    exact Nat.le_of_eq (work_ending (s := s.fetched target) here rfl outcome)
  | ended load target requests answer outcome here same =>
    rw [same.work_eq]
    exact Nat.le_of_eq (work_ending here rfl outcome)
  | woken load call request number target outcome here done same =>
    have moved := work_setPhase here (.waking number (.completed outcome))
    have queued := work_enqueue (s.setPhase call (.waking number (.completed outcome))) [.advance call]
    have told : s.rest (.suspended load number) = 1 := by
      simp only [rest, done, Option.all_some]
      rfl
    have awake : s.rest (.waking number (.completed outcome)) = 0 := rfl
    rw [List.length_singleton] at queued
    rw [same.work_eq]
    omega

theorem tick_work_lt {s : State} (busy : s.ready.isEmpty = false) :
    s.tick.value.work < s.work := by
  cases queue : s.ready with
  | nil => simp [queue] at busy
  | cons job later =>
    have ran := perform_work_le { s with ready := later } job
    have taken : State.work { s with ready := later } + 1 = s.work := by
      have rests (phase : Phase) : State.rest { s with ready := later } phase = s.rest phase :=
        rest_congr rfl phase
      simp only [work, rests, queue, List.length_cons]
      omega
    have value : s.tick.value = State.perform { s with ready := later } job := by
      simp [tick, queue]
    rw [value]
    omega

theorem settleWithin_ready {fuel : Nat} {s : State} (enough : s.work ≤ fuel) :
    (settleWithin fuel s).value.ready = [] := by
  have settled {s : State} (empty : s.work = 0) : s.ready = [] :=
    List.length_eq_zero_iff.mp (Nat.eq_zero_of_add_eq_zero_right empty)
  induction fuel generalizing s with
  | zero => exact settled (Nat.le_zero.mp enough)
  | succ fuel ih =>
    rw [settleWithin]
    split
    · next empty => exact List.isEmpty_iff.mp empty
    · next busy =>
      rw [Traced.value_bind]
      have less := tick_work_lt (Bool.eq_false_iff.mpr busy)
      exact ih (by omega)

theorem work_le (s : State) : s.work ≤ s.ready.length + 3 * s.calls.length := by
  have most (c : Call) : s.rest c.phase ≤ 3 := by
    obtain ⟨request, phase⟩ := c
    cases phase with
    | suspended load number => exact Nat.le_succ_of_le (rest_suspended_le s load number)
    | created => exact Nat.le_refl 3
    | waking | ended => exact Nat.zero_le 3
  have sum : total (fun c => s.rest c.phase) s.calls ≤ s.calls.length * 3 := by
    induction s.calls with
    | nil => exact Nat.le_refl 0
    | cons c others ih =>
      have first := most c
      simp only [total, List.length_cons]
      omega
  simp only [work]
  omega

theorem settle_ready (s : State) : s.settle.value.ready = [] :=
  settleWithin_ready (work_le s)

theorem settleWithin_succ {fuel : Nat} {s : State} (enough : s.work ≤ fuel) :
    (settleWithin (fuel + 1) s).value = (settleWithin fuel s).value := by
  induction fuel generalizing s with
  | zero =>
    have empty : s.ready = [] := @settleWithin_ready 0 s enough
    rw [settleWithin, settleWithin, empty]
    rfl
  | succ fuel ih =>
    rw [settleWithin, settleWithin]
    split
    · rfl
    · next busy =>
      have less := tick_work_lt (Bool.eq_false_iff.mpr busy)
      have same := ih (s := s.tick.value) (by omega)
      rw [Traced.value_bind, Traced.value_bind, same]

theorem settleWithin_of_le {fuel : Nat} {s : State} (enough : s.work ≤ fuel) :
    (settleWithin fuel s).value = (settleWithin s.work s).value := by
  induction enough with
  | refl => rfl
  | step le ih => exact (settleWithin_succ le).trans ih

theorem settle_of_empty {s : State} (empty : s.ready = []) : s.settle.value = s := by
  unfold settle
  rw [settleWithin_of_le (work_le s)]
  cases s.work with
  | zero => rfl
  | succ n =>
    rw [settleWithin, empty]
    rfl

theorem settle_tick {s : State} (busy : s.ready.isEmpty = false) :
    s.settle.value = s.tick.value.settle.value := by
  have less := tick_work_lt busy
  unfold settle
  rw [settleWithin_of_le (work_le s), settleWithin_of_le (work_le s.tick.value)]
  cases size : s.work with
  | zero => omega
  | succ n =>
    have same := @settleWithin_of_le n s.tick.value (by omega)
    rw [settleWithin, busy, ← same]
    rfl

end State

end Localization.Store
