import Localization.Proofs.Store.Lockstep

/-! # Calls take their turns

A call that can go on stands in the queue once, and any other one does not stand there. What comes
into the queue comes to its end. So a store that settles runs the jobs that it finds in the queue
before a call goes on that was suspended, and all calls that have been asked for begin among them.
-/
namespace Localization.Store

namespace State

def isActive (s : State) (call : Nat) : Bool := s.calls[call]?.any (·.phase.isActive)

def OneTurn (s : State) : Prop :=
  ∀ call : Nat, s.ready.count (.advance call) = (s.isActive call).toNat

section

variable {s t : State}

theorem IsNew.oneTurn (h : s.IsNew) : s.OneTurn := by
  obtain ⟨-, -, -, -, calls, -, -, ready⟩ := h.blank
  intro call
  simp [isActive, calls, ready]

theorem OneTurn.of_same (h : s.OneTurn) (calls : t.calls = s.calls)
    (ready : ∀ call : Nat, t.ready.count (.advance call) = s.ready.count (.advance call)) :
    t.OneTurn := by
  intro call
  rw [ready, h call, isActive, isActive, calls]

theorem OneTurn.moved (h : s.OneTurn) {call : Nat} {request : Request} {before after : Phase}
    (here : s.calls[call]? = some ⟨request, before⟩)
    (calls : t.calls = (s.setPhase call after).calls)
    (mine : t.ready.count (.advance call) = after.isActive.toNat)
    (others : ∀ other : Nat, other ≠ call →
      t.ready.count (.advance other) = s.ready.count (.advance other)) : t.OneTurn := by
  intro other
  by_cases same : other = call
  · subst same
    rw [mine, isActive, setPhase_self here calls]
    rfl
  · rw [others other same, h other, isActive, isActive, setPhase_of_ne calls same]

theorem OneTurn.mem_iff (h : s.OneTurn) {call : Nat} :
    .advance call ∈ s.ready ↔ s.isActive call = true := by
  rw [← List.count_pos_iff, h call]
  cases s.isActive call <;> simp

theorem OneTurn.not_mem (h : s.OneTurn) {call : Nat} {c : Call} (here : s.calls[call]? = some c)
    (waits : c.phase.isActive = false) : .advance call ∉ s.ready := by
  rw [h.mem_iff, isActive, here]
  simpa using waits

theorem OneTurn.start (h : s.OneTurn) (request : Request) : (s.start request).OneTurn := by
  intro call
  have calls : (s.start request).calls = s.calls ++ [⟨request, .created⟩] := rfl
  show (s.ready ++ [Job.advance s.calls.length]).count _ = _
  rw [List.count_append, h call, isActive, isActive, calls]
  by_cases new : call = s.calls.length
  · subst new
    simp [Phase.isActive]
  · have apart : Job.advance call ∉ [Job.advance s.calls.length] := by simpa using new
    have same : (s.calls ++ [⟨request, .created⟩])[call]? = s.calls[call]? := by
      by_cases old : call < s.calls.length
      · exact List.getElem?_append_left old
      · have grown : (s.calls ++ [Call.mk request .created]).length ≤ call := by
          rw [List.length_append, List.length_singleton]
          omega
        rw [List.getElem?_eq_none grown, List.getElem?_eq_none (Nat.le_of_not_lt old)]
    rw [same, List.count_eq_zero_of_not_mem apart]
    rfl

theorem OneTurn.cancel (h : s.OneTurn) (call : Nat) : (s.cancel call).OneTurn := by
  rw [State.cancel]
  split
  · next request here =>
    refine h.moved here rfl ?_ fun _ _ => rfl
    exact (h call).trans (by rw [isActive, here]; rfl)
  · next request load number here =>
    refine h.moved here rfl ?_ ?_
    · show (s.ready ++ [Job.advance call]).count _ = _
      rw [List.count_append, h call, isActive, here, List.count_singleton_self]
      rfl
    · intro other differ
      show (s.ready ++ [Job.advance call]).count _ = _
      have apart : Job.advance other ∉ [Job.advance call] := by simpa using differ
      rw [List.count_append, List.count_eq_zero_of_not_mem apart]
      rfl
  · next request number wake here =>
    refine h.moved here rfl ?_ fun _ _ => rfl
    exact (h call).trans (by rw [isActive, here]; rfl)
  · exact h

theorem OneTurn.perform (h : s.OneTurn) {job : Job} (queued : job ∈ s.ready) :
    (State.perform { s with ready := s.ready.erase job } job).OneTurn := by
  have step := perform_jobStep { s with ready := s.ready.erase job } job
  generalize State.perform { s with ready := s.ready.erase job } job = t at step
  -- The turn of a call is over with its job.
  have passed {call : Nat} {request : Request} {before after : Phase} {jobs : List Job}
      (mine : job = .advance call) (here : s.calls[call]? = some ⟨request, before⟩)
      (calls : t.calls = (s.setPhase call after).calls) (waits : after.isActive = false)
      (ready : t.ready = s.ready.erase job ++ jobs)
      (noTurn : ∀ other : Nat, Job.advance other ∉ jobs) : t.OneTurn := by
    subst mine
    refine h.moved here calls ?_ ?_
    · rw [ready, List.count_append, List.count_erase_self, List.count_eq_zero_of_not_mem (noTurn call),
        h call, h.mem_iff.mp queued, waits]
      rfl
    · intro other differ
      have apart : Job.advance other ≠ .advance call := by simpa using differ
      rw [ready, List.count_append, List.count_eq_zero_of_not_mem (noTurn other),
        List.count_erase_of_ne apart]
      rfl
  -- A job of a load gives no call a turn.
  have told {jobs : List Job} (apart : ∀ other : Nat, Job.advance other ≠ job)
      (calls : t.calls = s.calls) (ready : t.ready = s.ready.erase job ++ jobs)
      (noTurn : ∀ other : Nat, Job.advance other ∉ jobs) : t.OneTurn := by
    refine h.of_same calls fun other => ?_
    rw [ready, List.count_append, List.count_eq_zero_of_not_mem (noTurn other),
      List.count_erase_of_ne (apart other)]
    rfl
  have none (other : Nat) : Job.advance other ∉ ([] : List Job) := List.not_mem_nil
  have deliveries (load : Nat) (waiting : List Nat) (other : Nat) :
      Job.advance other ∉ waiting.map (Job.deliver load) := by
    simp
  cases step with
  | idle _ nothing same =>
    refine told ?_ same.calls (by rw [same.ready, List.append_nil]) none
    rintro call rfl
    have active := h.mem_iff.mp queued
    cases here : s.calls[call]? with
    | none => simp [isActive, here] at active
    | some c =>
      rw [isActive, here, Option.any_some, nothing c here] at active
      cases active
  | refused call request outcome here unwanted same =>
    exact passed rfl here same.calls rfl (by rw [same.ready, List.append_nil]; rfl) none
  | joined call request load number target here demand wanted flight same =>
    exact passed rfl here same.calls rfl (by rw [same.ready, List.append_nil]; rfl) none
  | created call request number target here demand wanted free same =>
    have calls : t.calls = (s.setPhase call (.suspended s.loads.length number)).calls := by
      rw [same.calls]
      cases target <;> rfl
    have ready : t.ready = s.ready.erase (.advance call) ++ [.run s.loads.length] := by
      rw [same.ready]
      cases target <;> rfl
    exact passed rfl here calls rfl ready (by simp)
  | resumed call request number wake outcome here reply same =>
    exact passed rfl here same.calls rfl (by rw [same.ready, List.append_nil]; rfl) none
  | held load target answer here same =>
    exact told (by simp) same.calls (by rw [same.ready, List.append_nil]; rfl) none
  | answered load target outcome here same =>
    exact told (by simp) same.calls same.ready (deliveries load _)
  | ended load target requests answer outcome here same =>
    exact told (by simp) same.calls same.ready (deliveries load _)
  | woken load call request number target outcome here done same =>
    have idle : s.isActive call = false := by rw [isActive, here]; rfl
    refine h.moved here same.calls ?_ ?_
    · rw [same.ready]
      show (s.ready.erase (.deliver load call) ++ [Job.advance call]).count _ = _
      rw [List.count_append, List.count_erase_of_ne (by simp), h call, idle, List.count_singleton_self]
      rfl
    · intro other differ
      rw [same.ready]
      show (s.ready.erase (.deliver load call) ++ [Job.advance call]).count _ = _
      have apart : Job.advance other ∉ [Job.advance call] := by simpa using differ
      rw [List.count_append, List.count_erase_of_ne (by simp), List.count_eq_zero_of_not_mem apart]
      rfl

theorem OneTurn.handle (h : s.OneTurn) (e : Event) : (s.handle e).OneTurn := by
  cases e with
  | start request => exact h.start request
  | cancel call => exact h.cancel call
  | mark locale names => exact h.of_same rfl fun _ => rfl
  | release load =>
    simp only [State.handle, release]
    split
    · refine h.of_same rfl fun call => ?_
      have apart : Job.advance call ∉ [Job.run load] := by simp
      show (s.ready ++ [Job.run load]).count _ = _
      rw [List.count_append, List.count_eq_zero_of_not_mem apart]
      rfl
    · exact h
  | perform job =>
    simp only [State.handle]
    split
    · next queued => exact h.perform queued
    · exact h

theorem IsNew.oneTurn_after (h : s.IsNew) (events : List Event) : (s.after events).OneTurn :=
  after_induction (fun _ e oneTurn => oneTurn.handle e) h.oneTurn events

theorem perform_ready (s : State) (job : Job) :
    ∃ added, (s.perform job).ready = s.ready ++ added := by
  have step := perform_jobStep s job
  generalize s.perform job = t at step
  cases step with
  | idle _ nothing same => exact ⟨[], by rw [same.ready, List.append_nil]⟩
  | refused call request outcome here unwanted same =>
    exact ⟨[], by rw [same.ready, List.append_nil]; rfl⟩
  | joined call request load number target here demand wanted flight same =>
    exact ⟨[], by rw [same.ready, List.append_nil]; rfl⟩
  | created call request number target here demand wanted free same =>
    refine ⟨[.run s.loads.length], ?_⟩
    rw [same.ready]
    cases target <;> rfl
  | resumed call request number wake outcome here reply same =>
    exact ⟨[], by rw [same.ready, List.append_nil]; rfl⟩
  | held load target answer here same => exact ⟨[], by rw [same.ready, List.append_nil]; rfl⟩
  | answered load target outcome here same => exact ⟨_, same.ready⟩
  | ended load target requests answer outcome here same => exact ⟨_, same.ready⟩
  | woken load call request number target outcome here done same => exact ⟨_, same.ready⟩

theorem handle_ready {e : Event} (outside : ∀ job, e ≠ .perform job) :
    ∃ added, (s.handle e).ready = s.ready ++ added := by
  cases e with
  | start request => exact ⟨_, rfl⟩
  | mark locale names => exact ⟨[], (List.append_nil _).symm⟩
  | perform job => exact absurd rfl (outside job)
  | release load =>
    simp only [State.handle, release]
    split
    · exact ⟨_, rfl⟩
    · exact ⟨[], (List.append_nil _).symm⟩
  | cancel call =>
    simp only [State.handle, State.cancel]
    split
    · exact ⟨[], (List.append_nil _).symm⟩
    · exact ⟨_, rfl⟩
    · exact ⟨[], (List.append_nil _).symm⟩
    · exact ⟨[], (List.append_nil _).symm⟩

theorem after_ready {inputs : List Event} (outside : ∀ job, .perform job ∉ inputs) :
    ∃ added, (s.after inputs).ready = s.ready ++ added := by
  induction inputs generalizing s with
  | nil => exact ⟨[], (List.append_nil _).symm⟩
  | cons e rest ih =>
    obtain ⟨first, now⟩ := handle_ready (s := s) (e := e) fun job same =>
      outside job (same ▸ List.mem_cons_self)
    obtain ⟨second, later⟩ := ih (s := s.handle e) fun job inside =>
      outside job (List.mem_cons_of_mem e inside)
    refine ⟨first ++ second, ?_⟩
    rw [after_cons, later, now, List.append_assoc]

theorem handle_front {job : Job} {rest : List Job} (queue : s.ready = job :: rest) :
    ∃ added, (s.handle (.perform job)).ready = rest ++ added := by
  have queued : job ∈ s.ready := by rw [queue]; exact List.mem_cons_self
  obtain ⟨added, ready⟩ := perform_ready { s with ready := s.ready.erase job } job
  refine ⟨added, ?_⟩
  simp only [State.handle, if_pos queued]
  rw [ready, queue, List.erase_cons_head]

theorem settle_front {jobs rest : List Job} (queue : s.ready = jobs ++ rest) :
    s.settle.value = (s.after (jobs.map .perform)).settle.value := by
  induction jobs generalizing s rest with
  | nil => rfl
  | cons job jobs ih =>
    obtain ⟨settled, -⟩ := settle_cons queue
    obtain ⟨added, ready⟩ := handle_front queue
    rw [settled]
    exact ih (ready.trans (List.append_assoc ..))

theorem length_calls_le (s : State) (e : Event) : s.calls.length ≤ (s.handle e).calls.length := by
  have step := handle_callStep s e
  generalize s.opened? e = opened at step
  cases step with
  | still same => exact Nat.le_of_eq (congrArg List.length same.calls).symm
  | asked request calls => simp [calls]
  | opened call locale lazy phase here calls => simp [calls, setPhase]
  | switched call locale lazy here calls => simp [calls, setPhase]
  | moved call request before after here calls => simp [calls, setPhase]

theorem begin_hasBegun {call : Nat} {request : Request}
    (here : s.calls[call]? = some ⟨request, .created⟩) :
    (s.begin call request).hasBegun call = true := by
  have step := begin_jobStep here
  generalize s.begin call request = t at step ⊢
  have begun {u : State} {phase : Phase} (there : u.calls[call]? = some ⟨request, .created⟩)
      (same : SameWork (u.setPhase call phase) t) (goes : phase ≠ .created) :
      t.hasBegun call = true :=
    hasBegun_iff.mpr ⟨_, setPhase_self there same.calls, goes⟩
  cases step with
  | idle _ nothing same => cases nothing _ here
  | refused _ _ outcome there unwanted same => exact begun here same (by simp)
  | joined _ _ load number target there demand wanted flight same => exact begun here same (by simp)
  | created _ _ number target there demand wanted free same =>
    exact begun ((createLoad_sameCalls s target).calls ▸ here) same (by simp)
  | resumed _ _ number wake outcome there => cases here.symm.trans there

theorem handle_begins {call : Nat} (asked : call < s.calls.length)
    (queued : .advance call ∈ s.ready) :
    (s.handle (.perform (.advance call))).hasBegun call = true := by
  have here := List.getElem?_eq_getElem asked
  generalize s.calls[call] = c at here
  by_cases new : c.phase = .created
  · obtain ⟨request, phase⟩ := c
    cases new
    simp only [State.handle, if_pos queued, perform, advance, here]
    exact begin_hasBegun (s := { s with ready := s.ready.erase (.advance call) }) here
  · exact handle_hasBegun (hasBegun_iff.mpr ⟨c, here, new⟩) _

theorem begun_of_front {jobs rest : List Job} (queue : s.ready = jobs ++ rest) {call : Nat}
    (asked : call < s.calls.length) (turn : .advance call ∈ jobs) :
    (s.after (jobs.map .perform)).hasBegun call = true := by
  induction jobs generalizing s rest with
  | nil => cases turn
  | cons job jobs ih =>
    rw [List.map_cons, after_cons]
    rcases List.mem_cons.mp turn with rfl | later
    · have queued : .advance call ∈ s.ready := by rw [queue]; exact List.mem_cons_self
      exact after_hasBegun (handle_begins asked queued) _
    · obtain ⟨added, ready⟩ := handle_front queue
      have still := Nat.lt_of_lt_of_le asked (length_calls_le s (.perform job))
      exact ih (ready.trans (List.append_assoc ..)) still later

end

end State

end Localization.Store
