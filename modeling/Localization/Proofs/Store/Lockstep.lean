import Localization.Proofs.Store.Agreement

/-! # Events keep agreement

An event that does not concern what is watched keeps a state in agreement with the one before it.
The same event in two states that agree leaves two states that agree. So do the jobs of the queues
when both stores settle, although the one may have jobs between that the other one has not.
-/
namespace Localization.Store

namespace State

/-- What is watched is there: the calls have begun, and those that wait do so for watched loads. -/
structure Fits (w : Watch) (s : State) : Prop where
  tracked : s.Tracked
  bound : w.loads ≤ s.loads.length
  begun (call : Nat) : w.calls call = true → s.hasBegun call = true
  awaits (call : Nat) (request : Request) (load number : Nat) : w.calls call = true →
    s.calls[call]? = some ⟨request, .suspended load number⟩ → load < w.loads

section

variable {w : Watch} {s t : State}

theorem hasBegun_iff {call : Nat} :
    s.hasBegun call = true ↔ ∃ c : Call, s.calls[call]? = some c ∧ c.phase ≠ .created := by
  unfold hasBegun
  constructor
  · intro begun
    split at begun
    · cases begun
    · cases begun
    · next c notCreated here =>
      refine ⟨c, here, ?_⟩
      obtain ⟨request, phase⟩ := c
      rintro rfl
      exact notCreated request rfl
  · rintro ⟨⟨request, phase⟩, here, began⟩
    rw [here]
    cases phase with
    | created => exact absurd rfl began
    | suspended | waking | ended => rfl

theorem handle_hasBegun {call : Nat} (h : s.hasBegun call = true) (e : Event) :
    (s.handle e).hasBegun call = true := by
  obtain ⟨c, here, began⟩ := hasBegun_iff.mp h
  have kept {other : Nat} {request : Request} {before after : Phase}
      (there : s.calls[other]? = some ⟨request, before⟩)
      (calls : (s.handle e).calls = (s.setPhase other after).calls) (goes : after ≠ .created) :
      (s.handle e).hasBegun call = true := by
    by_cases same : call = other
    · subst same
      exact hasBegun_iff.mpr ⟨_, setPhase_self there calls, goes⟩
    · exact hasBegun_iff.mpr ⟨c, (setPhase_of_ne calls same).trans here, began⟩
  have step := handle_callStep s e
  generalize s.opened? e = opened at step
  cases step with
  | still same => exact hasBegun_iff.mpr ⟨c, same.calls ▸ here, began⟩
  | asked request calls => exact hasBegun_iff.mpr ⟨c, calls ▸ getElem?_kept here _, began⟩
  | opened other locale lazy phase there calls requests opening =>
    exact kept there calls (by cases opening <;> simp)
  | switched other locale lazy there calls => exact kept there calls (by simp)
  | moved other request before after there calls requests locale passage =>
    exact kept there calls passage.ne_created

theorem after_hasBegun {call : Nat} (h : s.hasBegun call = true) (later : List Event) :
    (s.after later).hasBegun call = true :=
  after_induction (P := fun t => t.hasBegun call = true) (fun _ e begun => handle_hasBegun begun e) h
    later

theorem suspended_before {e : Event} {call load number : Nat} {request : Request}
    (there : (s.handle e).calls[call]? = some ⟨request, .suspended load number⟩) :
    s.calls[call]? = some ⟨request, .created⟩ ∨
      s.calls[call]? = some ⟨request, .suspended load number⟩ := by
  have step := handle_callStep s e
  generalize s.opened? e = opened at step
  cases step with
  | still same => exact .inr (same.calls ▸ there)
  | asked asked calls =>
    rw [calls] at there
    rcases getElem?_snoc there with old | ⟨-, same⟩
    · exact .inr old
    · cases same
  | opened other locale lazy phase here calls =>
    rcases setPhase_cases here calls there with ⟨rfl, same⟩ | ⟨-, old⟩
    · cases same
      exact .inl here
    · exact .inr old
  | switched other locale lazy here calls =>
    rcases setPhase_cases here calls there with ⟨-, same⟩ | ⟨-, old⟩
    · cases same
    · exact .inr old
  | moved other asked before after here calls requests locale passage =>
    rcases setPhase_cases here calls there with ⟨rfl, same⟩ | ⟨-, old⟩
    · cases same
      cases passage with
      | awaited | joined => exact .inl here
    · exact .inr old

theorem Fits.handle (k : Fits w s) (e : Event) : Fits w (s.handle e) := by
  refine ⟨k.tracked.handle e, Nat.le_trans k.bound (length_loads_le s e), ?_, ?_⟩
  · intro call known
    exact handle_hasBegun (k.begun call known) e
  · intro call request load number known there
    rcases suspended_before there with created | before
    · obtain ⟨c, here, began⟩ := hasBegun_iff.mp (k.begun call known)
      cases here.symm.trans created
      exact absurd rfl began
    · exact k.awaits call request load number known before

theorem Fits.after (k : Fits w s) (events : List Event) : Fits w (s.after events) :=
  after_induction (fun _ e fits => fits.handle e) k events

theorem Fits.dequeue (k : Fits w s) (job : Job) :
    Fits w { s with ready := s.ready.erase job } :=
  ⟨k.tracked.of_same rfl rfl fun target => by cases target <;> rfl, k.bound, k.begun, k.awaits⟩

theorem sees_eq_false {call : Nat} (quiet : s.sees w call = false) :
    w.calls call = false ∧ s.hasBegun call = true := by
  unfold sees at quiet
  simpa using quiet

theorem sees_setPhase {call : Nat} {request : Request} {before after : Phase}
    (here : s.calls[call]? = some ⟨request, before⟩) (began : after ≠ .created)
    (unknown : w.calls call = false) : (s.setPhase call after).sees w call = false := by
  unfold sees
  rw [unknown, hasBegun_setPhase began, if_pos rfl, here]
  rfl

def verdict (s : State) (number : Nat) : Request → Wake → Except Failure Reply
  | _, .cancelled => .error .cancelled
  | .setLocale .., .completed (.ok _) => .ok (.changed (decide (number = s.requests)))
  | .setLocale .., .completed (.error _) => .ok (.changed false)
  | _, .completed outcome => replyTo outcome

theorem resume_sameWork (s : State) (call number : Nat) (request : Request) (wake : Wake) :
    SameWork (s.setPhase call (.ended (s.verdict number request wake)))
        (s.resume call number request wake) ∧
      (s.resume call number request wake).requests = s.requests := by
  cases wake with
  | cancelled => exact ⟨.refl _, rfl⟩
  | completed outcome =>
    cases request with
    | setLocale locale lazy =>
      cases outcome with
      | error failure => exact ⟨.refl _, rfl⟩
      | ok _ =>
        simp only [resume, switch, verdict]
        split
        · next latest =>
          refine ⟨?_, rfl⟩
          simp only [latest, decide_true]
          exact ⟨rfl, rfl, rfl, rfl, rfl, rfl⟩
        · next overtaken =>
          refine ⟨?_, rfl⟩
          simp only [overtaken, decide_false]
          exact .refl _
    | loadLocale locale => cases outcome <;> exact ⟨.refl _, rfl⟩
    | loadNamespace name requested => cases outcome <;> exact ⟨.refl _, rfl⟩

theorem begin_requests (s : State) (call : Nat) (request : Request) :
    (s.begin call request).requests =
      s.requests + match request with | .setLocale .. => 1 | _ => 0 := by
  have joined (u : State) (number : Nat) (target : Target) :
      (u.join call number target).requests = u.requests := by
    obtain ⟨load, -, -, requests, -⟩ := join_step u call number target
    exact requests
  cases request with
  | setLocale locale lazy =>
    simp only [begin]
    split
    · simp only [switch, if_true]
      rfl
    · split
      · exact joined _ _ _
      · rfl
  | loadLocale locale =>
    simp only [begin]
    split
    · rfl
    · split
      · exact joined _ _ _
      · rfl
  | loadNamespace name requested =>
    simp only [begin]
    split
    · rfl
    · exact joined _ _ _

theorem agree_complete {load : Nat} (beyond : w.loads ≤ load) (target : Target)
    (answer : Except String Value) : Agree w s (s.complete load target answer) := by
  have ended := complete_sameWork s load target answer
  have requests := (complete_sameCalls s load target answer).requests
  refine ((agree_setStage _ beyond).trans (agree_enqueue ?_)).trans (ended.agree requests w)
  intro job inside
  obtain ⟨call, -, rfl⟩ := List.mem_map.mp inside
  have outside : decide (load < w.loads) = false := decide_eq_false (Nat.not_lt_of_le beyond)
  simp only [watches, outside, Bool.and_false]

theorem Fits.run (k : Fits w s) {load : Nat} (beyond : w.loads ≤ load) :
    Agree w s (s.run load) := by
  -- Two open loads have different targets, so no watched load has this one.
  have apart {target : Target} (here : s.loads[load]? = some ⟨target, .created⟩) (other : Nat)
      (inside : other < w.loads) : s.loads[other]? ≠ some ⟨target, .created⟩ := by
    intro there
    have same := k.tracked.single ⟨_, here, rfl⟩ ⟨_, there, rfl⟩
    omega
  have step := run_runStep s load
  generalize s.run load = t at step
  cases step with
  | idle => exact .refl w s
  | held target source here found => exact (agree_fetched (apart here)).trans (agree_setStage _ beyond)
  | answered target source here found =>
    exact (agree_fetched (apart here)).trans (agree_complete beyond target _)
  | ended target requests answer here => exact agree_complete beyond target answer

theorem Fits.deliver (k : Fits w s) {load call : Nat}
    (quiet : s.watches w (.deliver load call) = false) : Agree w s (s.deliver load call) := by
  rw [State.deliver]
  split
  · next target outcome request other number done here =>
    split
    · next same =>
      subst same
      have unknown : w.calls call = false := by
        refine Bool.eq_false_iff.mpr fun known => ?_
        have inside := k.awaits call request other number known here
        simp [watches, known, inside] at quiet
      refine (agree_setPhase here (by simp) (by simp) unknown).trans (agree_enqueue ?_)
      intro job inside
      rw [List.mem_singleton.mp inside]
      exact sees_setPhase here (by simp) unknown
    · exact .refl w s
  · exact .refl w s

theorem agree_advance {call : Nat} (quiet : s.sees w call = false) :
    Agree w s (s.advance call) := by
  obtain ⟨unknown, begun⟩ := sees_eq_false quiet
  rw [advance]
  split
  · next request here =>
    obtain ⟨c, there, began⟩ := hasBegun_iff.mp begun
    cases here.symm.trans there
    exact absurd rfl began
  · next request number wake here =>
    obtain ⟨same, requests⟩ := resume_sameWork s call number request wake
    have moved : Agree w s (s.setPhase call (.ended (s.verdict number request wake))) :=
      agree_setPhase here (by simp) (by simp) unknown
    exact moved.trans (same.agree requests w)
  · exact .refl w s

theorem agree_cancel {call : Nat} (quiet : s.sees w call = false) : Agree w s (s.cancel call) := by
  obtain ⟨unknown, begun⟩ := sees_eq_false quiet
  rw [cancel]
  split
  · next request here =>
    obtain ⟨c, there, began⟩ := hasBegun_iff.mp begun
    cases here.symm.trans there
    exact absurd rfl began
  · next request load number here =>
    refine (agree_setPhase here (by simp) (by simp) unknown).trans (agree_enqueue ?_)
    intro job inside
    rw [List.mem_singleton.mp inside]
    exact sees_setPhase here (by simp) unknown
  · next request number wake here => exact agree_setPhase here (by simp) (by simp) unknown
  · exact .refl w s

theorem Fits.unseen (k : Fits w s) {e : Event} (quiet : s.concerns w e = false) :
    Agree w s (s.handle e) := by
  cases e with
  | start request => cases quiet
  | release load =>
    have beyond : w.loads ≤ load := by simpa [concerns] using quiet
    simp only [State.handle, release]
    split
    · refine (agree_setStage _ beyond).trans (agree_enqueue ?_)
      intro job inside
      rw [List.mem_singleton.mp inside]
      exact decide_eq_false (Nat.not_lt_of_le beyond)
    · exact .refl w s
  | cancel call => exact agree_cancel quiet
  | mark locale names =>
    have same : SameWork s (s.markMerged locale names) := ⟨rfl, rfl, rfl, rfl, rfl, rfl⟩
    exact same.agree rfl w
  | perform job =>
    simp only [State.handle]
    split
    · refine (agree_dequeue quiet).trans ?_
      cases job with
      | advance call => exact agree_advance (s := { s with ready := _ }) quiet
      | run load =>
        have beyond : w.loads ≤ load := by simpa [concerns, watches] using quiet
        exact (k.dequeue (.run load)).run beyond
      | deliver load call => exact (k.dequeue (.deliver load call)).deliver quiet
    · exact .refl w s

theorem Agree.start (h : Agree w s t) (request : Request) :
    Agree w (s.start request) (t.start request) := by
  have length := h.length_calls
  have grown (v : State) (call : Nat) :
      State.hasBegun { v with calls := v.calls ++ [⟨request, .created⟩] } call =
        v.hasBegun call := by
    unfold hasBegun
    by_cases old : call < v.calls.length
    · rw [List.getElem?_append_left old]
    · have none := List.getElem?_eq_none (Nat.le_of_not_lt old)
      rw [List.getElem?_append_right (Nat.le_of_not_lt old), List.getElem?_singleton, none]
      by_cases last : call - v.calls.length = 0
      · rw [if_pos last]
      · rw [if_neg last]
  have asked : Agree w { s with calls := s.calls ++ [⟨request, .created⟩] }
      { t with calls := t.calls ++ [⟨request, .created⟩] } := by
    refine ⟨h.requests, ?_, h.loads, h.fetches, ?_, ?_, ?_⟩
    · intro target
      have source := h.source target
      cases target <;> exact source
    · intro call
      rw [grown, grown, h.begun]
    · intro call seen
      rw [sees_congr (grown s)] at seen
      show (t.calls ++ _)[call]? = (s.calls ++ _)[call]?
      rw [List.getElem?_append, List.getElem?_append, length, h.calls call seen]
    · rw [watches_congr (grown s), watches_congr (grown t)]
      exact h.ready
  have same : [Job.advance t.calls.length] = [Job.advance s.calls.length] := by rw [length]
  have queued := asked.enqueues (congrArg (List.filter _) same)
  exact queued

theorem Agree.waiters (h : Agree w s t) (load : Nat) :
    (t.waiters load).filter w.calls = (s.waiters load).filter w.calls := by
  rw [State.waiters, State.waiters, h.length_calls, List.filter_filter, List.filter_filter]
  refine List.filter_congr fun call _ => ?_
  cases known : w.calls call with
  | false => rfl
  | true =>
    have seen : s.sees w call = true := by simp [sees, known]
    simp only [waitsFor, h.calls call seen]

theorem Agree.complete (h : Agree w s t) {load : Nat} (inside : load < w.loads) (target : Target)
    (answer : Except String Value) :
    Agree w (s.complete load target answer) (t.complete load target answer) := by
  have ending : Agree w (s.ending load ((messagesOf answer).map fun _ => ()))
      (t.ending load ((messagesOf answer).map fun _ => ())) := by
    refine (h.setStages fun _ => ⟨rfl, by simp⟩).enqueues ?_
    have told (v u : State) : ((u.waiters load).map (Job.deliver load)).filter (v.watches w) =
        ((u.waiters load).filter w.calls).map (Job.deliver load) := by
      rw [List.filter_map]
      refine congrArg _ (List.filter_congr fun call _ => ?_)
      simp [watches, inside]
    rw [told, told, h.waiters]
  have closed (v : State) : Agree w (v.ending load ((messagesOf answer).map fun _ => ()))
      (v.complete load target answer) :=
    (complete_sameWork v load target answer).agree (complete_sameCalls v load target answer).requests w
  exact (closed s).symm.trans (ending.trans (closed t))

theorem Agree.run (h : Agree w s t) {load : Nat} (inside : load < w.loads) :
    Agree w (s.run load) (t.run load) := by
  have same := h.loads load inside
  cases here : s.loads[load]? with
  | none =>
    rw [here] at same
    simpa only [State.run, here, same] using h
  | some l =>
    obtain ⟨target, stage⟩ := l
    rw [here] at same
    cases stage with
    | created =>
      have count := h.fetches load target inside here
      have source := h.source target
      cases found : s.source? target with
      | none =>
        rw [found] at source
        simpa only [State.run, fetch, here, same, found, source] using h
      | some origin =>
        rw [found] at source
        obtain ⟨gated, answer⟩ := origin
        cases gated with
        | true =>
          simp only [State.run, fetch, here, same, found, source, count, ↓reduceIte]
          exact (h.fetched target).setStages fun _ => ⟨by rw [h.requests], by simp⟩
        | false =>
          simp only [State.run, fetch, here, same, found, source, count, Bool.false_eq_true,
            ↓reduceIte]
          exact (h.fetched target).complete inside target _
    | released requests answer =>
      simp only [State.run, here, same]
      exact h.complete inside target answer
    | held requests answer => simpa only [State.run, here, same] using h
    | ended outcome => simpa only [State.run, here, same] using h

theorem Agree.deliver (h : Agree w s t) {load call : Nat} (inside : load < w.loads)
    (seen : s.sees w call = true) : Agree w (s.deliver load call) (t.deliver load call) := by
  simp only [State.deliver, h.loads load inside, h.calls call seen]
  split
  · split
    · exact (h.setPhases call (by simp) (by simp) fun _ => rfl).enqueues rfl
    · exact h
  · exact h

theorem agree_begin (bound : w.loads ≤ s.loads.length) {call : Nat} {request : Request}
    (here : s.calls[call]? = some ⟨request, .created⟩) (unknown : w.calls call = false) :
    Agree w (s.setPhase call (.ended (.error .cancelled)))
      { s.begin call request with requests := s.requests } := by
  have free {phase other : Phase} : w.calls call = true → phase = other := by
    rw [unknown]
    intro known
    cases known
  have step := begin_jobStep here
  generalize s.begin call request = t at step
  have agree {u : State} (moved : Agree w (s.setPhase call (.ended (.error .cancelled))) u)
      (requests : u.requests = s.requests) (same : SameWork u t) :
      Agree w (s.setPhase call (.ended (.error .cancelled))) { t with requests := s.requests } := by
    have last : SameWork u { t with requests := s.requests } :=
      ⟨same.calls, same.loads, same.fetches, same.ready, same.sources, same.additions⟩
    exact moved.trans (last.agree requests.symm w)
  cases step with
  | idle _ nothing same => cases nothing _ here
  | refused _ asked outcome there unwanted same =>
    exact agree ((Agree.refl w s).setPhases call (by simp) (by simp) free) rfl same
  | joined _ asked load number target there demand wanted flight same =>
    exact agree ((Agree.refl w s).setPhases call (by simp) (by simp) free) rfl same
  | created _ asked number target there demand wanted vacant same =>
    have requests := (createLoad_sameCalls s target).requests
    have grown := agree_createLoad bound target
    exact agree (grown.setPhases call (by simp) (by simp) free) requests same
  | resumed _ asked number wake outcome there reply same => cases here.symm.trans there

theorem Agree.withRequests (h : Agree w s t) {n m : Nat} (same : m = n) :
    Agree w { s with requests := n } { t with requests := m } := by
  refine ⟨same, ?_, h.loads, h.fetches, h.begun, h.calls, h.ready⟩
  intro target
  have source := h.source target
  cases target <;> exact source

theorem Agree.begin (h : Agree w s t) (k : Fits w s) (l : Fits w t) {call : Nat}
    {request : Request} (here : s.calls[call]? = some ⟨request, .created⟩)
    (there : t.calls[call]? = some ⟨request, .created⟩) :
    Agree w (s.begin call request) (t.begin call request) := by
  have unknown : w.calls call = false := by
    refine Bool.eq_false_iff.mpr fun known => ?_
    obtain ⟨c, found, began⟩ := hasBegun_iff.mp (k.begun call known)
    cases here.symm.trans found
    exact began rfl
  have first := agree_begin k.bound here unknown
  have second := agree_begin l.bound there unknown
  have moved := h.setPhases call (p := .ended (.error .cancelled)) (q := .ended (.error .cancelled))
    (by simp) (by simp) fun _ => rfl
  have begun := first.symm.trans (moved.trans second)
  have requests : (t.begin call request).requests = (s.begin call request).requests := by
    rw [begin_requests, begin_requests, h.requests]
  exact begun.withRequests requests

theorem Agree.advance (h : Agree w s t) (k : Fits w s) (l : Fits w t) {call : Nat}
    (seen : s.sees w call = true) : Agree w (s.advance call) (t.advance call) := by
  have same := h.calls call seen
  cases here : s.calls[call]? with
  | none =>
    rw [here] at same
    simpa only [State.advance, here, same] using h
  | some c =>
    obtain ⟨request, phase⟩ := c
    rw [here] at same
    cases phase with
    | created =>
      simp only [State.advance, here, same]
      exact h.begin k l here same
    | waking number wake =>
      simp only [State.advance, here, same]
      have verdicts : t.verdict number request wake = s.verdict number request wake := by
        cases request <;> cases wake with
        | cancelled => rfl
        | completed outcome => cases outcome <;> simp only [verdict, h.requests]
      have ended (v : State) : Agree w
          (v.setPhase call (.ended (v.verdict number request wake)))
          (v.resume call number request wake) :=
        (resume_sameWork v call number request wake).1.agree
          (resume_sameWork v call number request wake).2 w
      have moved := h.setPhases call (p := .ended (s.verdict number request wake))
        (q := .ended (t.verdict number request wake)) (by simp) (by simp)
        fun _ => by rw [verdicts]
      exact (ended s).symm.trans (moved.trans (ended t))
    | suspended load number => simpa only [State.advance, here, same] using h
    | ended outcome => simpa only [State.advance, here, same] using h

theorem Agree.cancel (h : Agree w s t) {call : Nat} (seen : s.sees w call = true) :
    Agree w (s.cancel call) (t.cancel call) := by
  simp only [State.cancel, h.calls call seen]
  split
  · exact h.setPhases call (by simp) (by simp) fun _ => rfl
  · exact (h.setPhases call (by simp) (by simp) fun _ => rfl).enqueues rfl
  · exact h.setPhases call (by simp) (by simp) fun _ => rfl
  · exact h

theorem Agree.release (h : Agree w s t) {load : Nat} (inside : load < w.loads) :
    Agree w (s.release load) (t.release load) := by
  simp only [State.release, h.loads load inside]
  split
  · exact (h.setStages fun _ => ⟨rfl, by simp⟩).enqueues rfl
  · exact h

theorem Agree.perform (h : Agree w s t) (k : Fits w s) (l : Fits w t) {job : Job}
    (watched : s.watches w job = true) : Agree w (s.perform job) (t.perform job) := by
  cases job with
  | advance call => exact h.advance k l watched
  | run load => exact h.run (of_decide_eq_true watched)
  | deliver load call =>
    obtain ⟨known, inside⟩ := Bool.and_eq_true_iff.mp watched
    exact h.deliver (of_decide_eq_true inside) (by simp [sees, known])

theorem Agree.handle (h : Agree w s t) (k : Fits w s) (l : Fits w t) (e : Event) :
    Agree w (s.handle e) (t.handle e) := by
  cases concerned : s.concerns w e with
  | false =>
    have too : t.concerns w e = false := by rwa [concerns_congr h.begun]
    exact (k.unseen concerned).symm.trans (h.trans (l.unseen too))
  | true =>
    cases e with
    | start request => exact h.start request
    | release load => exact h.release (of_decide_eq_true concerned)
    | cancel call => exact h.cancel concerned
    | mark locale names => cases concerned
    | perform job =>
      have queued := h.mem_ready concerned
      simp only [State.handle, queued]
      split
      · exact (h.dequeue job).perform (k.dequeue job) (l.dequeue job) concerned
      · exact h

theorem tick_cons {job : Job} {rest : List Job} (queue : s.ready = job :: rest) :
    s.tick.value = s.handle (.perform job) := by
  rw [tick_value, queue]
  rfl

theorem settle_cons {job : Job} {rest : List Job} (queue : s.ready = job :: rest) :
    s.settle.value = (s.handle (.perform job)).settle.value ∧
      (s.handle (.perform job)).work < s.work := by
  have busy : s.ready.isEmpty = false := by rw [queue]; rfl
  have less := tick_work_lt busy
  rw [settle_tick busy]
  rw [tick_cons queue] at less ⊢
  exact ⟨rfl, less⟩

theorem Fits.settle (k : Fits w s) : Fits w s.settle.value := by
  obtain ⟨jobs, value⟩ := settle_value s
  rw [value]
  exact k.after _

/-- Two states that agree do so after their queues have run. The jobs that concern what is watched
stand in the same order in both queues; any other one runs in its own state alone. -/
theorem Agree.settle (h : Agree w s t) (k : Fits w s) (l : Fits w t) :
    Agree w s.settle.value t.settle.value := by
  induction size : s.work + t.work using Nat.strongRecOn generalizing s t with
  | _ n ih =>
    subst size
    cases queue : s.ready with
    | cons job rest =>
      obtain ⟨settled, less⟩ := settle_cons queue
      cases watched : s.watches w job with
      | false =>
        rw [settled]
        exact ih _ (by omega) ((k.unseen (e := .perform job) watched).symm.trans h) (k.handle _) l rfl
      | true =>
        cases other : t.ready with
        | nil =>
          have inside := (h.mem_ready watched).mpr (by rw [queue]; exact List.mem_cons_self)
          rw [other] at inside
          cases inside
        | cons first last =>
          obtain ⟨settled', less'⟩ := settle_cons other
          cases seen : t.watches w first with
          | false =>
            rw [settled']
            exact ih _ (by omega) (h.trans (l.unseen (e := .perform first) seen)) k (l.handle _) rfl
          | true =>
            have heads := h.ready
            rw [queue, other, List.filter_cons_of_pos watched, List.filter_cons_of_pos seen] at heads
            obtain ⟨rfl, -⟩ := List.cons.inj heads
            rw [settled, settled']
            exact ih _ (by omega) (h.handle k l _) (k.handle _) (l.handle _) rfl
    | nil =>
      cases other : t.ready with
      | nil => rwa [settle_of_empty queue, settle_of_empty other]
      | cons first last =>
        obtain ⟨settled', less'⟩ := settle_cons other
        cases seen : t.watches w first with
        | false =>
          rw [settled']
          exact ih _ (by omega) (h.trans (l.unseen (e := .perform first) seen)) k (l.handle _) rfl
        | true =>
          have watched : s.watches w first = true := by rwa [← watches_congr h.begun]
          have inside := (h.mem_ready watched).mp (by rw [other]; exact List.mem_cons_self)
          rw [queue] at inside
          cases inside

end

end State

end Localization.Store
