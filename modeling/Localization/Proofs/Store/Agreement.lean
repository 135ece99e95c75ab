import Localization.Proofs.Store.Failing

/-! # Two runs that agree

Some calls that have begun are watched, and the loads that were there when they began. Two states
agree when they have the watched calls and loads in common, and whatever decides how these go on:
the number of requests, the answers that are still to come, the calls that have not begun, and the
jobs in the queue that concern them. An event about anything else keeps a state in agreement with
the one before it, and one event keeps two states in agreement.
-/
namespace Localization.Store

/-- Some calls, and the loads below a bound. -/
structure Watch where
  calls : Nat → Bool
  loads : Nat

namespace State

def hasBegun (s : State) (call : Nat) : Bool :=
  match s.calls[call]? with
  | none | some ⟨_, .created⟩ => false
  | some _ => true

def sees (s : State) (w : Watch) (call : Nat) : Bool := w.calls call || !s.hasBegun call

def watches (s : State) (w : Watch) : Job → Bool
  | .advance call => s.sees w call
  | .run load => decide (load < w.loads)
  | .deliver load call => w.calls call && decide (load < w.loads)

def concerns (s : State) (w : Watch) : Event → Bool
  | .start _ => true
  | .release load => decide (load < w.loads)
  | .cancel call => s.sees w call
  | .mark .. => false
  | .perform job => s.watches w job

structure Agree (w : Watch) (s t : State) : Prop where
  requests : t.requests = s.requests
  source (target : Target) : t.source? target = s.source? target
  loads (load : Nat) : load < w.loads → t.loads[load]? = s.loads[load]?
  fetches (load : Nat) (target : Target) : load < w.loads →
    s.loads[load]? = some ⟨target, .created⟩ → t.fetches.count target = s.fetches.count target
  begun (call : Nat) : t.hasBegun call = s.hasBegun call
  calls (call : Nat) : s.sees w call = true → t.calls[call]? = s.calls[call]?
  ready : t.ready.filter (t.watches w) = s.ready.filter (s.watches w)

section

variable {w : Watch} {s t u : State}

theorem sees_congr (begun : ∀ call, t.hasBegun call = s.hasBegun call) (w : Watch) :
    t.sees w = s.sees w := by
  funext call
  simp only [sees, begun]

theorem watches_congr (begun : ∀ call, t.hasBegun call = s.hasBegun call) (w : Watch) :
    t.watches w = s.watches w := by
  funext job
  cases job <;> simp only [watches, sees_congr begun]

theorem concerns_congr (begun : ∀ call, t.hasBegun call = s.hasBegun call) (w : Watch) :
    t.concerns w = s.concerns w := by
  funext e
  cases e <;> simp only [concerns, sees_congr begun, watches_congr begun]

theorem Agree.refl (w : Watch) (s : State) : Agree w s s :=
  ⟨rfl, fun _ => rfl, fun _ _ => rfl, fun _ _ _ _ => rfl, fun _ => rfl, fun _ _ => rfl, rfl⟩

theorem Agree.symm (h : Agree w s t) : Agree w t s := by
  refine ⟨h.requests.symm, fun target => (h.source target).symm,
    fun load inside => (h.loads load inside).symm, ?_, fun call => (h.begun call).symm, ?_,
    h.ready.symm⟩
  · intro load target inside there
    have here : s.loads[load]? = some ⟨target, .created⟩ := h.loads load inside ▸ there
    exact (h.fetches load target inside here).symm
  · intro call seen
    rw [sees_congr h.begun] at seen
    exact (h.calls call seen).symm

theorem Agree.trans (h : Agree w s t) (k : Agree w t u) : Agree w s u := by
  refine ⟨k.requests.trans h.requests, fun target => (k.source target).trans (h.source target),
    fun load inside => (k.loads load inside).trans (h.loads load inside), ?_,
    fun call => (k.begun call).trans (h.begun call), ?_, k.ready.trans h.ready⟩
  · intro load target inside here
    have there : t.loads[load]? = some ⟨target, .created⟩ := h.loads load inside ▸ here
    exact (k.fetches load target inside there).trans (h.fetches load target inside here)
  · intro call seen
    have seenToo : t.sees w call = true := by rwa [sees_congr h.begun]
    exact (k.calls call seenToo).trans (h.calls call seen)

theorem hasBegun_of_calls (calls : t.calls = s.calls) (call : Nat) :
    t.hasBegun call = s.hasBegun call := by
  simp only [hasBegun, calls]

theorem SameWork.agree (same : SameWork s t) (requests : t.requests = s.requests) (w : Watch) :
    Agree w s t := by
  have begun := hasBegun_of_calls same.calls
  refine ⟨requests, same.source?, ?_, ?_, begun, ?_, ?_⟩
  · intro load _
    rw [same.loads]
  · intro load target _ _
    rw [same.fetches]
  · intro call _
    rw [same.calls]
  · rw [same.ready, watches_congr begun]

theorem Agree.isSome (h : Agree w s t) (call : Nat) :
    (t.calls[call]?).isSome = (s.calls[call]?).isSome := by
  have some_of {v : State} (begun : v.hasBegun call = true) : (v.calls[call]?).isSome = true := by
    unfold hasBegun at begun
    split at begun
    · cases begun
    · cases begun
    · next found => rw [found]; rfl
  cases begun : s.hasBegun call with
  | true => rw [some_of begun, some_of ((h.begun call).trans begun)]
  | false =>
    have seen : s.sees w call = true := by simp [sees, begun]
    rw [h.calls call seen]

theorem Agree.length_calls (h : Agree w s t) : t.calls.length = s.calls.length := by
  have at_most {v u : State}
      (same : ∀ call : Nat, (v.calls[call]?).isSome = (u.calls[call]?).isSome) :
      v.calls.length ≤ u.calls.length := by
    have none : u.calls[u.calls.length]? = none := List.getElem?_eq_none (Nat.le_refl _)
    have exist := same u.calls.length
    rw [none, Option.isSome_none, Option.isSome_eq_false_iff, Option.isNone_iff_eq_none] at exist
    exact List.getElem?_eq_none_iff.mp exist
  have first := at_most h.isSome
  have second := at_most h.symm.isSome
  omega

theorem hasBegun_setPhase {phase : Phase} (began : phase ≠ .created) (s : State) (call other : Nat) :
    (s.setPhase call phase).hasBegun other =
      if call = other then (s.calls[other]?).isSome else s.hasBegun other := by
  unfold hasBegun
  rw [getElem?_setPhase]
  by_cases same : call = other
  · rw [if_pos same, if_pos same]
    cases s.calls[other]? with
    | none => rfl
    | some c =>
      cases phase with
      | created => exact absurd rfl began
      | suspended | waking | ended => rfl
  · rw [if_neg same, if_neg same]

theorem filter_of_imp {α : Type} {p q : α → Bool} (h : ∀ x, q x = true → p x = true)
    {xs ys : List α} (same : ys.filter p = xs.filter p) : ys.filter q = xs.filter q := by
  have both : q = fun x => q x && p x := by
    funext x
    cases first : q x with
    | false => rfl
    | true => rw [h x first]; rfl
  rw [both, ← List.filter_filter, ← List.filter_filter, same]

/-- A call that goes on in both states may do so in different ways, unless it is watched. -/
theorem Agree.setPhases (h : Agree w s t) (call : Nat) {p q : Phase} (began : p ≠ .created)
    (began' : q ≠ .created) (same : w.calls call = true → q = p) :
    Agree w (s.setPhase call p) (t.setPhase call q) := by
  have begun (other : Nat) :
      (t.setPhase call q).hasBegun other = (s.setPhase call p).hasBegun other := by
    rw [hasBegun_setPhase began, hasBegun_setPhase began', h.isSome, h.begun]
  -- A call that has begun is not seen for that reason any more.
  have fewer (other : Nat) (seen : (s.setPhase call p).sees w other = true) :
      s.sees w other = true ∧ (call = other → s.calls[other]? = none ∨ w.calls other = true) := by
    unfold sees at seen ⊢
    rw [hasBegun_setPhase began] at seen
    by_cases mine : call = other
    · rw [if_pos mine] at seen
      cases known : w.calls other with
      | true => exact ⟨by simp, fun _ => .inr rfl⟩
      | false =>
        rw [known] at seen
        have none : s.calls[other]? = none := by simpa using seen
        exact ⟨by simp [hasBegun, none], fun _ => .inl none⟩
    · rw [if_neg mine] at seen
      exact ⟨seen, fun same => absurd same mine⟩
  refine ⟨h.requests, ?_, h.loads, h.fetches, begun, ?_, ?_⟩
  · intro target
    have source := h.source target
    cases target <;> exact source
  · intro other seen
    obtain ⟨before, mine⟩ := fewer other seen
    rw [getElem?_setPhase, getElem?_setPhase, h.calls other before]
    by_cases here : call = other
    · rw [if_pos here, if_pos here]
      rcases mine here with none | known
      · rw [none]
        rfl
      · rw [same (here ▸ known)]
    · rw [if_neg here, if_neg here]
  · have ready := h.ready
    rw [watches_congr h.begun] at ready
    rw [watches_congr begun]
    refine filter_of_imp (fun job watched => ?_) ready
    cases job with
    | advance other => exact (fewer other watched).1
    | run load => exact watched
    | deliver load other => exact watched

theorem setPhase_before {call : Nat} {request : Request} {phase : Phase}
    (here : s.calls[call]? = some ⟨request, phase⟩) : s.setPhase call phase = s := by
  have calls : s.calls.modify call (fun c => { c with phase }) = s.calls := by
    refine List.ext_getElem? fun other => ?_
    rw [List.getElem?_modify]
    by_cases same : call = other
    · subst same
      simp [here]
    · simp [same]
  rw [setPhase, calls]

theorem agree_setPhase {call : Nat} {request : Request} {before after : Phase}
    (here : s.calls[call]? = some ⟨request, before⟩) (began : before ≠ .created)
    (began' : after ≠ .created) (unknown : w.calls call = false) :
    Agree w s (s.setPhase call after) := by
  have moved := (Agree.refl w s).setPhases call began began' fun known => by
    rw [unknown] at known
    cases known
  rwa [setPhase_before here] at moved

theorem Agree.enqueues (h : Agree w s t) {jobs others : List Job}
    (same : others.filter (s.watches w) = jobs.filter (s.watches w)) :
    Agree w (s.enqueue jobs) (t.enqueue others) := by
  refine ⟨h.requests, ?_, h.loads, h.fetches, h.begun, h.calls, ?_⟩
  · intro target
    have source := h.source target
    cases target <;> exact source
  · have first : (s.enqueue jobs).watches w = s.watches w := watches_congr (fun _ => rfl) w
    have second : (t.enqueue others).watches w = s.watches w := watches_congr h.begun w
    have ready := h.ready
    rw [watches_congr h.begun] at ready
    rw [first, second]
    show (t.ready ++ others).filter _ = (s.ready ++ jobs).filter _
    rw [List.filter_append, List.filter_append, ready, same]

theorem agree_enqueue {jobs : List Job} (quiet : ∀ job ∈ jobs, s.watches w job = false) :
    Agree w s (s.enqueue jobs) := by
  have none : jobs.filter (s.watches w) = ([] : List Job).filter (s.watches w) := by
    refine List.filter_eq_nil_iff.mpr fun job inside watched => ?_
    rw [quiet job inside] at watched
    cases watched
  have added := (Agree.refl w s).enqueues none
  have empty : s.enqueue [] = s := by simp [enqueue]
  rwa [empty] at added

theorem Agree.dequeue (h : Agree w s t) (job : Job) :
    Agree w { s with ready := s.ready.erase job } { t with ready := t.ready.erase job } := by
  refine ⟨h.requests, ?_, h.loads, h.fetches, h.begun, h.calls, ?_⟩
  · intro target
    have source := h.source target
    cases target <;> exact source
  · have ready := congrArg (List.erase · job) h.ready
    simp only [List.erase_filter] at ready
    exact ready

theorem agree_dequeue {job : Job} (quiet : s.watches w job = false) :
    Agree w s { s with ready := s.ready.erase job } := by
  refine ⟨rfl, ?_, fun _ _ => rfl, fun _ _ _ _ => rfl, fun _ => rfl, fun _ _ => rfl, ?_⟩
  · intro target
    cases target <;> rfl
  · have absent : job ∉ s.ready.filter (s.watches w) := by
      intro inside
      have watched := (List.mem_filter.mp inside).2
      rw [quiet] at watched
      cases watched
    have same := List.erase_of_not_mem absent
    rw [List.erase_filter] at same
    exact same

theorem Agree.mem_ready (h : Agree w s t) {job : Job} (watched : s.watches w job = true) :
    job ∈ t.ready ↔ job ∈ s.ready := by
  have same : job ∈ t.ready.filter (t.watches w) ↔ job ∈ s.ready.filter (s.watches w) := by
    rw [h.ready]
  rw [List.mem_filter, List.mem_filter, watches_congr h.begun, watched] at same
  simpa using same

theorem Agree.setStages (h : Agree w s t) {load : Nat} {p q : Stage}
    (same : load < w.loads → q = p ∧ p ≠ .created) :
    Agree w (s.setStage load p) (t.setStage load q) := by
  refine ⟨h.requests, ?_, ?_, ?_, h.begun, h.calls, h.ready⟩
  · intro target
    have source := h.source target
    cases target <;> exact source
  · intro other inside
    rw [getElem?_setStage, getElem?_setStage, h.loads other inside]
    by_cases mine : load = other
    · subst mine
      rw [(same inside).1]
    · rw [if_neg mine, if_neg mine]
  · intro other target inside there
    refine h.fetches other target inside ?_
    rw [getElem?_setStage] at there
    by_cases mine : load = other
    · subst mine
      rw [if_pos rfl, Option.map_eq_some_iff] at there
      obtain ⟨l, -, renewed⟩ := there
      cases renewed
      exact absurd rfl (same inside).2
    · rwa [if_neg mine] at there

theorem agree_setStage {load : Nat} (stage : Stage) (beyond : w.loads ≤ load) :
    Agree w s (s.setStage load stage) := by
  refine ⟨rfl, ?_, ?_, fun _ _ _ _ => rfl, fun _ => rfl, fun _ _ => rfl, rfl⟩
  · intro target
    cases target <;> rfl
  · intro other inside
    have differ : load ≠ other := by omega
    rw [getElem?_setStage, if_neg differ]

theorem Agree.fetched (h : Agree w s t) (target : Target) :
    Agree w (s.fetched target) (t.fetched target) := by
  refine ⟨h.requests, ?_, h.loads, ?_, h.begun, h.calls, h.ready⟩
  · intro target
    have source := h.source target
    cases target <;> exact source
  · intro load other inside here
    have before := h.fetches load other inside here
    show (t.fetches ++ [target]).count other = (s.fetches ++ [target]).count other
    rw [List.count_append, List.count_append, before]

theorem agree_fetched {target : Target}
    (apart : ∀ load, load < w.loads → s.loads[load]? ≠ some ⟨target, .created⟩) :
    Agree w s (s.fetched target) := by
  refine ⟨rfl, ?_, fun _ _ => rfl, ?_, fun _ => rfl, fun _ _ => rfl, rfl⟩
  · intro target
    cases target <;> rfl
  · intro load other inside here
    have differ : target ≠ other := by
      rintro rfl
      exact apart load inside here
    show (s.fetches ++ [target]).count other = s.fetches.count other
    rw [List.count_append, List.count_singleton]
    simp [differ]

theorem agree_createLoad (bound : w.loads ≤ s.loads.length) (target : Target) :
    Agree w s (s.createLoad target) := by
  have entered : Agree w s { s.enter target s.loads.length with
      loads := s.loads ++ [Load.mk target .created] } := by
    have same := enter_sameCalls s target s.loads.length
    refine ⟨same.requests, ?_, ?_, ?_, hasBegun_of_calls same.calls, ?_, ?_⟩
    · intro other
      cases target <;> cases other <;> rfl
    · intro load inside
      exact List.getElem?_append_left (Nat.lt_of_lt_of_le inside bound)
    · intro load other inside here
      cases target <;> rfl
    · intro call _
      exact congrArg (·[call]?) same.calls
    · cases target <;> rfl
  refine entered.trans (agree_enqueue ?_)
  intro job inside
  rw [List.mem_singleton.mp inside]
  exact decide_eq_false (Nat.not_lt_of_le bound)

end

end State

end Localization.Store
