import Localization.Proofs.Store.Apart
import Localization.Proofs.Store.Turns

/-! # Cancelling a call

A call that waits for a load is cancelled. This changes nothing but the call and its jobs, and so
does everything that the call still does. The load goes on. Until the call would have gone on
itself, the store is the same as without the cancellation but for the call; after that the calls
that have begun by then go on as they would without it, whatever happens.
-/
namespace Localization.Store

namespace State

/-- The other calls that have begun in a state, and its loads. -/
def watchBut (s : State) (call : Nat) : Watch where
  calls other := other != call && s.hasBegun other
  loads := s.loads.length

/-- The other calls of a state, and its loads. -/
def watchAllBut (s : State) (call : Nat) : Watch where
  calls other := other != call && decide (other < s.calls.length)
  loads := s.loads.length

/-- Two histories that go side by side from two states. They share their events in order, but for
those that do not concern what is watched and happen in one of them alone. -/
inductive Alongside (w : Watch) : State → State → List Event → List Event → Prop
  | done (s t : State) : Alongside w s t [] []
  | both {s t : State} {first second : List Event} (e : Event)
      (rest : Alongside w (s.handle e) (t.handle e) first second) :
      Alongside w s t (e :: first) (e :: second)
  | left {s t : State} {first second : List Event} (e : Event) (quiet : s.concerns w e = false)
      (rest : Alongside w (s.handle e) t first second) : Alongside w s t (e :: first) second
  | right {s t : State} {first second : List Event} (e : Event) (quiet : t.concerns w e = false)
      (rest : Alongside w s (t.handle e) first second) : Alongside w s t first (e :: second)

/-- Two states have the watched calls and loads in common. -/
structure SameFor (w : Watch) (s t : State) : Prop where
  loads (load : Nat) : load < w.loads → t.loads[load]? = s.loads[load]?
  calls (call : Nat) : w.calls call = true → t.calls[call]? = s.calls[call]?

/-- Events come from outside, some at a time, and the store settles after them. -/
def reacts (s : State) (batches : List (List Event)) : State :=
  batches.foldl (fun s inputs => (s.after inputs).settle.value) s

/-- A state that a new store comes to. -/
def Reachable (s : State) : Prop :=
  ∃ (new : State) (events : List Event), new.IsNew ∧ new.after events = s

section

variable {w : Watch} {s t u : State} {call : Nat}

theorem IsDropped.hasBegun (h : s.IsDropped call) : s.hasBegun call = true := by
  obtain ⟨⟨request, phase⟩, here, dropped⟩ := h
  refine hasBegun_iff.mpr ⟨_, here, ?_⟩
  rintro rfl
  cases dropped

theorem dropped_of_cancel {load number : Nat} {request : Request}
    (waits : s.calls[call]? = some ⟨request, .suspended load number⟩) :
    (s.handle (.cancel call)).IsDropped call := by
  simp only [State.handle, State.cancel, waits]
  exact ⟨_, setPhase_self waits rfl, rfl⟩

theorem IsDropped.advance (h : s.IsDropped call) : SameBut call s (s.advance call) := by
  obtain ⟨⟨request, phase⟩, here, dropped⟩ := h
  rw [State.advance, here]
  cases phase with
  | waking number wake =>
    cases wake with
    | cancelled => exact sameBut_setPhase s call _
    | completed outcome => cases dropped
  | ended outcome => exact .refl call s
  | created | suspended => cases dropped

theorem IsDropped.sameBut (h : s.IsDropped call) {e : Event} (about : e.call? = some call) :
    SameBut call s (s.handle e) := by
  by_cases goes : e = .perform (.advance call)
  · subst goes
    simp only [State.handle]
    split
    · have taken : SameBut call s { s with ready := s.ready.erase (.advance call) } :=
        sameBut_dequeue about
      have still : State.IsDropped { s with ready := s.ready.erase (.advance call) } call := h
      exact taken.trans still.advance
    · exact .refl call s
  · exact sameBut_handle s about goes

theorem SameBut.hasBegun (h : SameBut call s t) {other : Nat} (differ : other ≠ call) :
    t.hasBegun other = s.hasBegun other := by
  unfold State.hasBegun
  rw [h.calls other differ]

theorem SameBut.watchBut (h : SameBut call s t) : t.watchBut call = s.watchBut call := by
  have loads : t.loads = s.loads := h.view State.loads fun _ _ _ => rfl
  have calls : (fun other => other != call && t.hasBegun other) =
      fun other => other != call && s.hasBegun other := by
    funext other
    by_cases same : other = call
    · simp [same]
    · rw [h.hasBegun same]
  rw [State.watchBut, State.watchBut, loads, calls]

theorem SameBut.agree (h : SameBut call s t) (unknown : w.calls call = false)
    (begun : s.hasBegun call = true) (begun' : t.hasBegun call = true) : Agree w s t := by
  have same (other : Nat) : t.hasBegun other = s.hasBegun other := by
    by_cases mine : other = call
    · rw [mine, begun, begun']
    · exact h.hasBegun mine
  have notSeen : s.sees w call = false := by simp [sees, unknown, begun]
  have loads : t.loads = s.loads := h.view State.loads fun _ _ _ => rfl
  have fetches : t.fetches = s.fetches := h.view State.fetches fun _ _ _ => rfl
  refine ⟨h.view State.requests fun _ _ _ => rfl, ?_, ?_, ?_, same, ?_, ?_⟩
  · exact fun target => h.view (State.source? · target) fun _ _ _ => rfl
  · intro load _
    rw [loads]
  · intro load target _ _
    rw [fetches]
  · intro other seen
    refine h.calls other ?_
    rintro rfl
    rw [notSeen] at seen
    cases seen
  · rw [watches_congr same]
    refine filter_of_imp (fun job watched => ?_) h.ready
    cases job with
    | run load => rfl
    | advance other =>
      have differ : other ≠ call := by
        rintro rfl
        exact Bool.false_ne_true (notSeen.symm.trans watched)
      simpa [Job.call?] using differ
    | deliver load other =>
      have differ : other ≠ call := by
        rintro rfl
        simp [watches, unknown] at watched
      simpa [Job.call?] using differ

theorem SameBut.sameFor (h : SameBut call s t) : SameFor (s.watchAllBut call) t s := by
  have loads : t.loads = s.loads := h.view State.loads fun _ _ _ => rfl
  refine ⟨fun load _ => by rw [loads], fun other known => ?_⟩
  have differ : (other != call) = true := (Bool.and_eq_true_iff.mp known).1
  exact (h.calls other (by simpa using differ)).symm

theorem Orderly.fits (h : s.Orderly) (call : Nat) : Fits (s.watchBut call) s := by
  refine ⟨h.tracked, Nat.le_refl _, ?_, ?_⟩
  · intro other known
    exact (Bool.and_eq_true_iff.mp known).2
  · intro other request load number known here
    obtain ⟨target, stage, there, -⟩ := h.scheduled.calls other _ here
    exact (List.getElem?_eq_some_iff.mp there).1

theorem Alongside.agree {first second : List Event} (h : Alongside w s t first second)
    (agree : Agree w s t) (k : Fits w s) (l : Fits w t) :
    Agree w (s.after first) (t.after second) := by
  induction h with
  | done s t => exact agree
  | both e rest ih => exact ih (agree.handle k l e) (k.handle e) (l.handle e)
  | left e quiet rest ih => exact ih ((k.unseen quiet).symm.trans agree) (k.handle e) l
  | right e quiet rest ih => exact ih (agree.trans (l.unseen quiet)) k (l.handle e)

theorem Alongside.refl (w : Watch) (s t : State) (events : List Event) :
    Alongside w s t events events := by
  induction events generalizing s t with
  | nil => exact .done s t
  | cons e rest ih => exact .both e (ih _ _)

theorem Agree.reacts (h : Agree w s t) (k : Fits w s) (l : Fits w t) (batches : List (List Event)) :
    Agree w (s.reacts batches) (t.reacts batches) := by
  induction batches generalizing s t with
  | nil => exact h
  | cons inputs rest ih =>
    have same := (Alongside.refl w s t inputs).agree h k l
    have next := same.settle (k.after inputs) (l.after inputs)
    exact ih next (k.after inputs).settle (l.after inputs).settle

theorem Agree.sameFor (h : Agree w s t) : SameFor w s t := by
  refine ⟨h.loads, fun call known => h.calls call ?_⟩
  simp [sees, known]

theorem SameFor.mono {v : Watch} (h : SameFor w s t) (loads : v.loads ≤ w.loads)
    (calls : ∀ call, v.calls call = true → w.calls call = true) : SameFor v s t :=
  ⟨fun load inside => h.loads load (Nat.lt_of_lt_of_le inside loads),
    fun call known => h.calls call (calls call known)⟩

theorem Orderly.begun_after_queue (h : s.Orderly) {inputs : List Event}
    (outside : ∀ job, .perform job ∉ inputs) {other : Nat} (asked : other < s.calls.length) :
    (s.after (inputs ++ s.ready.map .perform)).hasBegun other = true := by
  cases begun : s.hasBegun other with
  | true => exact after_hasBegun begun _
  | false =>
    have here := List.getElem?_eq_getElem asked
    generalize s.calls[other] = c at here
    have created : c.phase = .created := by
      by_cases new : c.phase = .created
      · exact new
      · have already := hasBegun_iff.mpr ⟨c, here, new⟩
        exact absurd (begun.symm.trans already) Bool.false_ne_true
    have due := h.scheduled.calls other c here
    rw [created] at due
    have queued : .advance other ∈ s.ready := due.resolve_right nofun
    obtain ⟨added, ready⟩ := after_ready (s := s) outside
    have still : other < (s.after inputs).calls.length :=
      after_induction (P := fun t => other < t.calls.length)
        (fun t e asked => Nat.lt_of_lt_of_le asked (length_calls_le t e)) asked inputs
    rw [after_append]
    exact begun_of_front ready still queued

theorem settle_queue {inputs : List Event} (outside : ∀ job, .perform job ∉ inputs) :
    (s.after inputs).settle.value = (s.after (inputs ++ s.ready.map .perform)).settle.value := by
  obtain ⟨added, ready⟩ := after_ready (s := s) outside
  rw [after_append]
  exact settle_front ready

theorem Orderly.agree_but (h : s.Orderly) (k : t.Orderly) (same : SameBut call s t)
    (begun : s.hasBegun call = true) (begun' : t.hasBegun call = true) :
    Agree (s.watchBut call) t s ∧ Fits (s.watchBut call) t ∧ Fits (s.watchBut call) s := by
  have unknown : (s.watchBut call).calls call = false := by simp [watchBut]
  exact ⟨same.symm.agree unknown begun' begun, same.watchBut ▸ k.fits call, h.fits call⟩

theorem Orderly.agree_cancelled (h : s.Orderly) {load number : Nat} {request : Request}
    (waits : s.calls[call]? = some ⟨request, .suspended load number⟩) {early : List Event}
    (still : .perform (.advance call) ∉ early) :
    Agree ((s.after early).watchBut call) ((s.handle (.cancel call)).after early) (s.after early) ∧
      Fits ((s.after early).watchBut call) ((s.handle (.cancel call)).after early) ∧
      Fits ((s.after early).watchBut call) (s.after early) := by
  have started : s.hasBegun call = true := hasBegun_iff.mpr ⟨_, waits, by simp⟩
  have begun := after_hasBegun started early
  have dropped := (dropped_of_cancel waits).after early
  exact (h.after early).agree_but ((h.handle _).after early)
    ((sameBut_cancel s call).after still) begun dropped.hasBegun

theorem Orderly.sameFor_reacts (h : s.Orderly) (turns : s.OneTurn) {load number : Nat}
    {request : Request} (waits : s.calls[call]? = some ⟨request, .suspended load number⟩)
    {inputs : List Event} (outside : ∀ job, .perform job ∉ inputs) (rest : List (List Event)) :
    SameFor (s.watchAllBut call) ((s.handle (.cancel call)).reacts (inputs :: rest))
      (s.reacts (inputs :: rest)) := by
  have still : .perform (.advance call) ∉ inputs ++ s.ready.map .perform := by
    have noTurn := turns.not_mem waits rfl
    simpa [outside] using noTurn
  have plain : s.reacts (inputs :: rest) =
      (s.after (inputs ++ s.ready.map .perform)).settle.value.reacts rest := by
    rw [← settle_queue outside]
    rfl
  -- The cancelled call comes into the queue behind what was there.
  have cancelled : (s.handle (.cancel call)).reacts (inputs :: rest) =
      ((s.handle (.cancel call)).after
        (inputs ++ s.ready.map .perform)).settle.value.reacts rest := by
    have outer : ∀ job, .perform job ∉ Event.cancel call :: inputs := by simpa using outside
    have settled := settle_queue (s := s) outer
    rw [List.cons_append, after_cons, after_cons] at settled
    rw [← settled]
    rfl
  obtain ⟨agree, k, l⟩ := h.agree_cancelled waits still
  rw [plain, cancelled]
  refine ((agree.settle k l).reacts k.settle l.settle rest).sameFor.mono ?_ ?_
  · exact after_induction (P := fun t => s.loads.length ≤ t.loads.length)
      (fun t e le => Nat.le_trans le (length_loads_le t e)) (Nat.le_refl _) _
  · intro other known
    obtain ⟨differ, asked⟩ := Bool.and_eq_true_iff.mp known
    have begun := h.begun_after_queue outside (of_decide_eq_true asked)
    exact Bool.and_eq_true_iff.mpr ⟨differ, begun⟩

/-- Cancelling a call that waits for a load changes the call and its jobs only. A history goes on the
same with and without it, but for the call. -/
theorem cancelled_call_harms_no_other (reachable : s.Reachable) {load number : Nat}
    {request : Request} (waits : s.calls[call]? = some ⟨request, .suspended load number⟩) :
    SameBut call s (s.handle (.cancel call)) ∧
      (∀ later, ((s.handle (.cancel call)).after later).IsDropped call ∧
        ∀ e, e.call? = some call → SameBut call ((s.handle (.cancel call)).after later)
          (((s.handle (.cancel call)).after later).handle e)) ∧
      load < s.loads.length ∧
      (∀ early, .perform (.advance call) ∉ early →
        SameBut call (s.after early) ((s.handle (.cancel call)).after early) ∧
          ∀ first second,
            Alongside ((s.after early).watchBut call) ((s.handle (.cancel call)).after early)
              (s.after early) first second →
            SameFor ((s.after early).watchBut call)
              (((s.handle (.cancel call)).after early).after first)
              ((s.after early).after second)) ∧
      ∀ batches : List (List Event), (∀ inputs ∈ batches, ∀ job, .perform job ∉ inputs) →
        SameFor (s.watchAllBut call) ((s.handle (.cancel call)).reacts batches)
          (s.reacts batches) := by
  obtain ⟨new, events, isNew, rfl⟩ := reachable
  have orderly := isNew.orderly events
  have turns := isNew.oneTurn_after events
  generalize new.after events = s at *
  have dropped := dropped_of_cancel waits
  refine ⟨sameBut_cancel s call, ?_, ?_, ?_, ?_⟩
  · intro later
    exact ⟨dropped.after later, fun e about => (dropped.after later).sameBut about⟩
  · obtain ⟨target, stage, there, -⟩ := orderly.scheduled.calls call _ waits
    exact (List.getElem?_eq_some_iff.mp there).1
  · intro early still
    refine ⟨(sameBut_cancel s call).after still, fun first second alongside => ?_⟩
    obtain ⟨agree, k, l⟩ := orderly.agree_cancelled waits still
    exact (alongside.agree agree k l).sameFor
  · rintro (- | ⟨inputs, rest⟩) outside
    · exact (sameBut_cancel s call).sameFor
    · exact orderly.sameFor_reacts turns waits (outside inputs List.mem_cons_self) rest

end

/-- A request for a locale and a call for it wait for a load that is held, and a namespace of the
active locale has just been asked for. -/
def bothHeldFor : List Event :=
  [.start (.setLocale "de" true), .start (.loadLocale "de"), .perform (.advance 0),
    .perform (.advance 1), .perform (.run 0), .start (.loadNamespace "dash" none)]

/-- The request is cancelled before the load is released. The locale stays as it was, and the two
calls come back as they do when the request makes its locale active. -/
theorem bothHeldFor_cancelled :
    (heldNamespace.after bothHeldFor).Reachable ∧
      (heldNamespace.after bothHeldFor).calls[0]? = some ⟨.setLocale "de" true, .suspended 0 1⟩ ∧
      (((heldNamespace.after bothHeldFor).handle (.cancel 0)).reacts [[.release 0]]).locale = "en" ∧
      ((heldNamespace.after bothHeldFor).reacts [[.release 0]]).locale = "de" ∧
      (((heldNamespace.after bothHeldFor).handle (.cancel 0)).reacts [[.release 0]]).calls[1]? =
        some ⟨.loadLocale "de", .ended (.ok .loaded)⟩ ∧
      (((heldNamespace.after bothHeldFor).handle (.cancel 0)).reacts [[.release 0]]).calls[2]? =
        some ⟨.loadNamespace "dash" none, .ended (.ok .loaded)⟩ := by
  have waits : (heldNamespace.after bothHeldFor).calls[0]? =
      some ⟨.setLocale "de" true, .suspended 0 1⟩ := rfl
  have reachable : (heldNamespace.after bothHeldFor).Reachable :=
    ⟨heldNamespace, bothHeldFor, heldNamespace_isNew, rfl⟩
  have plain : ((heldNamespace.after bothHeldFor).reacts [[.release 0]]).calls[1]? =
      some ⟨.loadLocale "de", .ended (.ok .loaded)⟩ := rfl
  have plain' : ((heldNamespace.after bothHeldFor).reacts [[.release 0]]).calls[2]? =
      some ⟨.loadNamespace "dash" none, .ended (.ok .loaded)⟩ := rfl
  obtain ⟨-, -, -, -, same⟩ := cancelled_call_harms_no_other reachable waits
  have others := same [[.release 0]] (by simp)
  exact ⟨reachable, waits, rfl, rfl, (others.calls 1 rfl).symm.trans plain,
    (others.calls 2 rfl).symm.trans plain'⟩

end State

end Localization.Store
