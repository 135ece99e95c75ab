import Localization.Proofs.Trace
import Localization.Store.Run

/-! # Histories of a store

What happens to a store is a list of events: a caller asks for something, an answer is
released, a call is cancelled, namespaces are recorded, or a job of the queue runs. Any job
of the queue may be the next one, so what holds after every history holds whatever the order
of the jobs. A store that settles runs its jobs from the front, which is one such history.
-/
namespace Localization.Store

inductive Event where
  | start (request : Request)
  | release (load : Nat)
  | cancel (call : Nat)
  | mark (locale : String) (names : List String)
  | perform (job : Job)
  deriving DecidableEq, Repr

namespace State

/-- The state after an event. A job that does not stand in the queue does not run. -/
def handle (s : State) : Event → State
  | .start request => s.start request
  | .release load => s.release load
  | .cancel call => s.cancel call
  | .mark locale names => s.markMerged locale names
  | .perform job =>
    if job ∈ s.ready then { s with ready := s.ready.erase job }.perform job else s

/-- The state after a history. -/
def after (s : State) (events : List Event) : State := events.foldl handle s

/-- A store as a caller makes it. -/
def IsNew (s : State) : Prop :=
  ∃ catalogs sources additions locale fallback debug handler,
    (ofCatalogs catalogs sources additions locale fallback debug handler).outcome = .ok s

@[simp] theorem after_nil (s : State) : s.after [] = s := rfl

@[simp] theorem after_cons (s : State) (e : Event) (events : List Event) :
    s.after (e :: events) = (s.handle e).after events := rfl

@[simp] theorem after_append (s : State) (first second : List Event) :
    s.after (first ++ second) = (s.after first).after second := List.foldl_append

theorem after_induction {P : State → Prop} (step : ∀ s e, P s → P (s.handle e)) {s : State}
    (h : P s) (events : List Event) : P (s.after events) := by
  induction events generalizing s with
  | nil => exact h
  | cons e rest ih => exact ih (step s e h)

theorem IsNew.blank {s : State} (h : s.IsNew) :
    s.merged = [] ∧ s.requests = 0 ∧ s.catalogLoads = [] ∧ s.additionLoads = [] ∧
      s.calls = [] ∧ s.loads = [] ∧ s.fetches = [] ∧ s.ready = [] := by
  obtain ⟨catalogs, sources, additions, locale, fallback, debug, handler, h⟩ := h
  rw [ofCatalogs] at h
  obtain ⟨entries, -, made⟩ := Attempt.ok_of_bind h
  cases made
  exact ⟨rfl, rfl, rfl, rfl, rfl, rfl, rfl, rfl⟩

theorem tick_value (s : State) :
    s.tick.value = s.after (s.ready.head?.toList.map .perform) := by
  unfold tick
  cases h : s.ready with
  | nil => rfl
  | cons job rest => simp [handle, h]

theorem settleWithin_value (fuel : Nat) (s : State) :
    ∃ jobs : List Job, (settleWithin fuel s).value = s.after (jobs.map .perform) := by
  induction fuel generalizing s with
  | zero => exact ⟨[], rfl⟩
  | succ fuel ih =>
    rw [settleWithin]
    split
    · exact ⟨[], rfl⟩
    · obtain ⟨jobs, h⟩ := ih s.tick.value
      refine ⟨s.ready.head?.toList ++ jobs, ?_⟩
      rw [Traced.value_bind, h, tick_value, List.map_append, after_append]

theorem settle_value (s : State) :
    ∃ jobs : List Job, s.settle.value = s.after (jobs.map .perform) :=
  settleWithin_value _ s

end State

end Localization.Store
