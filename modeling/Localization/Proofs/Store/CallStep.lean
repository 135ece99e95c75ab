import Localization.Proofs.Store.History

/-! # What an event does to the calls

The calls and the active locale go through one of a few steps, each of which says what it
found and what it leaves. What holds of the calls after every history is derived from these
steps and not from the functions that make them.
-/
namespace Localization.Store

theorem getElem?_kept {α : Type} {xs : List α} {i : Nat} {x : α} (h : xs[i]? = some x)
    (ys : List α) : (xs ++ ys)[i]? = some x := by
  rw [List.getElem?_append_left (List.getElem?_eq_some_iff.mp h).1, h]

theorem getElem?_snoc {α : Type} {xs : List α} {i : Nat} {x y : α}
    (h : (xs ++ [x])[i]? = some y) : xs[i]? = some y ∨ i = xs.length ∧ y = x := by
  rw [List.getElem?_append] at h
  split at h
  · exact .inl h
  · rw [List.getElem?_singleton] at h
    split at h
    · exact .inr ⟨by omega, (Option.some.inj h).symm⟩
    · cases h

/-- The number of the request that a call keeps; none has the number 0. -/
def Phase.number : Phase → Nat
  | suspended _ number => number
  | waking number _ => number
  | _ => 0

def Phase.isOpen : Phase → Bool
  | ended _ => false
  | _ => true

namespace State

/-- The second state has the calls and the active locale of the first one. -/
structure SameCalls (s t : State) : Prop where
  calls : t.calls = s.calls
  requests : t.requests = s.requests
  locale : t.locale = s.locale

theorem SameCalls.refl (s : State) : SameCalls s s := ⟨rfl, rfl, rfl⟩

theorem enter_sameCalls (s : State) (target : Target) (load : Nat) :
    SameCalls s (s.enter target load) := by
  cases target <;> exact ⟨rfl, rfl, rfl⟩

theorem leave_sameCalls (s : State) (target : Target) : SameCalls s (s.leave target) := by
  cases target <;> exact ⟨rfl, rfl, rfl⟩

theorem createLoad_sameCalls (s : State) (target : Target) : SameCalls s (s.createLoad target) := by
  have h := enter_sameCalls s target s.loads.length
  exact ⟨h.calls, h.requests, h.locale⟩

theorem absorb_sameCalls (s : State) (target : Target) (messages : Entries) :
    SameCalls s (s.absorb target messages) := by
  cases target <;> exact ⟨rfl, rfl, rfl⟩

theorem accept_sameCalls (s : State) (target : Target) (result : Except Failure Entries) :
    SameCalls s (s.accept target result) := by
  cases result with
  | error failure => exact .refl s
  | ok messages => exact absorb_sameCalls s target messages

theorem complete_sameCalls (s : State) (load : Nat) (target : Target)
    (answer : Except String Value) : SameCalls s (s.complete load target answer) := by
  have h := accept_sameCalls s target (messagesOf answer)
  have k := leave_sameCalls (s.accept target (messagesOf answer)) target
  exact ⟨k.calls.trans h.calls, k.requests.trans h.requests, k.locale.trans h.locale⟩

theorem fetch_sameCalls (s : State) (load : Nat) (target : Target) :
    SameCalls s (s.fetch load target) := by
  rw [fetch]
  cases s.source? target with
  | none => exact .refl s
  | some source =>
    dsimp only
    split
    · exact ⟨rfl, rfl, rfl⟩
    · have h := complete_sameCalls { s with fetches := s.fetches ++ [target] } load target
        (source.answer (s.fetches.count target))
      exact ⟨h.calls, h.requests, h.locale⟩

theorem run_sameCalls (s : State) (load : Nat) : SameCalls s (s.run load) := by
  rw [run]
  split
  · exact fetch_sameCalls ..
  · exact complete_sameCalls ..
  · exact .refl s

theorem release_sameCalls (s : State) (load : Nat) : SameCalls s (s.release load) := by
  rw [release]
  split <;> exact ⟨rfl, rfl, rfl⟩

/-- How a request for a locale comes out of its first step, before which it has not begun. -/
inductive Opening (s t : State) (locale : String) : Phase → Prop
  | present : s.catalogs.has locale = true → t.locale = locale →
      Opening s t locale (.ended (.ok (.changed true)))
  | missing : s.catalogs.has locale = false → t.locale = s.locale →
      Opening s t locale (.ended (.ok (.changed false)))
  | awaited (load : Nat) : s.catalogs.has locale = false → t.locale = s.locale →
      t.inFlight? (.catalog locale) = some load →
      Opening s t locale (.suspended load (s.requests + 1))

/-- The other steps of a call, from a phase to the next one. None of them makes a locale
active. -/
inductive Passage (s t : State) : Request → Phase → Phase → Prop
  | present (locale : String) : s.catalogs.has locale = true →
      Passage s t (.loadLocale locale) .created (.ended (.ok .loaded))
  | unknown (locale : String) : s.catalogs.has locale = false →
      s.hasSource (.catalog locale) = false →
      Passage s t (.loadLocale locale) .created (.ended (.error (.noLocaleLoader locale)))
  | awaited (locale : String) (load : Nat) : s.catalogs.has locale = false →
      t.inFlight? (.catalog locale) = some load →
      Passage s t (.loadLocale locale) .created (.suspended load 0)
  | skipped (name : String) (requested : Option String) :
      (s.isMerged (s.localeFor requested) name ||
        !s.hasSource (.addition (s.localeFor requested) name)) = true →
      Passage s t (.loadNamespace name requested) .created (.ended (.ok .loaded))
  | joined (name : String) (requested : Option String) (load : Nat) :
      s.isMerged (s.localeFor requested) name = false →
      t.inFlight? (.addition (s.localeFor requested) name) = some load →
      Passage s t (.loadNamespace name requested) .created (.suspended load 0)
  | woken (request : Request) (load number : Nat) (target : Target)
      (outcome : Except Failure Unit) : s.loads[load]? = some ⟨target, .ended outcome⟩ →
      Passage s t request (.suspended load number) (.waking number (.completed outcome))
  | cancelled (request : Request) (phase : Phase) : phase.isOpen = true →
      Passage s t request phase (.waking phase.number .cancelled)
  | stopped (request : Request) (number : Nat) :
      Passage s t request (.waking number .cancelled) (.ended (.error .cancelled))
  | superseded (locale : String) (lazy : Bool) (number : Nat) : number ≠ s.requests →
      Passage s t (.setLocale locale lazy) (.waking number (.completed (.ok ())))
        (.ended (.ok (.changed false)))
  | unchanged (locale : String) (lazy : Bool) (number : Nat) (failure : Failure) :
      Passage s t (.setLocale locale lazy) (.waking number (.completed (.error failure)))
        (.ended (.ok (.changed false)))
  | loaded (request : Request) (number : Nat) : (∀ locale lazy, request ≠ .setLocale locale lazy) →
      Passage s t request (.waking number (.completed (.ok ()))) (.ended (.ok .loaded))
  | failed (request : Request) (number : Nat) (failure : Failure) :
      (∀ locale lazy, request ≠ .setLocale locale lazy) →
      Passage s t request (.waking number (.completed (.error failure))) (.ended (.error failure))

/-- The step of the calls from one state to the next, with the call for a locale that begins
in it, if there is one. -/
inductive CallStep (s t : State) : Option Nat → Prop
  | still (same : SameCalls s t) : CallStep s t none
  | asked (request : Request) (calls : t.calls = s.calls ++ [⟨request, .created⟩])
      (requests : t.requests = s.requests) (locale : t.locale = s.locale) : CallStep s t none
  | opened (call : Nat) (locale : String) (lazy : Bool) (phase : Phase)
      (here : s.calls[call]? = some ⟨.setLocale locale lazy, .created⟩)
      (calls : t.calls = (s.setPhase call phase).calls) (requests : t.requests = s.requests + 1)
      (opening : Opening s t locale phase) : CallStep s t (some call)
  | switched (call : Nat) (locale : String) (lazy : Bool)
      (here : s.calls[call]? =
        some ⟨.setLocale locale lazy, .waking s.requests (.completed (.ok ()))⟩)
      (calls : t.calls = (s.setPhase call (.ended (.ok (.changed true)))).calls)
      (requests : t.requests = s.requests) (switched : t.locale = locale) : CallStep s t none
  | moved (call : Nat) (request : Request) (before after : Phase)
      (here : s.calls[call]? = some ⟨request, before⟩)
      (calls : t.calls = (s.setPhase call after).calls) (requests : t.requests = s.requests)
      (locale : t.locale = s.locale) (passage : Passage s t request before after) :
      CallStep s t none

def opened? (s : State) : Event → Option Nat
  | .perform (.advance call) =>
    if .advance call ∈ s.ready then
      match s.calls[call]? with
      | some ⟨.setLocale .., .created⟩ => some call
      | _ => none
    else none
  | _ => none

theorem getElem?_setPhase (s : State) (call other : Nat) (phase : Phase) :
    (s.setPhase call phase).calls[other]? =
      if call = other then s.calls[other]?.map fun c => { c with phase } else s.calls[other]? := by
  simp only [setPhase, List.getElem?_modify]
  split <;> cases s.calls[other]? <;> rfl

theorem setPhase_cases {s t : State} {call : Nat} {request : Request} {before after : Phase}
    (here : s.calls[call]? = some ⟨request, before⟩)
    (calls : t.calls = (s.setPhase call after).calls) {other : Nat} {c : Call}
    (h : t.calls[other]? = some c) :
    other = call ∧ c = ⟨request, after⟩ ∨ other ≠ call ∧ s.calls[other]? = some c := by
  rw [calls, getElem?_setPhase] at h
  by_cases same : call = other
  · subst same
    simp only [here, ↓reduceIte, Option.map_some, Option.some.injEq] at h
    exact .inl ⟨rfl, h.symm⟩
  · exact .inr ⟨Ne.symm same, by simpa only [if_neg same] using h⟩

theorem setPhase_self {s t : State} {call : Nat} {request : Request} {before after : Phase}
    (here : s.calls[call]? = some ⟨request, before⟩)
    (calls : t.calls = (s.setPhase call after).calls) :
    t.calls[call]? = some ⟨request, after⟩ := by
  simp [calls, getElem?_setPhase, here]

theorem setPhase_of_ne {s t : State} {call other : Nat} {after : Phase}
    (calls : t.calls = (s.setPhase call after).calls) (h : other ≠ call) :
    t.calls[other]? = s.calls[other]? := by
  rw [calls, getElem?_setPhase, if_neg (Ne.symm h)]

theorem inFlight?_createLoad (s : State) (target : Target) :
    (s.createLoad target).inFlight? target = some s.loads.length := by
  cases target <;> simp [createLoad, enter, enqueue, inFlight?, Table.get?_put]

theorem join_step (s : State) (call number : Nat) (target : Target) :
    ∃ load, (s.join call number target).inFlight? target = some load ∧
      (s.join call number target).calls = (s.setPhase call (.suspended load number)).calls ∧
      (s.join call number target).requests = s.requests ∧
      (s.join call number target).locale = s.locale := by
  rw [join]
  cases h : s.inFlight? target with
  | some load => exact ⟨load, h, rfl, rfl, rfl⟩
  | none =>
    have k := createLoad_sameCalls s target
    refine ⟨s.loads.length, ?_, ?_, k.requests, k.locale⟩
    · rw [← inFlight?_createLoad s target]
      cases target <;> rfl
    · simp only [setPhase, k.calls]

theorem CallStep.of_queue {s t : State} {queue : List Job} {opened : Option Nat}
    (h : CallStep { s with ready := queue } t opened) : CallStep s t opened := by
  cases h with
  | still same => exact .still ⟨same.calls, same.requests, same.locale⟩
  | asked request calls requests locale => exact .asked request calls requests locale
  | opened call locale lazy phase here calls requests opening =>
    refine .opened call locale lazy phase here calls requests ?_
    cases opening with
    | present found active => exact .present found active
    | missing found active => exact .missing found active
    | awaited load found active flight => exact .awaited load found active flight
  | switched call locale lazy here calls requests switched =>
    exact .switched call locale lazy here calls requests switched
  | moved call request before after here calls requests locale passage =>
    refine .moved call request before after here calls requests locale ?_
    cases passage <;> constructor <;> assumption

theorem begin_callStep {s : State} {call : Nat} {request : Request}
    (here : s.calls[call]? = some ⟨request, .created⟩) :
    CallStep s (s.begin call request)
      (match request with | .setLocale .. => some call | _ => none) := by
  cases request with
  | setLocale locale lazy =>
    simp only [begin]
    split
    · next found =>
      refine .opened call locale lazy _ here ?_ ?_ (.present found ?_) <;>
        simp [switch, conclude, setPhase]
    · next found =>
      have found : s.catalogs.has locale = false := by simpa using found
      split
      · obtain ⟨load, flight, calls, requests, active⟩ :=
          join_step { s with requests := s.requests + 1 } call (s.requests + 1) (.catalog locale)
        exact .opened call locale lazy _ here calls requests (.awaited load found active flight)
      · exact .opened call locale lazy _ here rfl rfl (.missing found rfl)
  | loadLocale locale =>
    simp only [begin]
    split
    · next found => exact .moved call _ _ _ here rfl rfl rfl (.present locale found)
    · next found =>
      have found : s.catalogs.has locale = false := by simpa using found
      split
      · obtain ⟨load, flight, calls, requests, active⟩ := join_step s call 0 (.catalog locale)
        exact .moved call _ _ _ here calls requests active (.awaited locale load found flight)
      · next missing =>
        exact .moved call _ _ _ here rfl rfl rfl (.unknown locale found (by simpa using missing))
  | loadNamespace name requested =>
    simp only [begin]
    split
    · next done => exact .moved call _ _ _ here rfl rfl rfl (.skipped name requested done)
    · next done =>
      obtain ⟨load, flight, calls, requests, active⟩ :=
        join_step s call 0 (.addition (s.localeFor requested) name)
      refine .moved call _ _ _ here calls requests active (.joined name requested load ?_ flight)
      simp only [Bool.or_eq_true, not_or] at done
      simpa using done.1

theorem resume_callStep {s : State} {call number : Nat} {request : Request} {wake : Wake}
    (here : s.calls[call]? = some ⟨request, .waking number wake⟩) :
    CallStep s (s.resume call number request wake) none := by
  cases wake with
  | cancelled =>
    exact .moved call request _ _ here rfl rfl rfl (.stopped request number)
  | completed outcome =>
    cases request with
    | setLocale locale lazy =>
      cases outcome with
      | error failure =>
        exact .moved call _ _ _ here rfl rfl rfl (.unchanged locale lazy number failure)
      | ok _ =>
        simp only [resume, switch]
        split
        · next same =>
          subst same
          exact .switched call locale lazy here rfl rfl rfl
        · next other =>
          exact .moved call _ _ _ here rfl rfl rfl (.superseded locale lazy number other)
    | loadLocale locale =>
      cases outcome with
      | error failure =>
        exact .moved call _ _ _ here rfl rfl rfl (.failed _ number failure (by simp))
      | ok _ => exact .moved call _ _ _ here rfl rfl rfl (.loaded _ number (by simp))
    | loadNamespace name requested =>
      cases outcome with
      | error failure =>
        exact .moved call _ _ _ here rfl rfl rfl (.failed _ number failure (by simp))
      | ok _ => exact .moved call _ _ _ here rfl rfl rfl (.loaded _ number (by simp))

theorem advance_callStep (s : State) (call : Nat) :
    CallStep s (s.advance call)
      (match s.calls[call]? with | some ⟨.setLocale .., .created⟩ => some call | _ => none) := by
  rw [advance]
  split
  · next request here =>
    have h := begin_callStep here
    cases request <;> simpa only [here] using h
  · next request number wake here =>
    have h := resume_callStep here
    cases request <;> simpa only [here] using h
  · next here other =>
    have h : CallStep s s none := .still (.refl s)
    split
    · next locale lazy same => exact absurd same (here _)
    · exact h

theorem deliver_callStep (s : State) (load call : Nat) :
    CallStep s (s.deliver load call) none := by
  rw [deliver]
  split
  · next target outcome request other number ended here =>
    split
    · next same =>
      subst same
      exact .moved call request _ _ here rfl rfl rfl
        (.woken request other number target outcome ended)
    · exact .still (.refl s)
  · exact .still (.refl s)

theorem cancel_callStep (s : State) (call : Nat) : CallStep s (s.cancel call) none := by
  rw [cancel]
  split
  · next request here =>
    exact .moved call request _ _ here rfl rfl rfl (.cancelled request .created rfl)
  · next request load number here =>
    exact .moved call request _ _ here rfl rfl rfl (.cancelled request (.suspended load number) rfl)
  · next request number wake here =>
    exact .moved call request _ _ here rfl rfl rfl (.cancelled request (.waking number wake) rfl)
  · exact .still (.refl s)

theorem handle_callStep (s : State) (e : Event) : CallStep s (s.handle e) (s.opened? e) := by
  cases e with
  | start request => exact .asked request rfl rfl rfl
  | release load => exact .still (release_sameCalls s load)
  | cancel call => exact cancel_callStep s call
  | mark locale names => exact .still ⟨rfl, rfl, rfl⟩
  | perform job =>
    simp only [handle]
    split
    · next queued =>
      cases job with
      | advance call =>
        simp only [opened?, if_pos queued]
        exact (advance_callStep { s with ready := _ } call).of_queue
      | run load =>
        have h := run_sameCalls { s with ready := s.ready.erase (.run load) } load
        exact .still ⟨h.calls, h.requests, h.locale⟩
      | deliver load call => exact (deliver_callStep { s with ready := _ } load call).of_queue
    · next queued =>
      cases job with
      | advance call =>
        simp only [opened?, if_neg queued]
        exact .still (.refl s)
      | run load => exact .still (.refl s)
      | deliver load call => exact .still (.refl s)

end State

end Localization.Store
