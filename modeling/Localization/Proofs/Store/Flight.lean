import Localization.Proofs.Store.LoadStep

/-! # Loads in flight and the calls that wait for them

The loads in flight are the loads that have not ended, each in a place of its own. A call
that needs a catalog waits for the load of that catalog, so the catalog is there when the
call ends well.
-/
namespace Localization.Store

/-- The locale whose catalog a request needs. -/
def Request.catalog? : Request → Option String
  | setLocale locale _ => some locale
  | loadLocale locale => some locale
  | loadNamespace .. => none

theorem Target.eq_of_entry {target : Target} {locale : String}
    (h : target.entry = (catalog locale).entry) : target = catalog locale := by
  cases target with
  | catalog other => simpa [entry] using h
  | addition other name => simp [entry] at h

theorem takeIn_has_iff (catalogs : Table Entries) (item : Target × Entries) (locale : String) :
    (takeIn catalogs item).has locale = true ↔
      catalogs.has locale = true ∨ item.1.locale = locale := by
  obtain ⟨target, messages⟩ := item
  have added (other : String) (entries : Entries) :
      (catalogs.put other entries).has locale = true ↔
        catalogs.has locale = true ∨ other = locale := by
    rw [Table.has_put, Bool.or_eq_true, beq_iff_eq, or_comm]
    exact or_congr Iff.rfl eq_comm
  cases target <;> exact added ..

namespace State

/-- The loads in flight are the open ones, and a load that ended well has left a catalog. -/
structure Tracked (s : State) : Prop where
  held (target : Target) (load : Nat) : s.inFlight? target = some load →
    ∃ (other : Target) (stage : Stage), s.loads[load]? = some ⟨other, stage⟩ ∧
      stage.isOpen = true ∧ other.entry = target.entry
  entered (load : Nat) (target : Target) (stage : Stage) :
    s.loads[load]? = some ⟨target, stage⟩ → stage.isOpen = true → s.inFlight? target = some load
  ended (load : Nat) (target : Target) : s.loads[load]? = some ⟨target, .ended (.ok ())⟩ →
    s.catalogs.has target.locale = true

theorem IsNew.tracked {s : State} (h : s.IsNew) : s.Tracked := by
  obtain ⟨-, -, catalogLoads, additionLoads, -, loads, -⟩ := h.blank
  refine ⟨?_, ?_, ?_⟩
  · intro target load found
    cases target <;> simp [inFlight?, catalogLoads, additionLoads, Table.get?] at found
  · intro load target stage found
    simp [loads] at found
  · intro load target found
    simp [loads] at found

theorem Tracked.of_same {s t : State} (h : s.Tracked) (loads : t.loads = s.loads)
    (catalogs : t.catalogs = s.catalogs)
    (inFlight : ∀ target, t.inFlight? target = s.inFlight? target) : t.Tracked := by
  refine ⟨?_, ?_, ?_⟩
  · intro target load found
    rw [inFlight] at found
    rw [loads]
    exact h.held target load found
  · intro load target stage found isOpen
    rw [loads] at found
    rw [inFlight]
    exact h.entered load target stage found isOpen
  · intro load target found
    rw [loads] at found
    rw [catalogs]
    exact h.ended load target found

theorem handle_has {s : State} {locale : String} (h : s.catalogs.has locale = true) (e : Event) :
    (s.handle e).catalogs.has locale = true := by
  rw [handle_catalogs]
  cases s.absorbed? e with
  | none => exact h
  | some item => exact (takeIn_has_iff s.catalogs item locale).mpr (.inl h)

theorem Tracked.created {s t : State} (h : s.Tracked) {target : Target}
    (free : s.inFlight? target = none) (loads : t.loads = s.loads ++ [⟨target, .created⟩])
    (catalogs : t.catalogs = s.catalogs)
    (inFlight : ∀ other, t.inFlight? other =
      if other.entry = target.entry then some s.loads.length else s.inFlight? other) :
    t.Tracked := by
  have new : t.loads[s.loads.length]? = some ⟨target, .created⟩ := by simp [loads]
  have old {load : Nat} {l : Load} (here : s.loads[load]? = some l) : t.loads[load]? = some l :=
    loads ▸ getElem?_kept here _
  have cases_of {load : Nat} {l : Load} (here : t.loads[load]? = some l) :
      s.loads[load]? = some l ∨ load = s.loads.length ∧ l = ⟨target, .created⟩ := by
    rw [loads] at here
    exact getElem?_snoc here
  refine ⟨?_, ?_, ?_⟩
  · intro other load found
    rw [inFlight] at found
    split at found
    · next same =>
      cases found
      exact ⟨target, .created, new, rfl, same.symm⟩
    · obtain ⟨held, stage, here, isOpen, same⟩ := h.held other load found
      exact ⟨held, stage, old here, isOpen, same⟩
  · intro load other stage here isOpen
    rw [inFlight]
    rcases cases_of here with here | ⟨rfl, same⟩
    · have entered := h.entered load other stage here isOpen
      split
      · next same => rw [s.inFlight?_congr same, free] at entered; cases entered
      · exact entered
    · cases same
      rw [if_pos rfl]
  · intro load other here
    rw [catalogs]
    rcases cases_of here with here | ⟨-, same⟩
    · exact h.ended load other here
    · cases same

theorem Tracked.moved {s t : State} (h : s.Tracked) {load : Nat} {target : Target}
    {before after : Stage} (here : s.loads[load]? = some ⟨target, before⟩)
    (wasOpen : before.isOpen = true) (isOpen : after.isOpen = true)
    (loads : t.loads = (s.setStage load after).loads) (catalogs : t.catalogs = s.catalogs)
    (inFlight : ∀ target, t.inFlight? target = s.inFlight? target) : t.Tracked := by
  refine ⟨?_, ?_, ?_⟩
  · intro other found flight
    rw [inFlight] at flight
    obtain ⟨held, stage, there, wasHeld, same⟩ := h.held other found flight
    by_cases eq : found = load
    · subst eq
      rw [here] at there
      cases there
      exact ⟨target, after, setStage_self here loads, isOpen, same⟩
    · exact ⟨held, stage, (setStage_of_ne loads eq).trans there, wasHeld, same⟩
  · intro found other stage there stageOpen
    rw [inFlight]
    rcases setStage_cases here loads there with ⟨rfl, same⟩ | ⟨-, there⟩
    · cases same
      exact h.entered found target before here wasOpen
    · exact h.entered found other stage there stageOpen
  · intro found other there
    rw [catalogs]
    rcases setStage_cases here loads there with ⟨rfl, same⟩ | ⟨-, there⟩
    · cases same
      cases isOpen
    · exact h.ended found other there

theorem Tracked.left {s t : State} (h : s.Tracked) {load : Nat} {target : Target}
    {before : Stage} {outcome : Except Failure Unit}
    (here : s.loads[load]? = some ⟨target, before⟩) (wasOpen : before.isOpen = true)
    (loads : t.loads = (s.setStage load (.ended outcome)).loads)
    (kept : ∀ locale, s.catalogs.has locale = true → t.catalogs.has locale = true)
    (filled : outcome = .ok () → t.catalogs.has target.locale = true)
    (inFlight : ∀ other, t.inFlight? other =
      if other.entry = target.entry then none else s.inFlight? other) : t.Tracked := by
  have place := h.entered load target before here wasOpen
  refine ⟨?_, ?_, ?_⟩
  · intro other found flight
    rw [inFlight] at flight
    split at flight
    · cases flight
    · next differ =>
      obtain ⟨held, stage, there, wasHeld, same⟩ := h.held other found flight
      have ne : found ≠ load := by
        rintro rfl
        rw [here] at there
        cases there
        exact differ same.symm
      exact ⟨held, stage, (setStage_of_ne loads ne).trans there, wasHeld, same⟩
  · intro found other stage there stageOpen
    rcases setStage_cases here loads there with ⟨rfl, same⟩ | ⟨ne, there⟩
    · cases same
      cases stageOpen
    · have entered := h.entered found other stage there stageOpen
      rw [inFlight, if_neg, entered]
      intro same
      rw [s.inFlight?_congr same, place] at entered
      exact ne (Option.some.inj entered).symm
  · intro found other there
    rcases setStage_cases here loads there with ⟨rfl, same⟩ | ⟨-, there⟩
    · cases same
      exact filled rfl
    · exact kept _ (h.ended found other there)

theorem Tracked.handle {s : State} (h : s.Tracked) (e : Event) : (s.handle e).Tracked := by
  have kept (locale : String) (found : s.catalogs.has locale = true) := handle_has found e
  have step := handle_loadStep s e
  generalize s.absorbed? e = absorbed at step
  cases step with
  | still same => exact h.of_same same.loads same.catalogs same.inFlight
  | marked locale names loads catalogs merged inFlight => exact h.of_same loads catalogs inFlight
  | created target free wanted loads catalogs merged inFlight =>
    exact h.created free loads catalogs inFlight
  | moved load target before after here wasOpen isOpen loads catalogs merged inFlight =>
    exact h.moved here wasOpen isOpen loads catalogs inFlight
  | failed load target before answer failure here wasOpen result loads catalogs merged inFlight =>
    exact h.left here wasOpen loads kept (fun same => by cases same) inFlight
  | ended load target before answer messages here wasOpen result loads catalogs merged inFlight =>
    refine h.left here wasOpen loads kept (fun _ => ?_) inFlight
    rw [catalogs]
    exact (takeIn_has_iff ..).mpr (.inr rfl)

/-- What a call that needs a catalog can rely on: it waits for the load of that catalog, and
the catalog is there when it is told of the end and when it ends well itself. -/
def Serves (s : State) (c : Call) : Prop :=
  ∀ locale, c.request.catalog? = some locale →
    match c.phase with
    | .suspended load _ => ∃ stage : Stage, s.loads[load]? = some ⟨.catalog locale, stage⟩
    | .waking _ (.completed (.ok _)) => s.catalogs.has locale = true
    | .ended (.ok (.changed false)) => True
    | .ended (.ok _) => s.catalogs.has locale = true
    | _ => True

def ServesAll (s : State) : Prop := ∀ (call : Nat) (c : Call), s.calls[call]? = some c → s.Serves c

theorem handle_target {s : State} {load : Nat} {target : Target} {stage : Stage}
    (here : s.loads[load]? = some ⟨target, stage⟩) (e : Event) :
    ∃ after : Stage, (s.handle e).loads[load]? = some ⟨target, after⟩ := by
  have renewed {t : State} {other : Nat} {sort : Target} {before after : Stage}
      (there : s.loads[other]? = some ⟨sort, before⟩)
      (loads : t.loads = (s.setStage other after).loads) :
      ∃ after : Stage, t.loads[load]? = some ⟨target, after⟩ := by
    by_cases same : load = other
    · subst same
      rw [here] at there
      cases there
      exact ⟨after, setStage_self here loads⟩
    · exact ⟨stage, (setStage_of_ne loads same).trans here⟩
  have step := handle_loadStep s e
  generalize s.absorbed? e = absorbed at step
  cases step with
  | still same => exact ⟨stage, same.loads ▸ here⟩
  | marked locale names loads => exact ⟨stage, loads ▸ here⟩
  | created other free wanted loads =>
    exact ⟨stage, loads ▸ getElem?_kept here _⟩
  | moved other sort before after there wasOpen isOpen loads => exact renewed there loads
  | failed other sort before answer failure there wasOpen result loads => exact renewed there loads
  | ended other sort before answer messages there wasOpen result loads => exact renewed there loads

theorem Serves.handle {s : State} {c : Call} (h : s.Serves c) (e : Event) :
    (s.handle e).Serves c := by
  intro locale needs
  have served := h locale needs
  obtain ⟨request, phase⟩ := c
  cases phase with
  | created => trivial
  | suspended load number =>
    obtain ⟨stage, here⟩ := served
    exact handle_target here e
  | waking number wake =>
    match wake, served with
    | .cancelled, _ => trivial
    | .completed (.error _), _ => trivial
    | .completed (.ok _), found => exact handle_has found e
  | ended outcome =>
    match outcome, served with
    | .error _, _ => trivial
    | .ok (.changed false), _ => trivial
    | .ok (.changed true), found => exact handle_has found e
    | .ok .loaded, found => exact handle_has found e

theorem ServesAll.handle {s : State} (h : s.ServesAll) (tracked : s.Tracked) (e : Event) :
    (s.handle e).ServesAll := by
  have kept {locale : String} (found : s.catalogs.has locale = true) := handle_has found e
  have joined {load : Nat} {locale : String}
      (flight : (s.handle e).inFlight? (.catalog locale) = some load) :
      ∃ stage : Stage, (s.handle e).loads[load]? = some ⟨.catalog locale, stage⟩ := by
    obtain ⟨other, stage, here, -, same⟩ := (tracked.handle e).held _ _ flight
    exact ⟨stage, Target.eq_of_entry same ▸ here⟩
  intro other c found
  have step := handle_callStep s e
  generalize s.opened? e = opened at step
  cases step with
  | still same => exact (h other c (same.calls ▸ found)).handle e
  | asked request calls =>
    rw [calls] at found
    rcases getElem?_snoc found with old | ⟨-, rfl⟩
    · exact (h other c old).handle e
    · exact fun _ _ => trivial
  | opened call locale lazy phase here calls requests opening =>
    rcases setPhase_cases here calls found with ⟨-, rfl⟩ | ⟨-, old⟩
    · intro needed needs
      cases needs
      cases opening with
      | present has => exact kept has
      | missing => trivial
      | awaited load _ _ flight => exact joined flight
    · exact (h other c old).handle e
  | switched call locale lazy here calls =>
    rcases setPhase_cases here calls found with ⟨-, rfl⟩ | ⟨-, old⟩
    · intro needed needs
      exact kept (h call _ here needed needs)
    · exact (h other c old).handle e
  | moved call request before after here calls requests active passage =>
    rcases setPhase_cases here calls found with ⟨-, rfl⟩ | ⟨-, old⟩
    · intro needed needs
      have served := h call _ here needed needs
      cases passage with
      | present locale has =>
        cases needs
        exact kept has
      | awaited locale load _ flight =>
        cases needs
        exact joined flight
      | joined name requested load => cases needs
      | skipped name requested => cases needs
      | woken _ load number target outcome ended =>
        cases outcome with
        | error failure => trivial
        | ok _ =>
          obtain ⟨stage, there⟩ := served
          rw [there] at ended
          cases ended
          exact kept (tracked.ended load _ there)
      | loaded => exact kept served
      | unknown | cancelled | stopped | superseded | unchanged | failed => trivial
    · exact (h other c old).handle e

theorem IsNew.serves {s : State} (h : s.IsNew) (events : List Event) :
    (s.after events).Tracked ∧ (s.after events).ServesAll := by
  refine after_induction (P := fun s => s.Tracked ∧ s.ServesAll)
    (fun _ e ih => ⟨ih.1.handle e, ih.2.handle ih.1 e⟩) ⟨h.tracked, ?_⟩ events
  obtain ⟨-, -, -, -, calls, -⟩ := h.blank
  intro call c found
  simp [calls] at found

end State

end Localization.Store
