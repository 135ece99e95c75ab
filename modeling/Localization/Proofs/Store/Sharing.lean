import Localization.Proofs.Store.Namespaces
import Localization.Proofs.Store.Scheduling
import Localization.Proofs.Store.Settling

/-! # Loads are shared

At most one load of a target is open at a time, and none is open after one of them has ended
well. A call that needs a catalog joins the open load of it, or creates one when there is none,
and comes back with the outcome of the load that it joined.
-/
namespace Localization.Store.State

def IsOpen (s : State) (load : Nat) (target : Target) : Prop :=
  ∃ stage : Stage, s.loads[load]? = some ⟨target, stage⟩ ∧ stage.isOpen = true

/-- Whether what a load of a target brings in is there. -/
def present (s : State) : Target → Bool
  | .catalog locale => s.catalogs.has locale
  | .addition locale name => s.isMerged locale name

def hasCalled (target : Target) (l : Load) : Bool := l.target == target && l.stage.isCalled

structure SharedLoads (s : State) : Prop where
  loading (locale : String) :
    locale ∈ s.loadingLocales ↔ ∃ load, s.IsOpen load (.catalog locale)
  single (target : Target) (load other : Nat) :
    s.IsOpen load target → s.IsOpen other target → load = other
  done (target : Target) (load : Nat) : s.loads[load]? = some ⟨target, .ended (.ok ())⟩ →
    s.present target = true ∧ ∀ other, ¬ s.IsOpen other target
  counted (target : Target) : s.fetches.count target = s.loads.countP (hasCalled target)
  begun (target : Target) (load : Nat) : s.loads[load]? = some ⟨target, .created⟩ →
    .run load ∈ s.ready ∧ (s.handle (.perform (.run load))).fetches = s.fetches ++ [target]

/-- What an event does to the loads. A source is called for a load that has not called it
before, when all other loads of the target have failed. A load is created when what it is to
bring in is not there and no load of the target is open. -/
structure SharedStep (s t : State) : Prop where
  called : ∃ called : Option Target, t.fetches = s.fetches ++ called.toList ∧
    ∀ target, called = some target → ∃ load, s.loads[load]? = some ⟨target, .created⟩ ∧
      ∀ (other : Nat) (stage : Stage), other ≠ load → s.loads[other]? = some ⟨target, stage⟩ →
        ∃ failure, stage = .ended (.error failure)
  created : ∃ created : Option Target,
    t.loads.map Load.target = s.loads.map Load.target ++ created.toList ∧
      ∀ target, created = some target →
        s.present target = false ∧ ∀ load, ¬ s.IsOpen load target
  freed (target : Target) (load : Nat) : s.IsOpen load target → ¬ t.IsOpen load target →
    ∀ other, ¬ t.IsOpen other target

theorem Tracked.inFlight?_of_isOpen {s : State} (h : s.Tracked) {load : Nat} {target : Target}
    (isOpen : s.IsOpen load target) : s.inFlight? target = some load := by
  obtain ⟨stage, here, isOpen⟩ := isOpen
  exact h.entered load target stage here isOpen

theorem Tracked.single {s : State} (h : s.Tracked) {load other : Nat} {target : Target}
    (first : s.IsOpen load target) (second : s.IsOpen other target) : load = other := by
  have flight := h.inFlight?_of_isOpen first
  rw [h.inFlight?_of_isOpen second] at flight
  exact (Option.some.inj flight).symm

theorem Tracked.isOpen_iff {s : State} (h : s.Tracked) {load : Nat} {locale : String} :
    s.IsOpen load (.catalog locale) ↔ s.inFlight? (.catalog locale) = some load := by
  refine ⟨h.inFlight?_of_isOpen, fun flight => ?_⟩
  obtain ⟨target, stage, here, isOpen, same⟩ := h.held _ load flight
  rw [Target.eq_of_entry same] at here
  exact ⟨stage, here, isOpen⟩

theorem mem_loadingLocales {s : State} {locale : String} :
    locale ∈ s.loadingLocales ↔ ∃ load, s.inFlight? (.catalog locale) = some load := by
  rw [loadingLocales, Table.keys, inFlight?, Table.get?, ← Option.isSome_iff_exists,
    List.lookup_isSome_iff, List.mem_map]
  constructor
  · rintro ⟨entry, inside, rfl⟩
    exact ⟨entry, inside, beq_self_eq_true _⟩
  · rintro ⟨entry, inside, same⟩
    exact ⟨entry, inside, (beq_iff_eq.mp same).symm⟩

theorem Tracked.not_isOpen {s : State} (h : s.Tracked) {target : Target}
    (free : s.inFlight? target = none) (load : Nat) : ¬ s.IsOpen load target := by
  intro isOpen
  rw [h.inFlight?_of_isOpen isOpen] at free
  cases free

theorem present_of_wants {s : State} {target : Target} (wanted : s.wants target = true) :
    s.present target = false := by
  cases target <;> exact (Bool.not_eq_true' _).mp (Bool.and_eq_true_iff.mp wanted).1

theorem handle_present {s : State} {target : Target} (h : s.present target = true) (e : Event) :
    (s.handle e).present target = true := by
  cases target with
  | catalog locale => exact handle_has h e
  | addition locale name => exact handle_isMerged h e

theorem Tracked.isOpen_before {s : State} (h : s.Tracked) {e : Event} {load : Nat} {target : Target}
    (isOpen : (s.handle e).IsOpen load target) :
    s.IsOpen load target ∨ s.present target = false ∧ ∀ other, ¬ s.IsOpen other target := by
  obtain ⟨stage, there, stageOpen⟩ := isOpen
  have went {other : Nat} {sort : Target} {before after : Stage}
      (here : s.loads[other]? = some ⟨sort, before⟩) (wasOpen : before.isOpen = true)
      (loads : (s.handle e).loads = (s.setStage other after).loads) : s.IsOpen load target := by
    rcases setStage_cases here loads there with ⟨rfl, same⟩ | ⟨-, old⟩
    · cases same
      exact ⟨before, here, wasOpen⟩
    · exact ⟨stage, old, stageOpen⟩
  have step := handle_loadStep s e
  generalize s.absorbed? e = absorbed at step
  cases step with
  | still same => exact .inl ⟨stage, same.loads ▸ there, stageOpen⟩
  | marked locale names loads => exact .inl ⟨stage, loads ▸ there, stageOpen⟩
  | created sort free wanted loads =>
    rw [loads] at there
    rcases getElem?_snoc there with old | ⟨-, same⟩
    · exact .inl ⟨stage, old, stageOpen⟩
    · cases same
      exact .inr ⟨present_of_wants wanted, h.not_isOpen free⟩
  | moved other sort before after here wasOpen isOpen loads => exact .inl (went here wasOpen loads)
  | failed other sort before answer failure here wasOpen result loads =>
    exact .inl (went here wasOpen loads)
  | ended other sort before answer messages here wasOpen result loads =>
    exact .inl (went here wasOpen loads)

/-- A load that has ended well did so before, or it ends now and leaves what it brought in. -/
theorem ended_before {s : State} {e : Event} {load : Nat} {target : Target}
    (there : (s.handle e).loads[load]? = some ⟨target, .ended (.ok ())⟩) :
    s.loads[load]? = some ⟨target, .ended (.ok ())⟩ ∨
      s.IsOpen load target ∧ (s.handle e).present target = true := by
  have step := handle_loadStep s e
  generalize s.absorbed? e = absorbed at step
  cases step with
  | still same => exact .inl (same.loads ▸ there)
  | marked locale names loads => exact .inl (loads ▸ there)
  | created sort free wanted loads =>
    rw [loads] at there
    rcases getElem?_snoc there with old | ⟨-, same⟩
    · exact .inl old
    · cases same
  | moved other sort before after here wasOpen isOpen loads =>
    rcases setStage_cases here loads there with ⟨-, same⟩ | ⟨-, old⟩
    · cases same
      cases isOpen
    · exact .inl old
  | failed other sort before answer failure here wasOpen result loads =>
    rcases setStage_cases here loads there with ⟨-, same⟩ | ⟨-, old⟩
    · cases same
    · exact .inl old
  | ended other sort before answer messages here wasOpen result loads catalogs merged =>
    rcases setStage_cases here loads there with ⟨rfl, same⟩ | ⟨-, old⟩
    · cases same
      refine .inr ⟨⟨before, here, wasOpen⟩, ?_⟩
      cases target with
      | catalog locale =>
        rw [present, catalogs]
        exact (takeIn_has_iff ..).mpr (.inr rfl)
      | addition locale name =>
        rw [present, merged, beq_self_eq_true, Bool.or_true]
    · exact .inl old

/-- A load that ended well has left what it brought in, and no load of its target is open. -/
def Finished (s : State) : Prop :=
  ∀ (target : Target) (load : Nat), s.loads[load]? = some ⟨target, .ended (.ok ())⟩ →
    s.present target = true ∧ ∀ other, ¬ s.IsOpen other target

theorem Finished.handle {s : State} (h : s.Finished) (tracked : s.Tracked) (e : Event) :
    (s.handle e).Finished := by
  intro target load there
  rcases ended_before there with old | ⟨wasOpen, present⟩
  · obtain ⟨present, none⟩ := h target load old
    refine ⟨handle_present present e, fun other isOpen => ?_⟩
    rcases tracked.isOpen_before isOpen with before | ⟨absent, -⟩
    · exact none other before
    · rw [present] at absent
      cases absent
  · refine ⟨present, fun other isOpen => ?_⟩
    rcases tracked.isOpen_before isOpen with before | ⟨-, none⟩
    · obtain ⟨stage, here, stageOpen⟩ := isOpen
      rw [← tracked.single wasOpen before, there] at here
      cases here
      cases stageOpen
    · exact none load wasOpen

theorem countP_modify {α : Type} (p : α → Bool) (f : α → α) {xs : List α} {i : Nat} {x : α}
    (here : xs[i]? = some x) :
    (xs.modify i f).countP p + (if p x then 1 else 0) = xs.countP p + if p (f x) then 1 else 0 := by
  have sum (ys : List α) : total (fun y => if p y then 1 else 0) ys = ys.countP p := by
    induction ys with
    | nil => rfl
    | cons y others ih => rw [total, List.countP_cons, ih, Nat.add_comm]
  have moved := total_modify f (fun y => if p y then 1 else 0) here
  rwa [sum, sum] at moved

def Counted (s : State) : Prop :=
  ∀ target, s.fetches.count target = s.loads.countP (hasCalled target)

theorem Counted.of_same {s t : State} (h : s.Counted) (fetches : t.fetches = s.fetches)
    (loads : t.loads = s.loads) : t.Counted := by
  intro target
  rw [fetches, loads]
  exact h target

theorem countP_setStage {s : State} {load : Nat} {sort : Target} {before : Stage}
    (here : s.loads[load]? = some ⟨sort, before⟩) (after : Stage) (target : Target) :
    (s.setStage load after).loads.countP (hasCalled target) +
        (if hasCalled target ⟨sort, before⟩ then 1 else 0) =
      s.loads.countP (hasCalled target) + if hasCalled target ⟨sort, after⟩ then 1 else 0 :=
  countP_modify (hasCalled target) (fun l => { l with stage := after }) here

theorem Counted.setStage {s : State} (h : s.Counted) {load : Nat} {sort : Target}
    {before after : Stage} (here : s.loads[load]? = some ⟨sort, before⟩)
    (called : before.isCalled = true) (stays : after.isCalled = true) :
    (s.setStage load after).Counted := by
  intro target
  have moved := countP_setStage here after target
  simp only [hasCalled, called, stays] at moved
  exact (h target).trans (Nat.add_right_cancel moved).symm

theorem Counted.fetched {s : State} (h : s.Counted) {load : Nat} {sort : Target} {after : Stage}
    (here : s.loads[load]? = some ⟨sort, .created⟩) (called : after.isCalled = true) :
    ((s.fetched sort).setStage load after).Counted := by
  intro target
  have moved := countP_setStage here after target
  have before := h target
  have fetches : ((s.fetched sort).setStage load after).fetches.count target =
      s.fetches.count target + if sort == target then 1 else 0 := by
    rw [← List.count_singleton, ← List.count_append]
    rfl
  have loads : ((s.fetched sort).setStage load after).loads = (s.setStage load after).loads := rfl
  have uncalled : Stage.isCalled .created = false := rfl
  simp only [hasCalled, called, uncalled, Bool.and_false, Bool.and_true, Bool.false_eq_true,
    if_false, Nat.add_zero] at moved
  rw [fetches, loads, moved, before]

theorem Counted.perform {s : State} (h : s.Counted) (job : Job) : (s.perform job).Counted := by
  have step := perform_jobStep s job
  cases step with
  | idle job nothing same => exact h.of_same same.fetches same.loads
  | refused call request outcome here unwanted same => exact h.of_same same.fetches same.loads
  | joined call request load number target here demand wanted flight same =>
    exact h.of_same same.fetches same.loads
  | created call request number target here demand wanted free same =>
    intro other
    have fetches : (s.perform (.advance call)).fetches = s.fetches := by
      rw [same.fetches]
      cases target <;> rfl
    have loads : (s.perform (.advance call)).loads = s.loads ++ [⟨target, .created⟩] := same.loads
    have new : [Load.mk target .created].countP (hasCalled other) = 0 := by
      simp [hasCalled, Stage.isCalled]
    rw [fetches, loads, List.countP_append, new]
    exact h other
  | resumed call request number wake outcome here reply same =>
    exact h.of_same same.fetches same.loads
  | held load target answer here same =>
    exact Counted.of_same (h.fetched here rfl) same.fetches same.loads
  | answered load target outcome here same =>
    have counted : ((s.fetched target).setStage load (.ended outcome)).Counted := h.fetched here rfl
    exact counted.of_same same.fetches same.loads
  | ended load target requests answer outcome here same =>
    have counted : (s.setStage load (.ended outcome)).Counted := h.setStage here rfl rfl
    exact counted.of_same same.fetches same.loads
  | woken load call request number target outcome here done same =>
    exact h.of_same same.fetches same.loads

theorem Counted.handle {s : State} (h : s.Counted) (e : Event) : (s.handle e).Counted := by
  cases e with
  | start request => exact h.of_same rfl rfl
  | release load =>
    simp only [State.handle, release]
    split
    · next target requests answer here =>
      exact Counted.of_same (h.setStage here rfl rfl) rfl rfl
    · exact h
  | cancel call =>
    simp only [State.handle, cancel]
    split <;> exact h.of_same rfl rfl
  | mark locale names => exact h.of_same rfl rfl
  | perform job =>
    simp only [State.handle]
    split
    · have dequeued : State.Counted { s with ready := s.ready.erase job } := h.of_same rfl rfl
      exact dequeued.perform job
    · exact h

def CallsSource (s t : State) : Prop :=
  ∃ called : Option Target, t.fetches = s.fetches ++ called.toList ∧
    ∀ target, called = some target →
      ∃ load : Nat, s.loads[load]? = some ⟨target, .created⟩

theorem CallsSource.of_same {s t : State} (same : t.fetches = s.fetches) : CallsSource s t :=
  ⟨none, by rw [same, Option.toList_none, List.append_nil], fun _ none => by cases none⟩

theorem CallsSource.of_fetched {s t : State} {load : Nat} {target : Target}
    (here : s.loads[load]? = some ⟨target, .created⟩) (fetches : t.fetches = s.fetches ++ [target]) :
    CallsSource s t :=
  ⟨some target, fetches, fun _ same => ⟨load, Option.some.inj same ▸ here⟩⟩

theorem perform_callsSource (s : State) (job : Job) : CallsSource s (s.perform job) := by
  have step := perform_jobStep s job
  cases step with
  | idle job nothing same => exact .of_same same.fetches
  | refused call request outcome here unwanted same => exact .of_same same.fetches
  | joined call request load number target here demand wanted flight same =>
    exact .of_same same.fetches
  | created call request number target here demand wanted free same =>
    refine .of_same (same.fetches.trans ?_)
    cases target <;> rfl
  | resumed call request number wake outcome here reply same => exact .of_same same.fetches
  | held load target answer here same => exact .of_fetched here same.fetches
  | answered load target outcome here same => exact .of_fetched here same.fetches
  | ended load target requests answer outcome here same => exact .of_same same.fetches
  | woken load call request number target outcome here done same => exact .of_same same.fetches

theorem handle_callsSource (s : State) (e : Event) : CallsSource s (s.handle e) := by
  cases e with
  | start request => exact .of_same rfl
  | release load =>
    simp only [State.handle, release]
    split <;> exact .of_same rfl
  | cancel call =>
    simp only [State.handle, cancel]
    split <;> exact .of_same rfl
  | mark locale names => exact .of_same rfl
  | perform job =>
    simp only [State.handle]
    split
    · exact perform_callsSource { s with ready := s.ready.erase job } job
    · exact .of_same rfl

theorem Scheduled.begun {s : State} (h : s.Scheduled none) {target : Target} {load : Nat}
    (here : s.loads[load]? = some ⟨target, .created⟩) :
    .run load ∈ s.ready ∧ (s.handle (.perform (.run load))).fetches = s.fetches ++ [target] := by
  have queued : .run load ∈ s.ready := by
    rcases h.loads load _ here with queued | running
    · exact queued
    · cases running
  refine ⟨queued, ?_⟩
  simp only [State.handle, if_pos queued]
  have step := perform_jobStep { s with ready := s.ready.erase (.run load) } (.run load)
  generalize State.perform { s with ready := s.ready.erase (.run load) } (.run load) = t at step
  cases step with
  | idle _ nothing same =>
    have absent := (nothing target .created here).1 rfl
    have source : s.hasSource target = false := by
      rw [← absent]
      cases target <;> rfl
    rw [h.sources load _ here] at source
    cases source
  | held _ other answer there same =>
    cases here.symm.trans there
    exact same.fetches
  | answered _ other outcome there same =>
    cases here.symm.trans there
    exact same.fetches
  | ended _ other requests answer outcome there same => cases here.symm.trans there

structure Orderly (s : State) : Prop where
  tracked : s.Tracked
  scheduled : s.Scheduled none
  finished : s.Finished
  counted : s.Counted

theorem Orderly.handle {s : State} (h : s.Orderly) (e : Event) : (s.handle e).Orderly :=
  ⟨h.tracked.handle e, h.scheduled.handle h.tracked e, h.finished.handle h.tracked e,
    h.counted.handle e⟩

theorem Orderly.after {s : State} (h : s.Orderly) (events : List Event) : (s.after events).Orderly :=
  after_induction (fun _ e orderly => orderly.handle e) h events

theorem IsNew.orderly {s : State} (h : s.IsNew) (events : List Event) : (s.after events).Orderly := by
  obtain ⟨-, -, -, -, -, loads, fetches, -⟩ := h.blank
  have finished : s.Finished := by
    intro target load there
    simp [loads] at there
  have counted : s.Counted := by
    intro target
    rw [loads, fetches]
    rfl
  have orderly : s.Orderly := ⟨h.tracked, h.scheduled, finished, counted⟩
  exact orderly.after events

theorem Orderly.sharedLoads {s : State} (h : s.Orderly) : s.SharedLoads where
  loading locale := by
    rw [mem_loadingLocales]
    exact exists_congr fun load => h.tracked.isOpen_iff.symm
  single target load other := h.tracked.single
  done := h.finished
  counted := h.counted
  begun target load here := h.scheduled.begun here

theorem map_target_setStage (s : State) (load : Nat) (stage : Stage) :
    (s.setStage load stage).loads.map Load.target = s.loads.map Load.target := by
  refine List.ext_getElem? fun other => ?_
  rw [List.getElem?_map, List.getElem?_map, getElem?_setStage]
  split
  · rw [Option.map_map]
    rfl
  · rfl

theorem Tracked.creates {s : State} (h : s.Tracked) (e : Event) :
    ∃ created : Option Target,
      (s.handle e).loads.map Load.target = s.loads.map Load.target ++ created.toList ∧
        ∀ target, created = some target →
          s.present target = false ∧ ∀ load, ¬ s.IsOpen load target := by
  have unchanged {targets : List Target} (same : targets = s.loads.map Load.target) :
      ∃ created : Option Target, targets = s.loads.map Load.target ++ created.toList ∧
        ∀ target, created = some target →
          s.present target = false ∧ ∀ load, ¬ s.IsOpen load target :=
    ⟨none, by rw [same, Option.toList_none, List.append_nil], fun _ none => by cases none⟩
  have step := handle_loadStep s e
  generalize s.absorbed? e = absorbed at step
  cases step with
  | still same => exact unchanged (congrArg _ same.loads)
  | marked locale names loads => exact unchanged (congrArg _ loads)
  | created target free wanted loads =>
    refine ⟨some target, by rw [loads, List.map_append]; rfl, ?_⟩
    rintro _ ⟨⟩
    exact ⟨present_of_wants wanted, h.not_isOpen free⟩
  | moved load target before after here wasOpen isOpen loads =>
    exact unchanged (by rw [loads, map_target_setStage])
  | failed load target before answer failure here wasOpen result loads =>
    exact unchanged (by rw [loads, map_target_setStage])
  | ended load target before answer messages here wasOpen result loads =>
    exact unchanged (by rw [loads, map_target_setStage])

theorem Orderly.sharedStep {s : State} (h : s.Orderly) (e : Event) : SharedStep s (s.handle e) where
  called := by
    obtain ⟨called, fetches, begun⟩ := handle_callsSource s e
    refine ⟨called, fetches, fun target now => ?_⟩
    obtain ⟨load, here⟩ := begun target now
    have isOpen : s.IsOpen load target := ⟨.created, here, rfl⟩
    refine ⟨load, here, fun other stage differ there => ?_⟩
    match stage, there with
    | .ended (.error failure), _ => exact ⟨failure, rfl⟩
    | .ended (.ok ()), there => exact absurd isOpen ((h.finished target other there).2 load)
    | .created, there => exact absurd (h.tracked.single ⟨_, there, rfl⟩ isOpen) differ
    | .held .., there => exact absurd (h.tracked.single ⟨_, there, rfl⟩ isOpen) differ
    | .released .., there => exact absurd (h.tracked.single ⟨_, there, rfl⟩ isOpen) differ
  created := h.tracked.creates e
  freed target load wasOpen ended other isOpen := by
    rcases h.tracked.isOpen_before isOpen with before | ⟨-, none⟩
    · exact ended (h.tracked.single before wasOpen ▸ isOpen)
    · exact none load wasOpen

end Localization.Store.State
