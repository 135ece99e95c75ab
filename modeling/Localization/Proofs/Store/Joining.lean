import Localization.Proofs.Store.Waiting

/-! # Calls that join a load

A call for a locale whose catalog is absent is suspended on the one open load of the catalog.
If there is none, the call creates one, whose source is called exactly once until it ends. The
call comes back with the outcome of the load, unless it is cancelled.
-/
namespace Localization.Store.State

/-- A call for a locale has begun between two states and waits for a load of the catalog. The
load was open before, or it is new; then its source is the next one of the catalog to be
called, and no other call of it comes before the load has ended. -/
structure Joins (s t : State) (call : Nat) (locale : String) (load : Nat) : Prop where
  waits : ∃ number, t.calls[call]? = some ⟨.loadLocale locale, .suspended load number⟩
  isOpen : t.IsOpen load (.catalog locale)
  uncalled : t.fetches = s.fetches
  shared : s.IsOpen load (.catalog locale) ∧ t.loads = s.loads ∨
    (∀ other, ¬ s.IsOpen other (.catalog locale)) ∧
      t.loads = s.loads ++ [⟨.catalog locale, .created⟩] ∧ load = s.loads.length
  once (later : List Event) (e : Event) (stage : Stage) :
    (∀ other, ¬ s.IsOpen other (.catalog locale)) →
    (t.after later).IsOpen load (.catalog locale) →
    ((t.after later).handle e).loads[load]? = some ⟨.catalog locale, stage⟩ →
    ((t.after later).handle e).fetches.count (.catalog locale) =
      s.fetches.count (.catalog locale) + if stage.isCalled then 1 else 0

/-- A call for a locale that waits for a load comes back with the outcome of the load when that
has ended. -/
structure Returns (s : State) (call : Nat) (locale : String) (load : Nat) : Prop where
  reply (outcome : Except Failure Reply) :
    s.calls[call]? = some ⟨.loadLocale locale, .ended outcome⟩ →
      ∃ result, s.loads[load]? = some ⟨.catalog locale, .ended result⟩ ∧ outcome = replyTo result
  told (result : Except Failure Unit) : s.loads[load]? = some ⟨.catalog locale, .ended result⟩ →
    s.settle.value.calls[call]? = some ⟨.loadLocale locale, .ended (replyTo result)⟩

theorem isCalled_of_not_isOpen {stage : Stage} (h : stage.isOpen = false) :
    stage.isCalled = true := by
  cases stage with
  | created => cases h
  | held | released | ended => rfl

def created (s : State) (target : Target) : Nat := (s.loads.map Load.target).count target

theorem created_eq (s : State) (target : Target) :
    s.created target = s.loads.countP fun l => l.target == target := by
  rw [created, List.count_eq_countP, List.countP_map]
  rfl

theorem countP_hasCalled_of_free {s : State} {target : Target}
    (free : ∀ load, ¬ s.IsOpen load target) :
    s.loads.countP (hasCalled target) = s.created target := by
  rw [created_eq]
  refine List.countP_congr fun l inside => ?_
  obtain ⟨load, here⟩ := List.getElem?_of_mem inside
  obtain ⟨sort, stage⟩ := l
  constructor
  · intro both
    exact (Bool.and_eq_true_iff.mp both).1
  · intro same
    have same : sort = target := beq_iff_eq.mp same
    subst same
    refine Bool.and_eq_true_iff.mpr ⟨beq_self_eq_true sort, isCalled_of_not_isOpen ?_⟩
    exact Bool.eq_false_iff.mpr fun isOpen => free load ⟨stage, here, isOpen⟩

theorem countP_hasCalled_of_last {s : State} {target : Target} {load : Nat} {stage : Stage}
    (here : s.loads[load]? = some ⟨target, stage⟩)
    (last : ∀ other, s.IsOpen other target → other = load) :
    s.loads.countP (hasCalled target) + 1 = s.created target + if stage.isCalled then 1 else 0 := by
  -- With the load ended, none of the target is open.
  have loads := Eq.refl (s.setStage load (.ended (.ok ()))).loads
  have free : ∀ other, ¬ (s.setStage load (.ended (.ok ()))).IsOpen other target := by
    rintro other ⟨after, there, isOpen⟩
    rcases setStage_cases here loads there with ⟨-, same⟩ | ⟨differ, old⟩
    · cases same
      cases isOpen
    · exact differ (last other ⟨after, old, isOpen⟩)
  have moved := countP_setStage here (.ended (.ok ())) target
  have ended : Stage.isCalled (.ended (.ok ())) = true := rfl
  rw [countP_hasCalled_of_free free, created, map_target_setStage] at moved
  simp only [hasCalled, beq_self_eq_true, Bool.true_and, ended, if_true] at moved
  exact moved.symm

theorem Tracked.created_handle {s : State} (h : s.Tracked) {load : Nat} {target : Target}
    (isOpen : s.IsOpen load target) (e : Event) : (s.handle e).created target = s.created target := by
  obtain ⟨created, targets, fresh⟩ := h.creates e
  rw [State.created, targets, List.count_append, ← State.created]
  cases created with
  | none => rfl
  | some sort =>
    have differ : sort ≠ target := fun same => (fresh sort rfl).2 load (same ▸ isOpen)
    simp [differ]

theorem Orderly.created_after {s : State} (h : s.Orderly) {load : Nat} {target : Target}
    (isOpen : s.IsOpen load target) (later : List Event) :
    (s.after later).Orderly ∧ ∃ stage : Stage, (s.after later).loads[load]? = some ⟨target, stage⟩ ∧
      (stage.isOpen = true → (s.after later).created target = s.created target) := by
  obtain ⟨stage, here, -⟩ := isOpen
  refine @after_induction (fun t => t.Orderly ∧ ∃ stage : Stage,
    t.loads[load]? = some ⟨target, stage⟩ ∧
      (stage.isOpen = true → t.created target = s.created target)) ?_ s
    ⟨h, stage, here, fun _ => rfl⟩ later
  intro t e ⟨orderly, stage, here, count⟩
  refine ⟨orderly.handle e, ?_⟩
  match stage with
  | .ended result => exact ⟨.ended result, handle_ended here e, fun isOpen => by cases isOpen⟩
  | .created | .held .. | .released .. =>
    obtain ⟨after, there⟩ := handle_target here e
    refine ⟨after, there, fun _ => ?_⟩
    exact (orderly.tracked.created_handle ⟨_, here, rfl⟩ e).trans (count rfl)

theorem Orderly.called_once {s t : State} (h : s.Orderly) (k : t.Orderly) {target : Target}
    (free : ∀ other, ¬ s.IsOpen other target)
    (loads : t.loads = s.loads ++ [⟨target, .created⟩]) (later : List Event) (e : Event)
    {stage : Stage} (isOpen : (t.after later).IsOpen s.loads.length target)
    (there : ((t.after later).handle e).loads[s.loads.length]? = some ⟨target, stage⟩) :
    ((t.after later).handle e).fetches.count target =
      s.fetches.count target + if stage.isCalled then 1 else 0 := by
  have new : t.loads[s.loads.length]? = some ⟨target, .created⟩ := by
    rw [loads]
    exact List.getElem?_concat_length
  obtain ⟨orderly, before, here, count⟩ := k.created_after ⟨.created, new, rfl⟩ later
  generalize t.after later = u at *
  have wasOpen : before.isOpen = true := by
    obtain ⟨_, same, wasOpen⟩ := isOpen
    cases here.symm.trans same
    exact wasOpen
  have last : ∀ other, (u.handle e).IsOpen other target → other = s.loads.length := by
    intro other otherOpen
    rcases orderly.tracked.isOpen_before otherOpen with old | ⟨-, none⟩
    · exact orderly.tracked.single old isOpen
    · exact absurd isOpen (none _)
  have called := countP_hasCalled_of_last there last
  have total : (u.handle e).created target = s.created target + 1 := by
    have added : t.created target = s.created target + 1 := by
      simp [State.created, loads]
    exact (orderly.tracked.created_handle isOpen e).trans ((count wasOpen).trans added)
  have first := countP_hasCalled_of_free free
  rw [← h.counted target] at first
  rw [← (orderly.handle e).counted target] at called
  omega

theorem Orderly.joins {s : State} (h : s.Orderly) {call : Nat} {locale : String}
    (here : s.calls[call]? = some ⟨.loadLocale locale, .created⟩)
    (absent : s.catalogs.has locale = false) (source : s.hasSource (.catalog locale) = true) :
    ∃ load, Joins s (s.handle (.perform (.advance call))) call locale load := by
  have next := h.handle (.perform (.advance call))
  have wanted : s.wants (.catalog locale) = true := by simp [wants, absent, source]
  obtain ⟨load, sort, begins⟩ := h.begins here rfl wanted
  have same : sort = .catalog locale := Target.eq_of_entry begins.entry
  subst same
  generalize s.handle (.perform (.advance call)) = t at *
  refine ⟨load, begins.waits.suspended, begins.waits.isOpen, begins.fetches, ?_, ?_⟩
  · rcases begins.source with ⟨flight, loads⟩ | ⟨vacant, -, new, loads⟩
    · exact .inl ⟨h.tracked.isOpen_iff.mpr flight, loads⟩
    · exact .inr ⟨h.tracked.not_isOpen vacant, loads, new⟩
  · intro later e stage free isOpen there
    rcases begins.source with ⟨flight, -⟩ | ⟨-, -, rfl, loads⟩
    · exact absurd (h.tracked.isOpen_iff.mpr flight) (free load)
    · exact h.called_once next free loads later e isOpen there

inductive Follows (load : Nat) : Stage → Phase → Prop
  | waits (stage : Stage) (number : Nat) : Follows load stage (.suspended load number)
  | told (result : Except Failure Unit) (number : Nat) :
      Follows load (.ended result) (.waking number (.completed result))
  | returned (result : Except Failure Unit) :
      Follows load (.ended result) (.ended (replyTo result))

def Awaits (s : State) (call load : Nat) (request : Request) (target : Target) : Prop :=
  ∃ (stage : Stage) (phase : Phase), s.loads[load]? = some ⟨target, stage⟩ ∧
    s.calls[call]? = some ⟨request, phase⟩ ∧ Follows load stage phase

theorem follows_iff {request : Request} (only : ∀ locale lazy, request ≠ .setLocale locale lazy)
    {load : Nat} {stage : Stage} {phase : Phase} :
    Follows load stage phase ↔ Heeds request load stage phase := by
  constructor
  · intro follows
    cases follows with
    | waits _ number => exact .waits stage number
    | told result number => exact .told result number
    | returned result => exact .returned result _ (.replied request result only)
  · intro heeds
    cases heeds with
    | waits _ number => exact .waits stage number
    | told result number => exact .told result number
    | returned result outcome receives =>
      cases receives with
      | decided locale lazy => exact absurd rfl (only locale lazy)
      | unchanged locale lazy => exact absurd rfl (only locale lazy)
      | replied => exact .returned result

theorem Awaits.after {s : State} {call load : Nat} {request : Request} {target : Target}
    (h : s.Awaits call load request target)
    (only : ∀ locale lazy, request ≠ .setLocale locale lazy) {later : List Event}
    (kept : .cancel call ∉ later) : (s.after later).Awaits call load request target := by
  obtain ⟨stage, phase, there, here, follows⟩ := h
  have attends : s.Attends call load request target :=
    ⟨stage, phase, there, here, (follows_iff only).mp follows⟩
  rcases attends.after later with ⟨after, next, there, here, heeds⟩ | ⟨cancelled, -⟩
  · exact ⟨after, next, there, here, (follows_iff only).mpr heeds⟩
  · exact absurd cancelled kept

theorem Orderly.returns {s : State} (h : s.Orderly) {call load : Nat} {locale : String}
    (awaits : s.Awaits call load (.loadLocale locale) (.catalog locale)) :
    s.Returns call locale load where
  reply outcome ended := by
    obtain ⟨stage, phase, there, here, follows⟩ := awaits
    cases here.symm.trans ended
    cases follows with
    | returned result => exact ⟨result, there, rfl⟩
  told result done := by
    obtain ⟨stage, phase, there, here, follows⟩ := awaits
    have attends : s.Attends call load (.loadLocale locale) (.catalog locale) :=
      ⟨stage, phase, there, here, (follows_iff (by rintro _ _ ⟨⟩)).mp follows⟩
    obtain ⟨outcome, ended, receives⟩ := h.replied attends done
    cases receives
    exact ended

/-- A call for a locale whose catalog is absent waits for the one open load of it, joined or created,
and comes back with its outcome. -/
theorem loads_are_shared {s : State} (new : s.IsNew) (events : List Event) :
    (s.after events).SharedLoads ∧
      (∀ e, SharedStep (s.after events) ((s.after events).handle e)) ∧
      (∀ (call : Nat) (locale : String),
        (s.after events).calls[call]? = some ⟨.loadLocale locale, .created⟩ →
        .advance call ∈ (s.after events).ready →
        (s.after events).catalogs.has locale = false →
        (s.after events).hasSource (.catalog locale) = true →
        ∃ load, Joins (s.after events) ((s.after events).handle (.perform (.advance call)))
          call locale load) ∧
      ∀ (call : Nat) (locale : String) (load number : Nat),
        (s.after events).calls[call]? = some ⟨.loadLocale locale, .suspended load number⟩ →
        ∀ later, .cancel call ∉ later →
          ((s.after events).after later).Returns call locale load := by
  have orderly := new.orderly events
  refine ⟨orderly.sharedLoads, orderly.sharedStep, ?_, ?_⟩
  · intro call locale here _ absent source
    exact orderly.joins here absent source
  · intro call locale load number here later kept
    obtain ⟨stage, there⟩ := (new.serves events).2 call _ here locale rfl
    have awaits : (s.after events).Awaits call load (.loadLocale locale) (.catalog locale) :=
      ⟨stage, _, there, here, .waits stage number⟩
    exact (orderly.after later).returns (awaits.after (by rintro _ _ ⟨⟩) kept)

/-- A store of one catalog. The catalog of a second locale is held back, and its source fails when
it is called for the first time. -/
def failingFirst : State :=
  ⟨[("de", ⟨true, fun call => if call = 0 then .error "offline" else
      .ok (.map [(.text "title", .text "Titel")])⟩)],
    [], "en", false, none, [("en", [])], "en", [], 0, [], [], [], [], [], []⟩

theorem failingFirst_isNew : failingFirst.IsNew :=
  ⟨[("en", .map [])], _, _, _, _, _, _, rfl⟩

def bothWait : List Event :=
  [.start (.loadLocale "de"), .start (.loadLocale "de"), .perform (.advance 0),
    .perform (.advance 1)]

def firstFails : List Event := [.perform (.run 0), .release 0, .perform (.run 0)]

/-- Both calls come back with the failure of the load that they share, and a call after that
creates a load of its own. -/
theorem failure_is_shared_and_retried :
    failingFirst.IsNew ∧
      ((failingFirst.after bothWait).after firstFails).settle.value.calls[0]? =
        some ⟨.loadLocale "de", .ended (.error (.outside "offline"))⟩ ∧
      ((failingFirst.after bothWait).after firstFails).settle.value.calls[1]? =
        some ⟨.loadLocale "de", .ended (.error (.outside "offline"))⟩ ∧
      ∃ load, Joins (failingFirst.after (bothWait ++ firstFails ++ [.start (.loadLocale "de")]))
        ((failingFirst.after (bothWait ++ firstFails ++ [.start (.loadLocale "de")])).handle
          (.perform (.advance 2))) 2 "de" load := by
  obtain ⟨-, -, -, returns⟩ := loads_are_shared failingFirst_isNew bothWait
  obtain ⟨-, -, joins, -⟩ := loads_are_shared failingFirst_isNew
    (bothWait ++ firstFails ++ [.start (.loadLocale "de")])
  have ended : ((failingFirst.after bothWait).after firstFails).loads[0]? =
      some ⟨.catalog "de", .ended (.error (.outside "offline"))⟩ := rfl
  refine ⟨failingFirst_isNew, ?_, ?_, joins 2 "de" rfl (by decide) rfl rfl⟩
  · exact (returns 0 "de" 0 0 rfl firstFails (by decide)).told _ ended
  · exact (returns 1 "de" 0 0 rfl firstFails (by decide)).told _ ended

end Localization.Store.State
