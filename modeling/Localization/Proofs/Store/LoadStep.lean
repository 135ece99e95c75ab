import Localization.Proofs.Store.CallStep

/-! # What an event does to the loads

The loads, those in flight, the catalogs and the merged namespaces go through one of a few
steps. Only a load that ends well changes the catalogs; what the loads of a history brought
in, in order, therefore determines the catalogs after it.
-/
namespace Localization.Store

def Stage.isOpen : Stage → Bool
  | ended _ => false
  | _ => true

/-- Where a load stands among those in flight. -/
def Target.entry : Target → Bool × String
  | catalog locale => (true, locale)
  | addition locale name => (false, (addition locale name).key)

def Target.locale : Target → String
  | catalog locale => locale
  | addition locale _ => locale

def takeIn (catalogs : Table Entries) : Target × Entries → Table Entries
  | (.catalog locale, messages) => catalogs.put locale messages
  | (.addition locale _, messages) =>
    catalogs.put locale (Catalog.merge ((catalogs.get? locale).getD []) messages)

namespace State

def wants (s : State) : Target → Bool
  | .catalog locale => !s.catalogs.has locale && s.hasSource (.catalog locale)
  | .addition locale name => !s.isMerged locale name && s.hasSource (.addition locale name)

/-- The second state has the loads of the first one and what they have brought in. -/
structure SameLoads (s t : State) : Prop where
  loads : t.loads = s.loads
  catalogs : t.catalogs = s.catalogs
  merged : ∀ locale name, t.isMerged locale name = s.isMerged locale name
  inFlight : ∀ target, t.inFlight? target = s.inFlight? target

inductive LoadStep (s t : State) : Option (Target × Entries) → Prop
  | still (same : SameLoads s t) : LoadStep s t none
  | marked (locale : String) (names : List String) (loads : t.loads = s.loads)
      (catalogs : t.catalogs = s.catalogs)
      (merged : ∀ other name, t.isMerged other name =
        (s.isMerged other name || (other == locale && names.contains name)))
      (inFlight : ∀ target, t.inFlight? target = s.inFlight? target) : LoadStep s t none
  | created (target : Target) (free : s.inFlight? target = none) (wanted : s.wants target = true)
      (loads : t.loads = s.loads ++ [⟨target, .created⟩]) (catalogs : t.catalogs = s.catalogs)
      (merged : ∀ locale name, t.isMerged locale name = s.isMerged locale name)
      (inFlight : ∀ other, t.inFlight? other =
        if other.entry = target.entry then some s.loads.length else s.inFlight? other) :
      LoadStep s t none
  | moved (load : Nat) (target : Target) (before after : Stage)
      (here : s.loads[load]? = some ⟨target, before⟩) (wasOpen : before.isOpen = true)
      (isOpen : after.isOpen = true) (loads : t.loads = (s.setStage load after).loads)
      (catalogs : t.catalogs = s.catalogs)
      (merged : ∀ locale name, t.isMerged locale name = s.isMerged locale name)
      (inFlight : ∀ target, t.inFlight? target = s.inFlight? target) : LoadStep s t none
  | failed (load : Nat) (target : Target) (before : Stage) (answer : Except String Value)
      (failure : Failure) (here : s.loads[load]? = some ⟨target, before⟩)
      (wasOpen : before.isOpen = true) (result : messagesOf answer = .error failure)
      (loads : t.loads = (s.setStage load (.ended (.error failure))).loads)
      (catalogs : t.catalogs = s.catalogs)
      (merged : ∀ locale name, t.isMerged locale name = s.isMerged locale name)
      (inFlight : ∀ other, t.inFlight? other =
        if other.entry = target.entry then none else s.inFlight? other) : LoadStep s t none
  | ended (load : Nat) (target : Target) (before : Stage) (answer : Except String Value)
      (messages : Entries) (here : s.loads[load]? = some ⟨target, before⟩)
      (wasOpen : before.isOpen = true) (result : messagesOf answer = .ok messages)
      (loads : t.loads = (s.setStage load (.ended (.ok ()))).loads)
      (catalogs : t.catalogs = takeIn s.catalogs (target, messages))
      (merged : ∀ locale name, t.isMerged locale name =
        (s.isMerged locale name || target == .addition locale name))
      (inFlight : ∀ other, t.inFlight? other =
        if other.entry = target.entry then none else s.inFlight? other) :
      LoadStep s t (some (target, messages))

def answer? (s : State) (load : Nat) : Option (Target × Except String Value) :=
  match s.loads[load]? with
  | some ⟨target, .created⟩ =>
    match s.source? target with
    | some ⟨false, answer⟩ => some (target, answer (s.fetches.count target))
    | _ => none
  | some ⟨target, .released _ answer⟩ => some (target, answer)
  | _ => none

def brought (target : Target) (answer : Except String Value) : Option (Target × Entries) :=
  (messagesOf answer).toOption.map fun messages => (target, messages)

/-- What a load brings in with an event. -/
def absorbed? (s : State) : Event → Option (Target × Entries)
  | .perform (.run load) =>
    if .run load ∈ s.ready then
      (s.answer? load).bind fun (target, answer) => brought target answer
    else none
  | _ => none

/-- What the loads of a history bring in, in order. -/
def absorbed (s : State) : List Event → List (Target × Entries)
  | [] => []
  | e :: rest => (s.absorbed? e).toList ++ (s.handle e).absorbed rest

theorem getElem?_setStage (s : State) (load other : Nat) (stage : Stage) :
    (s.setStage load stage).loads[other]? =
      if load = other then s.loads[other]?.map fun l => { l with stage } else s.loads[other]? := by
  simp only [setStage, List.getElem?_modify]
  split <;> cases s.loads[other]? <;> rfl

theorem setStage_cases {s t : State} {load : Nat} {target : Target} {before after : Stage}
    (here : s.loads[load]? = some ⟨target, before⟩)
    (loads : t.loads = (s.setStage load after).loads) {other : Nat} {l : Load}
    (h : t.loads[other]? = some l) :
    other = load ∧ l = ⟨target, after⟩ ∨ other ≠ load ∧ s.loads[other]? = some l := by
  rw [loads, getElem?_setStage] at h
  by_cases same : load = other
  · subst same
    simp only [here, ↓reduceIte, Option.map_some, Option.some.injEq] at h
    exact .inl ⟨rfl, h.symm⟩
  · exact .inr ⟨Ne.symm same, by simpa only [if_neg same] using h⟩

theorem setStage_self {s t : State} {load : Nat} {target : Target} {before after : Stage}
    (here : s.loads[load]? = some ⟨target, before⟩)
    (loads : t.loads = (s.setStage load after).loads) :
    t.loads[load]? = some ⟨target, after⟩ := by
  simp [loads, getElem?_setStage, here]

theorem setStage_of_ne {s t : State} {load other : Nat} {after : Stage}
    (loads : t.loads = (s.setStage load after).loads) (h : other ≠ load) :
    t.loads[other]? = s.loads[other]? := by
  rw [loads, getElem?_setStage, if_neg (Ne.symm h)]

theorem inFlight?_congr (s : State) {target other : Target} (h : target.entry = other.entry) :
    s.inFlight? target = s.inFlight? other := by
  cases target <;> cases other <;> simp_all [Target.entry, inFlight?]

theorem inFlight?_enter (s : State) (target other : Target) (load : Nat) :
    (s.enter target load).inFlight? other =
      if other.entry = target.entry then some load else s.inFlight? other := by
  cases target <;> cases other <;> simp [enter, inFlight?, Target.entry, Table.get?_put]

theorem inFlight?_leave (s : State) (target other : Target) :
    (s.leave target).inFlight? other =
      if other.entry = target.entry then none else s.inFlight? other := by
  cases target <;> cases other <;> simp [leave, inFlight?, Target.entry, Table.get?_erase]

theorem isMerged_markMerged (s : State) (locale other name : String) (names : List String) :
    (s.markMerged locale names).isMerged other name =
      (s.isMerged other name || (other == locale && names.contains name)) := by
  simp only [isMerged, markMerged, Table.get?_put]
  by_cases h : other = locale
  · subst h
    simp only [↓reduceIte, Option.getD_some, beq_self_eq_true, Bool.true_and]
    generalize (s.merged.get? other).getD [] = known
    by_cases hk : name ∈ known <;> by_cases hn : name ∈ names <;> simp [hk, hn]
  · simp [h]

theorem SameLoads.refl (s : State) : SameLoads s s := ⟨rfl, rfl, fun _ _ => rfl, fun _ => rfl⟩

theorem SameLoads.trans {s t u : State} (h : SameLoads s t) (k : SameLoads t u) : SameLoads s u :=
  ⟨k.loads.trans h.loads, k.catalogs.trans h.catalogs,
    fun locale name => (k.merged locale name).trans (h.merged locale name),
    fun target => (k.inFlight target).trans (h.inFlight target)⟩

theorem createLoad_loadStep {s : State} {target : Target} (free : s.inFlight? target = none)
    (wanted : s.wants target = true) : LoadStep s (s.createLoad target) none := by
  have flight (other : Target) : (s.createLoad target).inFlight? other =
      if other.entry = target.entry then some s.loads.length else s.inFlight? other := by
    rw [← inFlight?_enter]
    cases other <;> rfl
  refine .created target free wanted rfl ?_ ?_ flight
  · cases target <;> rfl
  · intro locale name
    cases target <;> rfl

theorem setPhase_sameLoads (s : State) (call : Nat) (phase : Phase) :
    SameLoads s (s.setPhase call phase) :=
  ⟨rfl, rfl, fun _ _ => rfl, fun target => by cases target <;> rfl⟩

theorem enqueue_sameLoads (s : State) (jobs : List Job) : SameLoads s (s.enqueue jobs) :=
  ⟨rfl, rfl, fun _ _ => rfl, fun target => by cases target <;> rfl⟩

theorem LoadStep.congr {s u v t : State} {absorbed : Option (Target × Entries)}
    (step : LoadStep u v absorbed) (h : SameLoads s u)
    (wants : ∀ target, u.wants target = s.wants target) (k : SameLoads v t) :
    LoadStep s t absorbed := by
  have stages (load : Nat) (stage : Stage) :
      (u.setStage load stage).loads = (s.setStage load stage).loads := by
    simp only [setStage, h.loads]
  cases step with
  | still same => exact .still ((h.trans same).trans k)
  | marked locale names loads catalogs merged inFlight =>
    exact .marked locale names (by rw [k.loads, loads, h.loads])
      (by rw [k.catalogs, catalogs, h.catalogs])
      (fun other name => by rw [k.merged, merged, h.merged])
      fun other => by rw [k.inFlight, inFlight, h.inFlight]
  | created target free wanted loads catalogs merged inFlight =>
    exact .created target (by rw [← h.inFlight, free]) (by rw [← wants, wanted])
      (by rw [k.loads, loads, h.loads]) (by rw [k.catalogs, catalogs, h.catalogs])
      (fun locale name => by rw [k.merged, merged, h.merged])
      fun other => by rw [k.inFlight, inFlight, h.inFlight, h.loads]
  | moved load target before after here wasOpen isOpen loads catalogs merged inFlight =>
    exact .moved load target before after (h.loads ▸ here) wasOpen isOpen
      (by rw [k.loads, loads, stages]) (by rw [k.catalogs, catalogs, h.catalogs])
      (fun locale name => by rw [k.merged, merged, h.merged])
      fun other => by rw [k.inFlight, inFlight, h.inFlight]
  | failed load target before answer failure here wasOpen result loads catalogs merged inFlight =>
    exact .failed load target before answer failure (h.loads ▸ here) wasOpen result
      (by rw [k.loads, loads, stages]) (by rw [k.catalogs, catalogs, h.catalogs])
      (fun locale name => by rw [k.merged, merged, h.merged])
      fun other => by rw [k.inFlight, inFlight, h.inFlight]
  | ended load target before answer messages here wasOpen result loads catalogs merged inFlight =>
    exact .ended load target before answer messages (h.loads ▸ here) wasOpen result
      (by rw [k.loads, loads, stages]) (by rw [k.catalogs, catalogs, h.catalogs])
      (fun locale name => by rw [k.merged, merged, h.merged])
      fun other => by rw [k.inFlight, inFlight, h.inFlight]

theorem join_loadStep {s : State} (call number : Nat) {target : Target}
    (wanted : s.wants target = true) : LoadStep s (s.join call number target) none := by
  rw [join]
  cases free : s.inFlight? target with
  | some load => exact .still (setPhase_sameLoads s call _)
  | none =>
    exact (createLoad_loadStep free wanted).congr (.refl s) (fun _ => rfl)
      (setPhase_sameLoads (s.createLoad target) call _)

theorem switch_sameLoads (s : State) (call number : Nat) (locale : String) :
    SameLoads s (s.switch call number locale) := by
  rw [switch]
  split
  · exact ⟨rfl, rfl, fun _ _ => rfl, fun target => by cases target <;> rfl⟩
  · exact setPhase_sameLoads s call _

theorem begin_loadStep (s : State) (call : Nat) (request : Request) :
    LoadStep s (s.begin call request) none := by
  cases request with
  | setLocale locale lazy =>
    have counted : SameLoads s { s with requests := s.requests + 1 } :=
      ⟨rfl, rfl, fun _ _ => rfl, fun target => by cases target <;> rfl⟩
    have wants (target : Target) :
        State.wants { s with requests := s.requests + 1 } target = s.wants target := by
      cases target <;> rfl
    simp only [begin]
    split
    · exact .still (counted.trans (switch_sameLoads _ call _ locale))
    · next missing =>
      split
      · next loadable =>
        have source : s.hasSource (.catalog locale) = true := (Bool.and_eq_true_iff.mp loadable).2
        have wanted : s.wants (.catalog locale) = true := by
          simpa [State.wants, source] using missing
        exact (join_loadStep call _ ((wants _).trans wanted)).congr counted wants (.refl _)
      · exact .still (counted.trans (setPhase_sameLoads _ call _))
  | loadLocale locale =>
    simp only [begin]
    split
    · exact .still (setPhase_sameLoads s call _)
    · next missing =>
      split
      · next loadable =>
        exact join_loadStep call 0 (by simp [State.wants, missing, loadable])
      · exact .still (setPhase_sameLoads s call _)
  | loadNamespace name requested =>
    simp only [begin]
    split
    · exact .still (setPhase_sameLoads s call _)
    · next missing =>
      refine join_loadStep call 0 ?_
      simpa [State.wants] using missing

theorem advance_loadStep (s : State) (call : Nat) : LoadStep s (s.advance call) none := by
  rw [advance]
  split
  · exact begin_loadStep s call _
  · next request number wake here =>
    refine .still ?_
    rw [resume.eq_def]
    split
    · exact setPhase_sameLoads s call _
    · exact switch_sameLoads s call number _
    all_goals exact setPhase_sameLoads s call _
  · exact .still (.refl s)

theorem absorb_catalogs (s : State) (target : Target) (messages : Entries) :
    (s.absorb target messages).catalogs = takeIn s.catalogs (target, messages) := by
  cases target <;> rfl

theorem isMerged_absorb (s : State) (target : Target) (messages : Entries) (locale name : String) :
    (s.absorb target messages).isMerged locale name =
      (s.isMerged locale name || target == .addition locale name) := by
  cases target with
  | catalog other =>
    have differ : (Target.catalog other == .addition locale name) = false := by simp
    rw [differ, Bool.or_false]
    rfl
  | addition other added =>
    simp only [absorb, isMerged_markMerged]
    have same : (Target.addition other added == .addition locale name) =
        (locale == other && [added].contains name) := by
      rw [Bool.eq_iff_iff]
      simp only [beq_iff_eq, Target.addition.injEq, Bool.and_eq_true, List.contains_cons,
        List.contains_nil, Bool.or_false]
      exact and_congr eq_comm eq_comm
    rw [same]
    rfl

theorem leave_loads (s : State) (target : Target) : (s.leave target).loads = s.loads := by
  cases target <;> rfl

theorem leave_catalogs (s : State) (target : Target) : (s.leave target).catalogs = s.catalogs := by
  cases target <;> rfl

theorem isMerged_leave (s : State) (target : Target) (locale name : String) :
    (s.leave target).isMerged locale name = s.isMerged locale name := by
  cases target <;> rfl

theorem absorb_loads (s : State) (target : Target) (messages : Entries) :
    (s.absorb target messages).loads = s.loads := by
  cases target <;> rfl

theorem inFlight?_absorb (s : State) (target other : Target) (messages : Entries) :
    (s.absorb target messages).inFlight? other = s.inFlight? other := by
  cases target <;> cases other <;> rfl

/-- A load that ends is dropped from those in flight and keeps its outcome. -/
theorem complete_sameLoads (s : State) (load : Nat) (target : Target)
    (answer : Except String Value) :
    SameLoads (((s.accept target (messagesOf answer)).leave target).setStage load
      (.ended ((messagesOf answer).map fun _ => ()))) (s.complete load target answer) :=
  ⟨rfl, rfl, fun _ _ => rfl, fun other => by cases other <;> rfl⟩

theorem complete_loadStep {s : State} {load : Nat} {target : Target} {before : Stage}
    (answer : Except String Value) (here : s.loads[load]? = some ⟨target, before⟩)
    (wasOpen : before.isOpen = true) :
    LoadStep s (s.complete load target answer) (brought target answer) := by
  have same := complete_sameLoads s load target answer
  have flight (u : State) (stage : Stage) (other : Target) :
      ((u.leave target).setStage load stage).inFlight? other =
        (u.leave target).inFlight? other := by
    cases other <;> rfl
  rw [brought]
  cases result : messagesOf answer with
  | error failure =>
    rw [result] at same
    refine .failed load target before answer failure here wasOpen result ?_ ?_ ?_ ?_
    · rw [same.loads, accept, setStage, leave_loads]
      rfl
    · exact same.catalogs.trans (leave_catalogs s target)
    · intro locale name
      exact (same.merged locale name).trans (isMerged_leave s target locale name)
    · intro other
      rw [same.inFlight, accept, flight, inFlight?_leave]
  | ok messages =>
    rw [result] at same
    refine .ended load target before answer messages here wasOpen result ?_ ?_ ?_ ?_
    · rw [same.loads, accept, setStage, leave_loads, absorb_loads]
      rfl
    · rw [same.catalogs, accept, ← absorb_catalogs]
      exact leave_catalogs _ target
    · intro locale name
      rw [same.merged, accept, ← isMerged_absorb s target messages]
      exact isMerged_leave _ target locale name
    · intro other
      rw [same.inFlight, accept, flight, inFlight?_leave, inFlight?_absorb]

theorem run_loadStep (s : State) (load : Nat) :
    LoadStep s (s.run load)
      ((s.answer? load).bind fun (target, answer) => brought target answer) := by
  have idle : LoadStep s s none := .still (.refl s)
  cases here : s.loads[load]? with
  | none => simpa only [run, answer?, here, Option.bind_none] using idle
  | some l =>
    obtain ⟨target, stage⟩ := l
    cases stage with
    | held requests answer => simpa only [run, answer?, here, Option.bind_none] using idle
    | ended outcome => simpa only [run, answer?, here, Option.bind_none] using idle
    | released requests answer =>
      simpa only [run, answer?, here, Option.bind_some] using complete_loadStep answer here rfl
    | created =>
      have fetched : SameLoads s { s with fetches := s.fetches ++ [target] } :=
        ⟨rfl, rfl, fun _ _ => rfl, fun other => by cases other <;> rfl⟩
      cases found : s.source? target with
      | none => simpa only [run, fetch, answer?, here, found, Option.bind_none] using idle
      | some source =>
        obtain ⟨gated, answer⟩ := source
        -- A gated source holds its answer back; the answer of any other one ends the load.
        cases gated with
        | true =>
          simp only [run, fetch, answer?, here, found, ↓reduceIte]
          refine .moved load target .created (.held s.requests _) here rfl rfl rfl rfl
            (fun _ _ => rfl) fun other => ?_
          cases other <;> rfl
        | false =>
          have ended := complete_loadStep (s := { s with fetches := s.fetches ++ [target] })
            (answer (s.fetches.count target)) here rfl
          simpa only [run, fetch, answer?, here, found, Bool.false_eq_true, ↓reduceIte,
            Option.bind_some] using
            ended.congr fetched (fun other => by cases other <;> rfl) (.refl _)

theorem release_loadStep (s : State) (load : Nat) : LoadStep s (s.release load) none := by
  rw [release]
  split
  · next target requests answer here =>
    refine .moved load target _ (.released requests answer) here rfl rfl rfl rfl (fun _ _ => rfl)
      fun other => ?_
    cases other <;> rfl
  · exact .still (.refl s)

theorem deliver_sameLoads (s : State) (load call : Nat) : SameLoads s (s.deliver load call) := by
  rw [deliver]
  split
  · split
    · exact (setPhase_sameLoads s call _).trans (enqueue_sameLoads _ _)
    · exact .refl s
  · exact .refl s

theorem cancel_sameLoads (s : State) (call : Nat) : SameLoads s (s.cancel call) := by
  rw [cancel]
  split
  · exact setPhase_sameLoads s call _
  · exact (setPhase_sameLoads s call _).trans (enqueue_sameLoads _ _)
  · exact setPhase_sameLoads s call _
  · exact .refl s

theorem handle_loadStep (s : State) (e : Event) : LoadStep s (s.handle e) (s.absorbed? e) := by
  have dequeued (queue : List Job) : SameLoads s { s with ready := queue } :=
    ⟨rfl, rfl, fun _ _ => rfl, fun target => by cases target <;> rfl⟩
  have wants (queue : List Job) (target : Target) :
      State.wants { s with ready := queue } target = s.wants target := by
    cases target <;> rfl
  cases e with
  | start request => exact .still ⟨rfl, rfl, fun _ _ => rfl, fun target => by cases target <;> rfl⟩
  | release load => exact release_loadStep s load
  | cancel call => exact .still (cancel_sameLoads s call)
  | mark locale names =>
    exact .marked locale names rfl rfl
      (fun other name => isMerged_markMerged s locale other name names)
      fun target => by cases target <;> rfl
  | perform job =>
    simp only [handle]
    split
    · next queued =>
      cases job with
      | advance call =>
        exact (advance_loadStep { s with ready := _ } call).congr (dequeued _) (wants _) (.refl _)
      | run load =>
        simp only [absorbed?, if_pos queued]
        exact (run_loadStep { s with ready := s.ready.erase (.run load) } load).congr (dequeued _)
          (wants _) (.refl _)
      | deliver load call =>
        exact .still ((dequeued _).trans (deliver_sameLoads { s with ready := _ } load call))
    · next queued =>
      cases job with
      | advance call => exact .still (.refl s)
      | run load => simpa only [absorbed?, if_neg queued] using LoadStep.still (.refl s)
      | deliver load call => exact .still (.refl s)

theorem handle_catalogs (s : State) (e : Event) :
    (s.handle e).catalogs = (s.absorbed? e).toList.foldl takeIn s.catalogs := by
  have step := handle_loadStep s e
  generalize s.absorbed? e = absorbed at step ⊢
  cases step with
  | still same => exact same.catalogs
  | marked _ _ _ catalogs => exact catalogs
  | created _ _ _ _ catalogs => exact catalogs
  | moved _ _ _ _ _ _ _ _ catalogs => exact catalogs
  | failed _ _ _ _ _ _ _ _ _ catalogs => exact catalogs
  | ended _ _ _ _ _ _ _ _ _ catalogs => exact catalogs

/-- The catalogs after a history are those before it with what its loads brought in. -/
theorem after_catalogs (s : State) (events : List Event) :
    (s.after events).catalogs = (s.absorbed events).foldl takeIn s.catalogs := by
  induction events generalizing s with
  | nil => rfl
  | cons e rest ih => rw [after_cons, ih, handle_catalogs, absorbed, List.foldl_append]

end State

end Localization.Store
