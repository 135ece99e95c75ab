import Localization.Proofs.Since
import Localization.Proofs.Store.Completions
import Localization.Proofs.Store.Presence

/-! # What a call for a namespace delivers

A load of a namespace is known under one text that is made of the locale and the name. A call for
a namespace waits for the load that is in flight under this text, so when it ends well the
namespace of a pair with that text has been merged. It is the pair that was asked for when no load
of another pair was in flight under the text, as where no locale has the separator in its code.
-/
namespace Localization.Store

theorem Target.key_inj {locale other name named : String} (plain : ':' ∉ locale.toList)
    (otherPlain : ':' ∉ other.toList) (h : (addition locale name).key = (addition other named).key) :
    addition locale name = addition other named := by
  have letters : locale.toList ++ ':' :: name.toList = other.toList ++ ':' :: named.toList := by
    have same := congrArg String.toList h
    simpa [key] using same
  obtain ⟨locales, names⟩ := append_cons_inj letters plain otherPlain
  rw [String.toList_inj.mp locales, String.toList_inj.mp names]

namespace State

/-- No locale with sources of namespaces has the separator in its code. -/
def PlainLocales (s : State) : Prop :=
  ∀ locale names, s.additions.get? locale = some names → ':' ∉ locale.toList

theorem PlainLocales.not_mem {s : State} (h : s.PlainLocales) {locale name : String}
    (source : s.hasSource (.addition locale name) = true) : ':' ∉ locale.toList := by
  obtain ⟨found, there⟩ := Option.isSome_iff_exists.mp source
  obtain ⟨names, here, -⟩ := Option.bind_eq_some_iff.mp there
  exact h locale names here

theorem hasSource_after (s : State) (events : List Event) (target : Target) :
    (s.after events).hasSource target = s.hasSource target := by
  rw [hasSource, after_source?, ← hasSource]

/-- In a store of plain locales no two pairs of open loads have a key in common. -/
theorem PlainLocales.unrivalled {s : State} (h : s.PlainLocales) (new : s.IsNew)
    (events : List Event) {locale name : String}
    (source : s.hasSource (.addition locale name) = true) :
    (s.after events).Unrivalled (.addition locale name) := by
  intro load other isOpen entry
  cases other with
  | catalog code => simp [Target.entry] at entry
  | addition code named =>
    obtain ⟨stage, here, -⟩ := isOpen
    have known := (new.orderly events).scheduled.sources load _ here
    rw [hasSource_after] at known
    have keys : (Target.addition code named).key = (Target.addition locale name).key := by
      simpa [Target.entry] using entry
    exact Target.key_inj (h.not_mem known) (h.not_mem source) keys

theorem isMerged_complete (s : State) (load : Nat) (target : Target) (answer : Except String Value)
    (locale name : String) :
    (s.complete load target answer).isMerged locale name =
      (s.isMerged locale name ||
        (messagesOf answer).toOption.isSome && target == .addition locale name) := by
  have same := (complete_sameLoads s load target answer).merged locale name
  have left (u : State) (stage : Stage) :
      ((u.leave target).setStage load stage).isMerged locale name = u.isMerged locale name :=
    isMerged_leave u target locale name
  rw [same, left]
  cases messagesOf answer with
  | error failure => exact (Bool.or_false _).symm
  | ok messages => exact isMerged_absorb s target messages locale name

theorem advance_merged (s : State) (call : Nat) : (s.advance call).merged = s.merged := by
  have joined (u : State) (number : Nat) (target : Target) :
      (u.join call number target).merged = u.merged := by
    unfold join
    cases u.inFlight? target with
    | some load => rfl
    | none => cases target <;> rfl
  have switched (u : State) (number : Nat) (locale : String) :
      (u.switch call number locale).merged = u.merged := by
    unfold switch
    split <;> rfl
  unfold advance
  split
  · next request here =>
    cases request with
    | setLocale locale lazy =>
      simp only [begin]
      split
      · exact switched _ _ locale
      · split
        · exact joined _ _ _
        · rfl
    | loadLocale locale =>
      simp only [begin]
      split
      · rfl
      · split
        · exact joined _ _ _
        · rfl
    | loadNamespace name requested =>
      simp only [begin]
      split
      · rfl
      · exact joined _ _ _
  · next request number wake here =>
    unfold resume
    split
    · rfl
    · exact switched _ _ _
    all_goals rfl
  · rfl

/-- A namespace counts as merged since a record of it or since a load of it has ended well. -/
theorem isMerged_before {s : State} {e : Event} {locale name : String}
    (there : (s.handle e).isMerged locale name = true) :
    s.isMerged locale name = true ∨ (∃ names, e = .mark locale names ∧ name ∈ names) ∨
      ∃ messages, s.absorbed? e = some (.addition locale name, messages) := by
  cases e with
  | start request => exact .inl there
  | mark other names =>
    have marked := isMerged_markMerged s other locale name names
    rw [State.handle, marked, Bool.or_eq_true] at there
    rcases there with before | now
    · exact .inl before
    · obtain ⟨same, inside⟩ := Bool.and_eq_true_iff.mp now
      have same : locale = other := beq_iff_eq.mp same
      exact .inr (.inl ⟨names, same ▸ rfl, by simpa using inside⟩)
  | cancel call =>
    have same := (cancel_sameLoads s call).merged locale name
    exact .inl (same.symm.trans there)
  | release load =>
    simp only [State.handle, release] at there
    split at there <;> exact .inl there
  | perform job =>
    by_cases queued : job ∈ s.ready
    · cases job with
      | advance call =>
        have same := advance_merged { s with ready := s.ready.erase (.advance call) } call
        simp only [State.handle, if_pos queued, perform, isMerged, same] at there
        exact .inl there
      | deliver load call =>
        have same := (deliver_sameLoads { s with ready := s.ready.erase (.deliver load call) } load
          call).merged locale name
        simp only [State.handle, if_pos queued, perform, same] at there
        exact .inl there
      | run load =>
        simp only [State.handle, if_pos queued, perform] at there
        simp only [absorbed?, if_pos queued]
        have step := run_runStep { s with ready := s.ready.erase (.run load) } load
        generalize State.run { s with ready := s.ready.erase (.run load) } load = t at step there
        have closed {target : Target} {answer : Except String Value}
            (given : s.answer? load = some (target, answer))
            (there : (s.isMerged locale name ||
              (messagesOf answer).toOption.isSome && target == .addition locale name) = true) :
            s.isMerged locale name = true ∨
              ∃ messages, ((s.answer? load).bind fun given => brought given.1 given.2) =
                some (.addition locale name, messages) := by
          rcases Bool.or_eq_true_iff.mp there with before | now
          · exact .inl before
          · obtain ⟨well, same⟩ := Bool.and_eq_true_iff.mp now
            obtain ⟨messages, result⟩ := Option.isSome_iff_exists.mp well
            refine .inr ⟨messages, ?_⟩
            rw [given, ← beq_iff_eq.mp same]
            simp only [Option.bind_some, brought, result, Option.map_some]
        cases step with
        | idle => exact .inl there
        | held => exact .inl there
        | answered target source here found given =>
          rw [isMerged_complete] at there
          exact (closed given there).imp id .inr
        | ended target requests answer here given =>
          rw [isMerged_complete] at there
          exact (closed given there).imp id .inr
    · simp only [State.handle, if_neg queued] at there
      exact .inl there

theorem isMerged_source {s : State} {events : List Event} {locale name : String}
    (there : (s.after events).isMerged locale name = true) :
    s.isMerged locale name = true ∨ (∃ names, .mark locale names ∈ events ∧ name ∈ names) ∨
      ∃ messages, (.addition locale name, messages) ∈ s.absorbed events := by
  induction events generalizing s with
  | nil => exact .inl there
  | cons e rest ih =>
    rcases ih there with here | ⟨names, marked, inside⟩ | ⟨messages, later⟩
    · rcases isMerged_before here with before | ⟨names, rfl, inside⟩ | ⟨messages, now⟩
      · exact .inl before
      · exact .inr (.inl ⟨names, List.mem_cons_self, inside⟩)
      · refine .inr (.inr ⟨messages, List.mem_append_left _ ?_⟩)
        rw [now]
        exact List.mem_cons_self
    · exact .inr (.inl ⟨names, List.mem_cons_of_mem e marked, inside⟩)
    · exact .inr (.inr ⟨messages, List.mem_append_right _ later⟩)

theorem exists_of_mem_absorbed {s : State} {events : List Event} {item : Target × Entries}
    (inside : item ∈ s.absorbed events) :
    ∃ first e rest, events = first ++ e :: rest ∧ (s.after first).absorbed? e = some item := by
  induction events generalizing s with
  | nil => cases inside
  | cons e rest ih =>
    rcases List.mem_append.mp inside with now | later
    · exact ⟨[], e, rest, rfl, Option.mem_toList.mp now⟩
    · obtain ⟨first, next, last, rfl, taken⟩ := ih later
      exact ⟨e :: first, next, last, rfl, taken⟩

/-- A load of a namespace has ended well in a history. Its source gave the messages, and they were
merged into the catalog of the locale. -/
def MergedIn (s : State) (events : List Event) (locale name : String) : Prop :=
  ∃ first e rest load answer messages, events = first ++ e :: rest ∧
    (s.after first).ends? e = some (load, .addition locale name, answer) ∧
    s.Gives (.addition locale name) answer ∧ messagesOf answer = .ok messages ∧
    ((s.after first).handle e).catalogs.get? locale =
      some (Catalog.merge (((s.after first).catalogs.get? locale).getD []) messages)

/-- A namespace counts as merged after a history, and rightly unless it has been recorded. -/
structure Delivered (s : State) (events : List Event) (locale name : String) : Prop where
  merged : (s.after events).isMerged locale name = true
  source : (∃ names, .mark locale names ∈ events ∧ name ∈ names) ∨ s.MergedIn events locale name

theorem IsNew.mergedIn {s : State} (h : s.IsNew) {events : List Event} {locale name : String}
    {messages : Entries} (inside : (.addition locale name, messages) ∈ s.absorbed events) :
    s.MergedIn events locale name := by
  obtain ⟨first, e, rest, split, taken⟩ := exists_of_mem_absorbed inside
  have listed := map_completed? (s.after first) e
  rw [taken] at listed
  obtain ⟨⟨load, item⟩, now, rfl⟩ := Option.map_eq_some_iff.mp listed
  obtain ⟨answer, ends, result⟩ := completed?_eq_some.mp now
  obtain ⟨source, k, found, same⟩ := (h.answered_after first).gives ends
  rw [after_source?] at found
  refine ⟨first, e, rest, load, answer, messages, split, ends, ⟨source, k, found, same⟩, result, ?_⟩
  rw [handle_catalogs_of_absorbed? taken]
  exact Table.get?_put_self ..

theorem IsNew.delivered {s : State} (h : s.IsNew) {events : List Event} {locale name : String}
    (merged : (s.after events).isMerged locale name = true) : s.Delivered events locale name := by
  refine ⟨merged, ?_⟩
  rcases isMerged_source merged with before | marked | ⟨messages, inside⟩
  · have blank := h.blank.1
    simp [isMerged, blank, Table.get?] at before
  · exact .inl marked
  · exact .inr (h.mergedIn inside)

theorem begun_by {s : State} {e : Event} {call : Nat} {request : Request} {c : Call}
    (here : s.calls[call]? = some ⟨request, .created⟩) (there : (s.handle e).calls[call]? = some c) :
    c.phase = .created ∨ c.phase.isDropped = true ∨ e = .perform (.advance call) := by
  by_cases about : e.call? = some call
  · cases e with
    | start | release | mark => cases about
    | cancel mine =>
      cases about
      simp only [State.handle, cancel, here] at there
      rw [setPhase_self here rfl] at there
      cases there
      exact .inr (.inl rfl)
    | perform job =>
      cases job with
      | run load => cases about
      | advance mine =>
        cases about
        exact .inr (.inr rfl)
      | deliver load mine =>
        cases about
        -- The outcome of a load is for a suspended call only.
        have unmoved : (s.handle (.perform (.deliver load call))).calls = s.calls := by
          simp only [State.handle]
          split
          · simp only [perform, deliver, here]
            split
            · next suspended => cases suspended
            · rfl
          · rfl
        rw [unmoved, here] at there
        cases there
        exact .inl rfl
  · rw [handle_calls_of_ne here about] at there
    cases there
    exact .inl rfl

theorem begun_in {s : State} (blank : s.calls = []) {events : List Event} {call : Nat}
    {request : Request} {phase : Phase}
    (there : (s.after events).calls[call]? = some ⟨request, phase⟩) (begun : phase ≠ .created)
    (kept : phase.isDropped = false) :
    ∃ before later, events = before ++ .perform (.advance call) :: later ∧
      (s.after before).calls[call]? = some ⟨request, .created⟩ := by
  -- The induction takes the last event away, so that the start of the history stays.
  induction size : events.length generalizing events phase with
  | zero =>
    rw [List.length_eq_zero_iff.mp size, after_nil, blank] at there
    cases there
  | succ n ih =>
    obtain ⟨events, e, rfl⟩ := (List.eq_nil_or_concat events).resolve_left (by rintro rfl; cases size)
    rw [List.concat_eq_append] at there size ⊢
    rw [after_append] at there
    rcases call_before there with new | ⟨before, here⟩
    · exact absurd new begun
    · have notDropped : before.isDropped = false := by
        refine Bool.eq_false_iff.mpr fun dropped => ?_
        obtain ⟨c, now, lost⟩ := IsDropped.handle ⟨_, here, dropped⟩ e
        cases there.symm.trans now
        rw [kept] at lost
        cases lost
      by_cases first : before = .created
      · subst first
        rcases begun_by here there with new | dropped | rfl
        · exact absurd new begun
        · rw [kept] at dropped
          cases dropped
        · exact ⟨events, [], rfl, here⟩
      · have shorter : events.length = n := by simpa using size
        obtain ⟨former, later, rfl, created⟩ := ih here first notDropped shorter
        exact ⟨former, later ++ [e], by simp, created⟩

/-- A call for a namespace with a source either finds the namespace merged, or it waits for a load
that has its key. -/
theorem merged_or_begins {s : State} (h : s.Orderly) {call : Nat} {name : String}
    {requested : Option String}
    (here : s.calls[call]? = some ⟨.loadNamespace name requested, .created⟩)
    (source : s.hasSource (.addition (s.localeFor requested) name) = true) :
    s.isMerged (s.localeFor requested) name = true ∨
      ∃ load sort, Begins s (s.handle (.perform (.advance call))) call
        (.loadNamespace name requested) (.addition (s.localeFor requested) name) load sort := by
  cases merged : s.isMerged (s.localeFor requested) name with
  | true => exact .inl rfl
  | false =>
    have wanted : s.wants (.addition (s.localeFor requested) name) = true := by
      simp [wants, merged, source]
    exact .inr (h.begins here rfl wanted)

theorem Orderly.present_of_loaded {s : State} (h : s.Orderly) {call load : Nat} {name : String}
    {requested : Option String} {target : Target}
    (attends : s.Attends call load (.loadNamespace name requested) target)
    (ended : s.calls[call]? = some ⟨.loadNamespace name requested, .ended (.ok .loaded)⟩) :
    s.present target = true := by
  obtain ⟨result, done, receives⟩ := attends.receives ended
  generalize outcome : Except.ok Reply.loaded = reply at receives
  cases receives with
  | replied _ _ only =>
    cases result with
    | error failure => cases outcome
    | ok _ => exact (h.finished target load done).1

/-- A call for a namespace that has ended well has brought in the namespace, unless a load of another
pair was in flight under its key when it began. -/
theorem namespace_call_delivers {s : State} (new : s.IsNew) (events : List Event) {call : Nat}
    {name : String} {requested : Option String}
    (ended : (s.after events).calls[call]? =
      some ⟨.loadNamespace name requested, .ended (.ok .loaded)⟩) :
    (∃ before later, events = before ++ .perform (.advance call) :: later ∧
        (s.after before).calls[call]? = some ⟨.loadNamespace name requested, .created⟩) ∧
      ∀ before later locale, events = before ++ .perform (.advance call) :: later →
        (s.after before).calls[call]? = some ⟨.loadNamespace name requested, .created⟩ →
        (s.after before).localeFor requested = locale →
        s.hasSource (.addition locale name) = true →
        (∃ other named, (Target.addition other named).key = (Target.addition locale name).key ∧
            s.Delivered events other named) ∧
          ((s.after before).Unrivalled (.addition locale name) → s.Delivered events locale name) ∧
          (s.PlainLocales → (s.after before).Unrivalled (.addition locale name)) := by
  refine ⟨begun_in new.blank.2.2.2.2.1 ended (by simp) rfl, ?_⟩
  rintro before later locale split here rfl source
  have orderly := new.orderly before
  have history : s.after events =
      ((s.after before).handle (.perform (.advance call))).after later := by
    rw [split, after_append, after_cons]
  have plain (h : s.PlainLocales) := h.unrivalled new before source
  rw [← hasSource_after s before] at source
  rcases merged_or_begins orderly here source with merged | ⟨load, sort, begins⟩
  · have stays : (s.after events).isMerged ((s.after before).localeFor requested) name = true := by
      rw [history]
      exact after_induction
        (P := fun t => t.isMerged ((s.after before).localeFor requested) name = true)
        (fun _ e merged => handle_isMerged merged e) (handle_isMerged merged _) later
    have delivered := new.delivered stays
    exact ⟨⟨_, name, rfl, delivered⟩, fun _ => delivered, plain⟩
  · have next := new.orderly events
    have waited := begins.waits.attends.after later
    rw [← history] at waited
    rcases waited with attends | ⟨-, c, now, dropped⟩
    · have present := next.present_of_loaded attends ended
      have entry := begins.entry
      cases sort with
      | catalog code => simp [Target.entry] at entry
      | addition other named =>
        have keys : (Target.addition other named).key =
            (Target.addition ((s.after before).localeFor requested) name).key := by
          simpa [Target.entry] using entry
        have delivered : s.Delivered events other named := new.delivered present
        refine ⟨⟨other, named, keys, delivered⟩, fun unrivalled => ?_, plain⟩
        cases begins.sort_eq unrivalled
        exact delivered
    · cases ended.symm.trans now
      cases dropped

/-- A store of one catalog with a namespace whose source answers at once. -/
def dashOnly : State :=
  ⟨[], [("en", [("dash", ⟨false, fun _ => .ok (titleEntry "Overview")⟩)])], "en", false, none,
    [("en", [])], "en", [], 0, [], [], [], [], [], []⟩

/-- Two calls for the namespace share the load of it, and the first one comes back. -/
def dashTwice : List Event :=
  [.start (.loadNamespace "dash" none), .start (.loadNamespace "dash" (some "en")),
    .perform (.advance 0), .perform (.advance 1), .perform (.run 0), .perform (.deliver 0 1),
    .perform (.advance 1)]

theorem dashTwice_delivered :
    dashOnly.IsNew ∧ dashOnly.PlainLocales ∧
      (dashOnly.after dashTwice).calls[1]? =
        some ⟨.loadNamespace "dash" (some "en"), .ended (.ok .loaded)⟩ ∧
      dashOnly.hasSource (.addition "en" "dash") = true ∧
      dashOnly.Delivered dashTwice "en" "dash" := by
  have new : dashOnly.IsNew := ⟨[("en", .map [])], _, _, _, _, _, _, rfl⟩
  have plain : dashOnly.PlainLocales := by
    intro locale names found
    by_cases known : locale = "en"
    · subst known
      decide
    · have differ : (locale == "en") = false := beq_eq_false_iff_ne.mpr known
      simp [dashOnly, Table.get?, List.lookup_cons, differ] at found
  have ended : (dashOnly.after dashTwice).calls[1]? =
      some ⟨.loadNamespace "dash" (some "en"), .ended (.ok .loaded)⟩ := rfl
  obtain ⟨-, delivers⟩ := namespace_call_delivers new dashTwice ended
  obtain ⟨-, own, unrivalled⟩ := delivers (dashTwice.take 3)
    [.perform (.run 0), .perform (.deliver 0 1), .perform (.advance 1)] "en" rfl rfl rfl rfl
  exact ⟨new, plain, ended, rfl, own (unrivalled plain)⟩

/-- Two pairs with one key, each with a source that answers at once. -/
def oneKey : State :=
  ⟨[], [("en", [("shop:cart", ⟨false, fun _ => .ok (.map [(.text "total", .text "Total")])⟩)]),
      ("en:shop", [("cart", ⟨false, fun _ => .ok (titleEntry "Cart")⟩)])],
    "en", false, none, [("en", [])], "en", [], 0, [], [], [], [], [], []⟩

/-- A call for each pair begins before the load of the first one runs. -/
def oneKeyTwice : List Event :=
  [.start (.loadNamespace "cart" (some "en:shop")), .start (.loadNamespace "shop:cart" (some "en")),
    .perform (.advance 0), .perform (.advance 1), .perform (.run 0), .perform (.deliver 0 0),
    .perform (.deliver 0 1), .perform (.advance 0), .perform (.advance 1)]

/-- The second call ends well, although its namespace is not merged and its source has not been
called. -/
theorem namespace_call_misses :
    oneKey.IsNew ∧ oneKey.hasSource (.addition "en" "shop:cart") = true ∧
      (oneKey.after oneKeyTwice).calls[1]? =
        some ⟨.loadNamespace "shop:cart" (some "en"), .ended (.ok .loaded)⟩ ∧
      (oneKey.after oneKeyTwice).isMerged "en" "shop:cart" = false ∧
      (oneKey.after oneKeyTwice).fetches = [.addition "en:shop" "cart"] ∧
      (oneKey.after oneKeyTwice).catalogs.get? "en" = some [] :=
  ⟨⟨[("en", .map [])], _, _, _, _, _, _, rfl⟩, rfl, rfl, rfl, rfl, rfl⟩

end State

end Localization.Store
