import Localization.Proofs.Catalog.Wrapper
import Localization.Proofs.Store.Completions

/-! # Stores that are given the same messages in other forms

A store reads the answer of a source once, when the load ends, and takes the messages in it. Passing
all answers through a function that keeps their messages therefore commutes with every event. One
such function gives each answer its standard form. Two stores that hold the same standard forms go
through the same states, whatever happens to them, and this is so when fragments are wrapped or
normalized beforehand.
-/
namespace Localization

/-- Two tables have the same keys in the same order, and what they hold is related. -/
inductive Table.Related {α β : Type} (R : α → β → Prop) : Table α → Table β → Prop
  | nil : Table.Related R [] []
  | cons (key : String) {a : α} {b : β} {left : Table α} {right : Table β} (here : R a b)
      (rest : Table.Related R left right) : Table.Related R ((key, a) :: left) ((key, b) :: right)

theorem Table.Related.map_eq {α β γ : Type} {R : α → β → Prop} {f : α → γ} {g : β → γ}
    (same : ∀ a b, R a b → g b = f a) {left : Table α} {right : Table β}
    (h : Table.Related R left right) :
    right.map (fun entry => (entry.1, g entry.2)) =
      left.map (fun entry => (entry.1, f entry.2)) := by
  induction h with
  | nil => rw [List.map_nil, List.map_nil]
  | cons key here _ ih => rw [List.map_cons, List.map_cons, ih, same _ _ here]

namespace Store

open Catalog

abbrev Answer := Except String Value

section Through

variable (f : Answer → Answer)

def Source.through (source : Source) : Source :=
  { source with answer := fun call => f (source.answer call) }

def Stage.through : Stage → Stage
  | held requests answer => held requests (f answer)
  | released requests answer => released requests (f answer)
  | created => created
  | ended outcome => ended outcome

def Load.through (load : Load) : Load := { load with stage := load.stage.through f }

def throughSources (sources : Table Source) : Table Source :=
  sources.map fun entry => (entry.1, entry.2.through f)

namespace State

/-- The state in which the answers of the sources, and those that are held or released, have been
passed through a function. -/
def through (s : State) : State :=
  { s with
    sources := throughSources f s.sources
    additions := s.additions.map fun entry => (entry.1, throughSources f entry.2)
    loads := s.loads.map (Load.through f) }

@[simp] theorem through_catalogs (s : State) : (s.through f).catalogs = s.catalogs := rfl

@[simp] theorem through_locale (s : State) : (s.through f).locale = s.locale := rfl

@[simp] theorem through_merged (s : State) : (s.through f).merged = s.merged := rfl

@[simp] theorem through_translate [Locale.Data] [Stack] (s : State) :
    (s.through f).translate = s.translate := rfl

@[simp] theorem through_calls (s : State) : (s.through f).calls = s.calls := rfl

@[simp] theorem through_ready (s : State) : (s.through f).ready = s.ready := rfl

@[simp] theorem through_requests (s : State) : (s.through f).requests = s.requests := rfl

@[simp] theorem through_length (s : State) : (s.through f).loads.length = s.loads.length :=
  List.length_map ..

@[simp] theorem through_localeFor (s : State) (requested : Option String) :
    (s.through f).localeFor requested = s.localeFor requested := rfl

@[simp] theorem through_isMerged (s : State) (locale name : String) :
    (s.through f).isMerged locale name = s.isMerged locale name := rfl

@[simp] theorem through_inFlight? (s : State) (target : Target) :
    (s.through f).inFlight? target = s.inFlight? target := by
  cases target <;> rfl

@[simp] theorem through_waiters (s : State) (load : Nat) :
    (s.through f).waiters load = s.waiters load := rfl

theorem through_load (s : State) (load : Nat) :
    (s.through f).loads[load]? = s.loads[load]?.map (Load.through f) := List.getElem?_map ..

theorem through_source? (s : State) (target : Target) :
    (s.through f).source? target = (s.source? target).map (Source.through f) := by
  cases target with
  | catalog locale => exact Table.get?_map s.sources (Source.through f) locale
  | addition locale name =>
    have names : (s.through f).additions.get? locale =
        (s.additions.get? locale).map (throughSources f) :=
      Table.get?_map s.additions (throughSources f) locale
    rw [source?, source?, names]
    cases s.additions.get? locale with
    | none => rfl
    | some sources => exact Table.get?_map sources (Source.through f) name

@[simp] theorem through_hasSource (s : State) (target : Target) :
    (s.through f).hasSource target = s.hasSource target := by
  rw [hasSource, hasSource, through_source?, Option.isSome_map]

theorem through_setPhase (s : State) (call : Nat) (phase : Phase) :
    (s.through f).setPhase call phase = (s.setPhase call phase).through f := rfl

theorem through_conclude (s : State) (call : Nat) (outcome : Except Failure Reply) :
    (s.through f).conclude call outcome = (s.conclude call outcome).through f := rfl

theorem through_enqueue (s : State) (jobs : List Job) :
    (s.through f).enqueue jobs = (s.enqueue jobs).through f := rfl

theorem through_switch (s : State) (call number : Nat) (locale : String) :
    (s.through f).switch call number locale = (s.switch call number locale).through f := by
  unfold switch
  rw [through_requests]
  split
  · exact through_conclude f { s with locale } call _
  · exact through_conclude f s call _

theorem through_createLoad (s : State) (target : Target) :
    (s.through f).createLoad target = (s.createLoad target).through f := by
  cases target <;>
    simp [createLoad, enter, enqueue, through, Load.through, Stage.through]

theorem through_join (s : State) (call number : Nat) (target : Target) :
    (s.through f).join call number target = (s.join call number target).through f := by
  rw [join, join, through_inFlight?]
  cases s.inFlight? target with
  | some load => exact through_setPhase f s call _
  | none =>
    dsimp only
    rw [through_createLoad, through_length, through_setPhase]

theorem through_begin (s : State) (call : Nat) (request : Request) :
    (s.through f).begin call request = (s.begin call request).through f := by
  cases request with
  | setLocale locale lazy =>
    -- The request is counted first; what comes then is about the state with the new count.
    let counted : State := { s with requests := s.requests + 1 }
    show (if counted.catalogs.has locale then
        (counted.through f).switch call counted.requests locale
      else if lazy && (counted.through f).hasSource (.catalog locale) then
        (counted.through f).join call counted.requests (.catalog locale)
      else (counted.through f).conclude call (.ok (.changed false))) = _
    rw [begin, through_hasSource, through_switch, through_join, through_conclude]
    split
    · rfl
    · split <;> rfl
  | loadLocale locale =>
    rw [begin, begin, through_catalogs, through_hasSource, through_join, through_conclude,
      through_conclude]
    split
    · rfl
    · split <;> rfl
  | loadNamespace name requested =>
    simp only [begin, through_localeFor, through_isMerged, through_hasSource, through_join,
      through_conclude]
    split <;> rfl

theorem through_resume (s : State) (call number : Nat) (request : Request) (wake : Wake) :
    (s.through f).resume call number request wake =
      (s.resume call number request wake).through f := by
  unfold resume
  split
  · exact through_conclude f s call _
  · exact through_switch f s call number _
  · exact through_conclude f s call _
  · exact through_conclude f s call _
  · exact through_conclude f s call _

theorem through_advance (s : State) (call : Nat) :
    (s.through f).advance call = (s.advance call).through f := by
  unfold advance
  rw [through_calls]
  split
  · exact through_begin f s call _
  · exact through_resume f s call _ _ _
  · rfl

theorem through_setStage (s : State) (load : Nat) (stage : Stage) :
    (s.through f).setStage load (stage.through f) = (s.setStage load stage).through f := by
  have loads : (s.loads.map (Load.through f)).modify load
        (fun l => { l with stage := stage.through f }) =
      (s.loads.modify load fun l => { l with stage }).map (Load.through f) := by
    refine List.ext_getElem? fun other => ?_
    simp only [List.getElem?_modify, List.getElem?_map]
    cases s.loads[other]? with
    | none => rfl
    | some l => by_cases here : load = other <;> simp [here, Load.through]
  simp only [setStage, through, loads]

theorem through_absorb (s : State) (target : Target) (messages : Entries) :
    (s.through f).absorb target messages = (s.absorb target messages).through f := by
  cases target <;> rfl

theorem through_accept (s : State) (target : Target) (messages : Except Failure Entries) :
    (s.through f).accept target messages = (s.accept target messages).through f := by
  cases messages with
  | ok messages => exact through_absorb f s target messages
  | error failure => rfl

theorem through_leave (s : State) (target : Target) :
    (s.through f).leave target = (s.leave target).through f := by
  cases target <;> rfl

variable {f} (keeps : ∀ answer, messagesOf (f answer) = messagesOf answer)

include keeps

theorem through_complete (s : State) (load : Nat) (target : Target) (answer : Answer) :
    (s.through f).complete load target (f answer) =
      (s.complete load target answer).through f := by
  have ends := through_setStage f ((s.accept target (messagesOf answer)).leave target) load
    (.ended ((messagesOf answer).map fun _ => ()))
  rw [Stage.through] at ends
  simp only [complete, keeps, through_accept, through_leave, ends, through_waiters, through_enqueue]

theorem through_fetch (s : State) (load : Nat) (target : Target) :
    (s.through f).fetch load target = (s.fetch load target).through f := by
  rw [fetch, fetch, through_source?]
  cases s.source? target with
  | none => rfl
  | some source =>
    let called : State := { s with fetches := s.fetches ++ [target] }
    let answer := source.answer (s.fetches.count target)
    show (if source.gated then (called.through f).setStage load (.held called.requests (f answer))
      else (called.through f).complete load target (f answer)) = _
    rw [through_complete keeps]
    dsimp only
    split
    · exact through_setStage f called load (.held called.requests answer)
    · rfl

theorem through_run (s : State) (load : Nat) :
    (s.through f).run load = (s.run load).through f := by
  rw [run, run, through_load]
  rcases s.loads[load]? with _ | ⟨target, stage⟩
  · rfl
  · cases stage with
    | created => exact through_fetch keeps s load target
    | released requests answer => exact through_complete keeps s load target answer
    | held | ended => rfl

omit keeps in
theorem through_deliver (s : State) (load call : Nat) :
    (s.through f).deliver load call = (s.deliver load call).through f := by
  rw [deliver, deliver, through_load, through_calls]
  rcases s.loads[load]? with _ | ⟨target, stage⟩
  · rfl
  · cases stage with
    | created | held | released => rfl
    | ended outcome =>
      rcases s.calls[call]? with _ | ⟨request, phase⟩
      · rfl
      · cases phase with
        | created | waking | ended => rfl
        | suspended other number =>
          simp only [Option.map_some, Load.through, Stage.through]
          split <;> rfl

theorem through_perform (s : State) (job : Job) :
    (s.through f).perform job = (s.perform job).through f := by
  cases job with
  | advance call => exact through_advance f s call
  | run load => exact through_run keeps s load
  | deliver load call => exact through_deliver s load call

omit keeps in
theorem through_release (s : State) (load : Nat) :
    (s.through f).release load = (s.release load).through f := by
  rw [release, release, through_load]
  rcases s.loads[load]? with _ | ⟨target, stage⟩
  · rfl
  · cases stage with
    | created | released | ended => rfl
    | held requests answer =>
      have moved := through_setStage f s load (.released requests answer)
      exact congrArg (State.enqueue · [.run load]) moved

omit keeps in
theorem through_cancel (s : State) (call : Nat) :
    (s.through f).cancel call = (s.cancel call).through f := by
  rw [cancel, cancel, through_calls]
  rcases s.calls[call]? with _ | ⟨request, phase⟩
  · rfl
  · cases phase <;> rfl

/-- What happens to a store does not depend on the form of answers. -/
theorem through_handle (s : State) (e : Event) :
    (s.through f).handle e = (s.handle e).through f := by
  cases e with
  | start request => rfl
  | release load => exact through_release s load
  | cancel call => exact through_cancel s call
  | mark locale names => rfl
  | perform job =>
    rw [handle, handle, through_ready]
    split
    · exact through_perform keeps { s with ready := s.ready.erase job } job
    · rfl

theorem through_after (s : State) (events : List Event) :
    (s.through f).after events = (s.after events).through f := by
  induction events generalizing s with
  | nil => rfl
  | cons e rest ih => rw [after_cons, after_cons, through_handle keeps, ih]

end State

end Through

/-- Both answers are the same fault, or the second one has a form of the fragment of the first. -/
inductive Answer.Variant : Answer → Answer → Prop
  | fault (text : String) : Variant (.error text) (.error text)
  | fragment {a b : Value} (form : Catalog.Variant a b) : Variant (.ok a) (.ok b)

/-- A source holds its answers back as another one does, and gives forms of the same fragments. -/
structure Source.Variant (a b : Source) : Prop where
  gated : b.gated = a.gated
  answer (call : Nat) : Answer.Variant (a.answer call) (b.answer call)

def standardAnswer : Answer → Answer
  | .ok fragment => .ok (standard fragment)
  | .error text => .error text

theorem messagesOf_standardAnswer (answer : Answer) :
    State.messagesOf (standardAnswer answer) = State.messagesOf answer := by
  cases answer with
  | ok fragment => exact normalize_standard fragment
  | error text => rfl

theorem Answer.Variant.standard_eq {a b : Answer} (h : Answer.Variant a b) :
    standardAnswer b = standardAnswer a := by
  cases h with
  | fault text => rfl
  | fragment form => rw [standardAnswer, standardAnswer, form.standard_eq]

theorem Source.Variant.through_eq {a b : Source} (h : Source.Variant a b) :
    b.through standardAnswer = a.through standardAnswer := by
  have answers : (fun call => standardAnswer (b.answer call)) =
      fun call => standardAnswer (a.answer call) := funext fun call => (h.answer call).standard_eq
  rw [Source.through, Source.through, answers, h.gated]

/-- What a store is made of: catalogs, and sources of locales and namespaces. -/
structure Supply where
  catalogs : Table Value
  sources : Table Source
  additions : Table (Table Source)

/-- Two supplies whose fragments are forms of each other, in catalogs and in answers. -/
structure Supply.Variant (a b : Supply) : Prop where
  catalogs : Table.Related Catalog.Variant a.catalogs b.catalogs
  sources : Table.Related Source.Variant a.sources b.sources
  additions : Table.Related (Table.Related Source.Variant) a.additions b.additions

/-- What callers see of a store is what they see of another one. -/
structure SameView (s t : State) : Prop where
  catalogs : t.catalogs = s.catalogs
  locale : t.locale = s.locale
  merged : t.merged = s.merged
  calls : t.calls = s.calls
  translate [Locale.Data] [Stack] : t.translate = s.translate

namespace State

theorem outcome_normalizeAll {catalogs others : Table Value}
    (h : Table.Related Catalog.Variant catalogs others) :
    (normalizeAll others).outcome = (normalizeAll catalogs).outcome := by
  induction h with
  | nil => rfl
  | cons locale form _ ih =>
    simp only [normalizeAll, Attempt.outcome_bind, outcome_normalizeLogged, form.normalize_eq, ih]

theorem sameView_of_through {f : Answer → Answer} {s t : State}
    (same : t.through f = s.through f) : SameView s t where
  catalogs := by rw [← through_catalogs f t, same, through_catalogs]
  locale := by rw [← through_locale f t, same, through_locale]
  merged := by rw [← through_merged f t, same, through_merged]
  calls := by rw [← through_calls f t, same, through_calls]
  translate := by
    intro data stack
    rw [← through_translate f t, same, through_translate]

end State

variable (locale fallback : String) (debug : Bool) (handler : Option Translation.MissingHandler)

def Supply.store (given : Supply) : Attempt State :=
  State.ofCatalogs given.catalogs given.sources given.additions locale fallback debug handler

def Supply.opened (given : Supply) (catalogs : Table Entries) : State :=
  ⟨given.sources, given.additions, fallback, debug, handler, catalogs, locale, [], 0, [], [], [],
    [], [], []⟩

theorem Supply.outcome_store (given : Supply) :
    (given.store locale fallback debug handler).outcome =
      (State.normalizeAll given.catalogs).outcome.map
        (given.opened locale fallback debug handler) := by
  rw [store, State.ofCatalogs, Attempt.outcome_bind]
  cases (State.normalizeAll given.catalogs).outcome <;> rfl

theorem Supply.Variant.through_opened {given other : Supply} (h : given.Variant other)
    (catalogs : Table Entries) :
    (other.opened locale fallback debug handler catalogs).through standardAnswer =
      (given.opened locale fallback debug handler catalogs).through standardAnswer := by
  have sources : throughSources standardAnswer other.sources =
      throughSources standardAnswer given.sources :=
    h.sources.map_eq fun _ _ form => form.through_eq
  have additions : other.additions.map (fun entry =>
        (entry.1, throughSources standardAnswer entry.2)) =
      given.additions.map fun entry => (entry.1, throughSources standardAnswer entry.2) :=
    h.additions.map_eq fun _ _ related => related.map_eq fun _ _ form => form.through_eq
  simp only [State.through, Supply.opened, sources, additions]

/-- A wrapper around a map makes no difference exactly when the map does not look like a wrapper
itself. Such maps aside, a store shows the same whether its fragments are wrapped or not. -/
theorem wrapper_transparent_iff (m : Entries) {given other : Supply}
    (variant : given.Variant other) :
    (Catalog.normalize (.map (wrap m)) = Catalog.normalize (.map m) ↔ ¬ IsWrapper m) ∧
    (∀ messages, Catalog.normalize (.map m) = .ok messages →
      (Catalog.normalize (.map messages) = .ok messages ↔ ¬ IsWrapper messages)) ∧
    (Entries.Distinct m → (IsWrapper (merge [] m) ↔ IsWrapper (safeEntries m))) ∧
    (∀ failure, (given.store locale fallback debug handler).outcome = .error failure →
      (other.store locale fallback debug handler).outcome = .error failure) ∧
    ∀ s, (given.store locale fallback debug handler).outcome = .ok s →
      ∃ t, (other.store locale fallback debug handler).outcome = .ok t ∧
        ∀ events, SameView (s.after events) (t.after events) := by
  refine ⟨normalize_wrap_eq_iff m, fun _ normal => (normal_normalize normal).normalize_eq_iff,
    isWrapper_merge_nil_iff, ?_⟩
  simp only [Supply.outcome_store, State.outcome_normalizeAll variant.catalogs]
  cases (State.normalizeAll given.catalogs).outcome with
  | error failure =>
    constructor
    · exact fun other same => same
    · intro s impossible
      cases impossible
  | ok catalogs =>
    constructor
    · intro failure impossible
      cases impossible
    · intro s made
      cases made
      refine ⟨other.opened locale fallback debug handler catalogs, rfl, fun events => ?_⟩
      have forms := variant.through_opened locale fallback debug handler catalogs
      refine State.sameView_of_through (f := standardAnswer) ?_
      rw [← State.through_after messagesOf_standardAnswer, forms,
        State.through_after messagesOf_standardAnswer]

def shortTitle : Entries := [(.text "title", .text "Hi")]

/-- A store with a catalog and the source of another one, both without a wrapper. -/
def bareSupply : Supply :=
  ⟨[("en", .map shortTitle)], [("de", ⟨false, fun _ => .ok (.map shortTitle)⟩)], []⟩

def wrappedSupply : Supply :=
  ⟨[("en", .map (wrap shortTitle))], [("de", ⟨false, fun _ => .ok (.map (wrap shortTitle))⟩)], []⟩

theorem shortTitle_bare : ¬ IsWrapper shortTitle := by
  rintro ⟨inner, same⟩
  simp [shortTitle, wrap, defaultKey] at same

theorem shortTitle_in_any_form :
    ¬ IsWrapper shortTitle ∧
      Catalog.normalize (.map (wrap shortTitle)) = Catalog.normalize (.map shortTitle) ∧
      Catalog.normalize (.map (wrap shortTitle)) = .ok shortTitle ∧
      Catalog.normalize (.map shortTitle) = .ok shortTitle ∧
      Entries.Distinct shortTitle ∧ ¬ IsWrapper (merge [] shortTitle) ∧
      bareSupply.Variant wrappedSupply ∧
      ∃ t, (wrappedSupply.store "en" "en" false none).outcome = .ok t ∧
        (t.after [.start (.loadLocale "de"), .perform (.advance 0), .perform (.run 0)]).catalogs =
          [("en", shortTitle), ("de", shortTitle)] := by
  have normal : Catalog.normalize (.map shortTitle) = .ok shortTitle := rfl
  have distinct : Entries.Distinct shortTitle := by decide
  have variant : bareSupply.Variant wrappedSupply := by
    refine ⟨.cons "en" (.wrapped shortTitle_bare) .nil, .cons "de" ⟨rfl, fun call => ?_⟩ .nil, .nil⟩
    exact .fragment (.wrapped shortTitle_bare)
  obtain ⟨wrapped, again, shape, -, opened⟩ :=
    wrapper_transparent_iff "en" "en" false none shortTitle variant
  obtain ⟨t, made, same⟩ := opened _ rfl
  have alike := wrapped.mpr shortTitle_bare
  refine ⟨shortTitle_bare, alike, alike.trans normal, (again _ normal).mpr shortTitle_bare,
    distinct, ?_, variant, t, made, (same _).catalogs⟩
  rw [shape distinct]
  exact shortTitle_bare

/-- A fragment that looks like a wrapper once its unsafe key is left out. -/
def spoiledWrapper : Entries := [(.text "constructor", .null), (defaultKey, .map shortTitle)]

/-- Of two wrappers the inner one stays, but alone it would not, and a normalized catalog that looks
like a wrapper is another one when it is normalized again. -/
theorem wrapper_shape_lost :
    Catalog.normalize (.map (wrap (wrap shortTitle))) = .ok (wrap shortTitle) ∧
      Catalog.normalize (.map (wrap shortTitle)) = .ok shortTitle ∧
      Catalog.normalize (.map (wrap (wrap shortTitle))) ≠
        Catalog.normalize (.map (wrap shortTitle)) ∧
      Catalog.normalize (.map spoiledWrapper) = .ok (wrap shortTitle) ∧
      Catalog.normalize (.map (wrap shortTitle)) ≠ .ok (wrap shortTitle) := by
  have once : Catalog.normalize (.map (wrap shortTitle)) = .ok shortTitle := rfl
  have twice : Catalog.normalize (.map (wrap (wrap shortTitle))) = .ok (wrap shortTitle) := rfl
  refine ⟨twice, once, ?_, rfl, ?_⟩
  · rw [twice, once]
    exact fun same => ne_wrap _ (Except.ok.inj same).symm
  · rw [once]
    exact fun same => ne_wrap _ (Except.ok.inj same)

end Store

end Localization
