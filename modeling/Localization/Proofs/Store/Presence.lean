import Localization.Proofs.Store.Namespaces
import Localization.Proofs.Store.Requests

/-! # Locales that count as loaded

A call for a locale finds it loaded when there is a catalog under its name. A load of the
locale puts one there, but a load of one of its namespaces does so too. After the latter the
locale counts as loaded, and its own load is not begun any more.
-/
namespace Localization.Store.State

/-- A call has returned that a locale is loaded or active. -/
def Reports (s : State) (call : Nat) (locale : String) : Prop :=
  s.calls[call]? = some ⟨.loadLocale locale, .ended (.ok .loaded)⟩ ∨ s.HasSwitched call locale

theorem absorbed_append (s : State) (first second : List Event) :
    s.absorbed (first ++ second) = s.absorbed first ++ (s.after first).absorbed second := by
  induction first generalizing s with
  | nil => rfl
  | cons e rest ih => simp only [List.cons_append, absorbed, ih, after_cons, List.append_assoc]

theorem after_has_iff (s : State) (events : List Event) (locale : String) :
    (s.after events).catalogs.has locale = true ↔
      s.catalogs.has locale = true ∨ ∃ item ∈ s.absorbed events, item.1.locale = locale := by
  rw [after_catalogs]
  generalize s.catalogs = catalogs
  induction s.absorbed events generalizing catalogs with
  | nil => simp
  | cons item rest ih =>
    rw [List.foldl_cons, ih, takeIn_has_iff, or_assoc]
    simp only [List.mem_cons, exists_eq_or_imp]

theorem exists_locale_iff (items : List (Target × Entries)) (locale : String) :
    (∃ item ∈ items, item.1.locale = locale) ↔
      (∃ messages, (.catalog locale, messages) ∈ items) ∨
        ∃ name messages, (.addition locale name, messages) ∈ items := by
  constructor
  · rintro ⟨⟨target, messages⟩, inside, rfl⟩
    cases target with
    | catalog locale => exact .inl ⟨messages, inside⟩
    | addition locale name => exact .inr ⟨name, messages, inside⟩
  · rintro (⟨messages, inside⟩ | ⟨name, messages, inside⟩)
    · exact ⟨_, inside, rfl⟩
    · exact ⟨_, inside, rfl⟩

theorem ServesAll.has_of_reports {s : State} (h : s.ServesAll) {call : Nat} {locale : String}
    (reports : s.Reports call locale) : s.catalogs.has locale = true := by
  rcases reports with loaded | ⟨lazy, switched⟩
  · exact h call _ loaded locale rfl
  · exact h call _ switched locale rfl

theorem reports_of_has {s : State} {call : Nat} {request : Request} {locale : String}
    (needs : request.catalog? = some locale) (has : s.catalogs.has locale = true)
    (here : s.calls[call]? = some ⟨request, .created⟩) (ready : .advance call ∈ s.ready) :
    (s.handle (.perform (.advance call))).Reports call locale := by
  have self (t : State) (calls : t.calls = s.calls) (outcome : Except Failure Reply) :
      (t.conclude call outcome).calls[call]? = some ⟨request, .ended outcome⟩ := by
    rw [conclude, getElem?_setPhase, if_pos rfl, calls, here]
    rfl
  simp only [handle, if_pos ready, perform, advance, here]
  cases request with
  | setLocale other lazy =>
    cases needs
    simp only [begin, has, ↓reduceIte, switch]
    exact .inr ⟨lazy, self _ rfl _⟩
  | loadLocale other =>
    cases needs
    simp only [begin, has, ↓reduceIte]
    exact .inl (self _ rfl _)
  | loadNamespace name requested => cases needs

/-- A call returns that a locale is loaded or active only once its catalog or a namespace of it has
been loaded, and from then on at once. A catalog that begins with a namespace is not loaded itself. -/
theorem reported_locale_iff {s : State} (new : s.IsNew) {locale : String}
    (absent : s.catalogs.has locale = false) (events : List Event) :
    (∀ call, (s.after events).Reports call locale →
        (∃ messages, (.catalog locale, messages) ∈ s.absorbed events) ∨
          ∃ name messages, (.addition locale name, messages) ∈ s.absorbed events) ∧
      (∀ (call : Nat) (request : Request), request.catalog? = some locale →
        (s.after events).calls[call]? = some ⟨request, .created⟩ →
        .advance call ∈ (s.after events).ready →
        (((s.after events).handle (.perform (.advance call))).Reports call locale ↔
          (∃ messages, (.catalog locale, messages) ∈ s.absorbed events) ∨
            ∃ name messages, (.addition locale name, messages) ∈ s.absorbed events)) ∧
      ∀ name messages, (.addition locale name, messages) ∈ s.absorbed events →
        (s.after events).inFlight? (.catalog locale) = none →
        ∀ later others, (.catalog locale, others) ∉ (s.after events).absorbed later := by
  have present (events : List Event) : (s.after events).catalogs.has locale = true ↔
      (∃ messages, (.catalog locale, messages) ∈ s.absorbed events) ∨
        ∃ name messages, (.addition locale name, messages) ∈ s.absorbed events := by
    rw [after_has_iff, absent, exists_locale_iff]
    simp only [Bool.false_eq_true, false_or]
  refine ⟨?_, ?_, ?_⟩
  · intro call reports
    exact (present events).mp ((new.serves events).2.has_of_reports reports)
  · intro call request needs here ready
    constructor
    · intro reports
      have quiet : s.absorbed (events ++ [.perform (.advance call)]) = s.absorbed events := by
        rw [absorbed_append]
        exact List.append_nil _
      have has := (new.serves (events ++ [.perform (.advance call)])).2.has_of_reports
        (by rwa [after_append])
      rwa [present, quiet] at has
    · intro ended
      exact reports_of_has needs ((present events).mpr ended) here ready
  · intro name messages ended free later
    have settled : (s.after events).Settled locale :=
      ⟨(present events).mpr (.inr ⟨name, messages, ended⟩), free⟩
    exact settled.absorbed (new.serves events).1 later

/-- A namespace of a locale is merged, and then the locale itself is asked for twice. -/
def namespaceFirst : List Event :=
  namespaceHeld ++ [.perform (.run 0), .start (.setLocale "de" true), .start (.loadLocale "de")]

/-- After the load of a namespace alone the locale counts as active at once, and its catalog is
never loaded. -/
theorem reported_locale_by_namespace :
    heldNamespace.IsNew ∧ heldNamespace.catalogs.has "de" = false ∧
      ((heldNamespace.after namespaceFirst).handle (.perform (.advance 1))).Reports 1 "de" ∧
      ∀ later messages,
        (.catalog "de", messages) ∉ heldNamespace.absorbed (namespaceFirst ++ later) := by
  have absent : heldNamespace.catalogs.has "de" = false := rfl
  have brought : heldNamespace.absorbed namespaceFirst =
      [(.addition "de" "dash", dashMessages)] := rfl
  have ended : (.addition "de" "dash", dashMessages) ∈ heldNamespace.absorbed namespaceFirst := by
    rw [brought]
    exact List.mem_cons_self
  obtain ⟨-, first, never⟩ := reported_locale_iff heldNamespace_isNew absent namespaceFirst
  refine ⟨heldNamespace_isNew, absent, ?_, ?_⟩
  · exact (first 1 (.setLocale "de" true) rfl rfl (by decide)).mpr (.inr ⟨_, _, ended⟩)
  · intro later messages inside
    rw [absorbed_append, brought] at inside
    rcases List.mem_append.mp inside with first | last
    · cases List.mem_singleton.mp first
    · exact never "dash" dashMessages ended rfl later messages last

/-- Both calls return that the locale is there. Its source was never called, and a message of its
own catalog is not found. -/
theorem locale_reported_without_catalog :
    let s := heldNamespace.after (namespaceFirst ++ [.perform (.advance 1), .perform (.advance 2)])
    heldNamespace.IsNew ∧ heldNamespace.hasSource (.catalog "de") = true ∧
      heldNamespace.catalogs.has "de" = false ∧ s.HasSwitched 1 "de" ∧ s.Reports 2 "de" ∧
      s.fetches = [.addition "de" "dash"] ∧ messageIn s.catalogs "de" ["title"] = none :=
  ⟨heldNamespace_isNew, rfl, rfl, ⟨true, rfl⟩, .inl rfl, rfl, rfl⟩

end Localization.Store.State
