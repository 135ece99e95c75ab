import Localization.Proofs.Store.Flight

/-! # The latest request for a locale

Requests for a locale are numbered in the order in which they begin to run. A request makes
its locale active only while it is the latest one, so the active locale is that of the latest
request that came through.
-/
namespace Localization.Store

def Phase.request? : Phase → Option Nat
  | suspended _ number => some number
  | waking number (.completed _) => some number
  | _ => none

namespace State

/-- The calls for a locale in the order in which they begin to run in a history. -/
def openings (s : State) : List Event → List Nat
  | [] => []
  | e :: rest => (s.opened? e).toList ++ (s.handle e).openings rest

/-- A call for a locale has returned that the locale is active now. -/
def HasSwitched (s : State) (call : Nat) (locale : String) : Prop :=
  ∃ lazy, s.calls[call]? = some ⟨.setLocale locale lazy, .ended (.ok (.changed true))⟩

theorem openings_append (s : State) (first second : List Event) :
    s.openings (first ++ second) = s.openings first ++ (s.after first).openings second := by
  induction first generalizing s with
  | nil => rfl
  | cons e rest ih => simp only [List.cons_append, openings, ih, after_cons, List.append_assoc]

theorem openings_snoc (s : State) (events : List Event) (e : Event) :
    s.openings (events ++ [e]) = s.openings events ++ ((s.after events).opened? e).toList := by
  simp only [openings_append, openings, List.append_nil]

theorem Passage.wasOpen {s t : State} {request : Request} {before after : Phase}
    (h : Passage s t request before after) : before.isOpen = true := by
  cases h with
  | cancelled _ _ isOpen => exact isOpen
  | _ => rfl

theorem Passage.ne_created {s t : State} {request : Request} {before after : Phase}
    (h : Passage s t request before after) : after ≠ .created := by
  cases h <;> simp

theorem Passage.ne_switched {s t : State} {request : Request} {before after : Phase}
    (h : Passage s t request before after) : after ≠ .ended (.ok (.changed true)) := by
  cases h <;> simp

theorem Passage.request? {s t : State} {locale : String} {lazy : Bool} {before after : Phase}
    {number : Nat} (h : Passage s t (.setLocale locale lazy) before after)
    (waits : after.request? = some number) : before.request? = some number := by
  cases h with
  | woken _ load number target outcome ended => exact waits
  | _ => cases waits

theorem hasSwitched_congr {s t : State} (calls : t.calls = s.calls) (call : Nat) (locale : String) :
    t.HasSwitched call locale ↔ s.HasSwitched call locale := by
  simp only [HasSwitched, calls]

theorem hasSwitched_asked {s t : State} {request : Request}
    (calls : t.calls = s.calls ++ [⟨request, .created⟩]) (call : Nat) (locale : String) :
    t.HasSwitched call locale ↔ s.HasSwitched call locale := by
  constructor
  · rintro ⟨lazy, there⟩
    rw [calls] at there
    rcases getElem?_snoc there with old | ⟨-, eq⟩
    · exact ⟨lazy, old⟩
    · cases eq
  · rintro ⟨lazy, here⟩
    exact ⟨lazy, calls ▸ getElem?_kept here _⟩

theorem hasSwitched_iff {s t : State} {call : Nat} {request : Request} {before after : Phase}
    (here : s.calls[call]? = some ⟨request, before⟩)
    (calls : t.calls = (s.setPhase call after).calls) (wasOpen : before.isOpen = true)
    (quiet : after ≠ .ended (.ok (.changed true))) (other : Nat) (locale : String) :
    t.HasSwitched other locale ↔ s.HasSwitched other locale := by
  by_cases same : other = call
  · subst same
    constructor
    · rintro ⟨lazy, there⟩
      rw [setPhase_self here calls] at there
      cases there
      exact absurd rfl quiet
    · rintro ⟨lazy, there⟩
      rw [here] at there
      cases there
      cases wasOpen
  · simp only [HasSwitched, setPhase_of_ne calls same]

/-- The active locale is the first one or that of the latest request that came through. -/
def Decided (first : String) (order : List Nat) (s : State) : Prop :=
  (s.locale = first ∧ ∀ call locale, ¬ s.HasSwitched call locale) ∨
    ∃ (k call : Nat), order[k]? = some call ∧ s.HasSwitched call s.locale ∧
      ∀ j other : Nat, k < j → order[j]? = some other → ∀ locale, ¬ s.HasSwitched other locale

/-- The calls of `order` are the requests so far, and an open call for a locale has its place
there as its number. -/
structure Ordered (first : String) (order : List Nat) (s : State) : Prop where
  count : s.requests = order.length
  nodup : order.Nodup
  begun (call : Nat) : call ∈ order → ∃ request phase, s.calls[call]? = some ⟨request, phase⟩ ∧
    phase ≠ .created
  numbered (call : Nat) (locale : String) (lazy : Bool) (phase : Phase) (number : Nat) :
    s.calls[call]? = some ⟨.setLocale locale lazy, phase⟩ → phase.request? = some number →
    ∃ k, number = k + 1 ∧ order[k]? = some call
  switched (call : Nat) (locale : String) : s.HasSwitched call locale → call ∈ order
  decided : Decided first order s

section

variable {first : String} {order : List Nat} {s t : State}

theorem Decided.kept (h : Decided first order s)
    (same : ∀ call locale, t.HasSwitched call locale ↔ s.HasSwitched call locale)
    (locale : t.locale = s.locale) (opened : List Nat)
    (quiet : ∀ call ∈ opened, ∀ locale, ¬ t.HasSwitched call locale) :
    Decided first (order ++ opened) t := by
  rcases h with ⟨initial, none⟩ | ⟨k, call, here, won, later⟩
  · refine .inl ⟨locale.trans initial, ?_⟩
    intro call locale
    exact (not_congr (same call locale)).mpr (none call locale)
  · refine .inr ⟨k, call, ?_, ?_, ?_⟩
    · exact getElem?_kept here _
    · rw [locale, same]
      exact won
    · intro j other lt there
      rw [List.getElem?_append] at there
      split at there
      · intro locale
        exact (not_congr (same other locale)).mpr (later j other lt there locale)
      · exact quiet other (List.mem_of_getElem? there)

theorem Decided.won {call : Nat}
    (last : order.getLast? = some call) (won : t.HasSwitched call t.locale) :
    Decided first order t := by
  rw [List.getLast?_eq_getElem?] at last
  refine .inr ⟨order.length - 1, call, last, won, ?_⟩
  intro j other lt there
  have bound := (List.getElem?_eq_some_iff.mp there).1
  omega

theorem IsNew.ordered {s : State} (h : s.IsNew) : Ordered s.locale [] s := by
  obtain ⟨-, requests, -, -, calls, -⟩ := h.blank
  have none (call : Nat) (c : Call) : s.calls[call]? ≠ some c := by simp [calls]
  refine ⟨requests, List.nodup_nil, ?_, ?_, ?_, .inl ⟨rfl, ?_⟩⟩
  · intro call inside
    cases inside
  · intro call locale lazy phase number here
    exact absurd here (none call _)
  · rintro call locale ⟨lazy, here⟩
    exact absurd here (none call _)
  · rintro call locale ⟨lazy, here⟩
    exact absurd here (none call _)

theorem Ordered.kept (h : Ordered first order s)
    (requests : t.requests = s.requests) (locale : t.locale = s.locale)
    (same : ∀ call locale, t.HasSwitched call locale ↔ s.HasSwitched call locale)
    (begun : ∀ (call : Nat) request phase, s.calls[call]? = some ⟨request, phase⟩ →
      phase ≠ .created → ∃ after, t.calls[call]? = some ⟨request, after⟩ ∧ after ≠ .created)
    (numbered : ∀ (call : Nat) locale lazy phase number,
      t.calls[call]? = some ⟨.setLocale locale lazy, phase⟩ → phase.request? = some number →
      ∃ before, s.calls[call]? = some ⟨.setLocale locale lazy, before⟩ ∧
        before.request? = some number) :
    Ordered first order t := by
  refine ⟨requests.trans h.count, h.nodup, ?_, ?_, ?_, ?_⟩
  · intro call inside
    obtain ⟨request, phase, here, old⟩ := h.begun call inside
    obtain ⟨after, there, new⟩ := begun call request phase here old
    exact ⟨request, after, there, new⟩
  · intro call locale lazy phase number there waits
    obtain ⟨before, here, waited⟩ := numbered call locale lazy phase number there waits
    exact h.numbered call locale lazy before number here waited
  · intro call locale won
    exact h.switched call locale ((same call locale).mp won)
  · have decided := h.decided.kept same locale [] (fun call inside => by cases inside)
    rwa [List.append_nil] at decided

theorem Ordered.fresh (h : Ordered first order s)
    {call : Nat} {request : Request} (here : s.calls[call]? = some ⟨request, .created⟩) :
    call ∉ order := by
  intro inside
  obtain ⟨other, phase, there, begun⟩ := h.begun call inside
  rw [here] at there
  cases there
  exact begun rfl

theorem Decided.opened
    (h : Decided first order s) {call : Nat} {locale : String} {lazy : Bool} {phase : Phase}
    (here : s.calls[call]? = some ⟨.setLocale locale lazy, .created⟩)
    (calls : t.calls = (s.setPhase call phase).calls) (opening : Opening s t locale phase) :
    Decided first (order ++ [call]) t := by
  have self := setPhase_self here calls
  have kept (quiet : phase ≠ .ended (.ok (.changed true))) (active : t.locale = s.locale) :
      Decided first (order ++ [call]) t := by
    refine h.kept (hasSwitched_iff here calls rfl quiet) active [call] ?_
    rintro other inside locale' ⟨lazy', there⟩
    rw [List.mem_singleton.mp inside, self] at there
    cases there
    exact quiet rfl
  cases opening with
  | present _ active =>
    have last : (order ++ [call]).getLast? = some call := by simp
    refine Decided.won last ?_
    rw [active]
    exact ⟨lazy, self⟩
  | missing _ active => exact kept (by simp) active
  | awaited load _ active => exact kept (by simp) active

theorem Ordered.opened (h : Ordered first order s)
    {call : Nat} {locale : String} {lazy : Bool} {phase : Phase}
    (here : s.calls[call]? = some ⟨.setLocale locale lazy, .created⟩)
    (calls : t.calls = (s.setPhase call phase).calls) (requests : t.requests = s.requests + 1)
    (opening : Opening s t locale phase) : Ordered first (order ++ [call]) t := by
  have self := setPhase_self here calls
  refine ⟨by simp [requests, h.count], ?_, ?_, ?_, ?_, h.decided.opened here calls opening⟩
  · refine List.nodup_append.mpr ⟨h.nodup, by simp, ?_⟩
    rintro a inside b same rfl
    rw [List.mem_singleton] at same
    exact h.fresh here (same ▸ inside)
  · intro other inside
    by_cases same : other = call
    · subst same
      exact ⟨_, phase, self, by cases opening <;> simp⟩
    · rw [setPhase_of_ne calls same]
      refine h.begun other ?_
      simpa [same] using inside
  · intro other locale' lazy' phase' number there waits
    rcases setPhase_cases here calls there with ⟨rfl, eq⟩ | ⟨-, old⟩
    · cases eq
      cases opening with
      | present => cases waits
      | missing => cases waits
      | awaited load =>
        cases waits
        exact ⟨order.length, by rw [h.count], by simp⟩
    · obtain ⟨k, eq, found⟩ := h.numbered other locale' lazy' phase' number old waits
      exact ⟨k, eq, getElem?_kept found _⟩
  · rintro other locale' ⟨lazy', there⟩
    rcases setPhase_cases here calls there with ⟨rfl, -⟩ | ⟨-, old⟩
    · simp
    · exact List.mem_append_left _ (h.switched other locale' ⟨lazy', old⟩)

theorem Ordered.switched_last (h : Ordered first order s) {call : Nat} {locale : String}
    {lazy : Bool} {wake : Except Failure Unit}
    (here : s.calls[call]? =
      some ⟨.setLocale locale lazy, .waking s.requests (.completed wake)⟩) :
    order.getLast? = some call := by
  obtain ⟨k, number, found⟩ := h.numbered call locale lazy _ _ here rfl
  have count := h.count
  rw [List.getLast?_eq_getElem?, ← found]
  congr 1
  omega

theorem Ordered.switch (h : Ordered first order s)
    {call : Nat} {locale : String} {lazy : Bool}
    (here : s.calls[call]? =
      some ⟨.setLocale locale lazy, .waking s.requests (.completed (.ok ()))⟩)
    (calls : t.calls = (s.setPhase call (.ended (.ok (.changed true)))).calls)
    (requests : t.requests = s.requests) (active : t.locale = locale) : Ordered first order t := by
  have last := h.switched_last here
  have self := setPhase_self here calls
  refine ⟨requests.trans h.count, h.nodup, ?_, ?_, ?_, ?_⟩
  · intro other inside
    by_cases same : other = call
    · subst same
      exact ⟨_, _, self, by simp⟩
    · rw [setPhase_of_ne calls same]
      exact h.begun other inside
  · intro other locale' lazy' phase number there waits
    rcases setPhase_cases here calls there with ⟨-, eq⟩ | ⟨-, old⟩
    · cases eq
      cases waits
    · exact h.numbered other locale' lazy' phase number old waits
  · rintro other locale' ⟨lazy', there⟩
    rcases setPhase_cases here calls there with ⟨rfl, -⟩ | ⟨-, old⟩
    · exact List.mem_of_getLast? last
    · exact h.switched other locale' ⟨lazy', old⟩
  · refine Decided.won last ?_
    rw [active]
    exact ⟨lazy, self⟩

theorem Ordered.handle (h : Ordered first order s)
    (e : Event) : Ordered first (order ++ (s.opened? e).toList) (s.handle e) := by
  have step := handle_callStep s e
  generalize s.opened? e = opened at step
  cases step with
  | still same =>
    rw [Option.toList_none, List.append_nil]
    refine h.kept same.requests same.locale (hasSwitched_congr same.calls) ?_ ?_
    · intro call request phase here begun
      exact ⟨phase, same.calls ▸ here, begun⟩
    · intro call locale lazy phase number there waits
      exact ⟨phase, same.calls ▸ there, waits⟩
  | asked request calls requests locale =>
    rw [Option.toList_none, List.append_nil]
    refine h.kept requests locale (hasSwitched_asked calls) ?_ ?_
    · intro call request' phase here begun
      exact ⟨phase, calls ▸ getElem?_kept here _, begun⟩
    · intro call locale' lazy phase number there waits
      rw [calls] at there
      rcases getElem?_snoc there with old | ⟨-, eq⟩
      · exact ⟨phase, old, waits⟩
      · cases eq
        cases waits
  | opened call locale lazy phase here calls requests opening =>
    exact h.opened here calls requests opening
  | switched call locale lazy here calls requests active =>
    rw [Option.toList_none, List.append_nil]
    exact h.switch here calls requests active
  | moved call request before after here calls requests locale passage =>
    rw [Option.toList_none, List.append_nil]
    refine h.kept requests locale
      (hasSwitched_iff here calls passage.wasOpen passage.ne_switched) ?_ ?_
    · intro other request' phase there begun
      by_cases same : other = call
      · subst same
        rw [here] at there
        cases there
        exact ⟨after, setPhase_self here calls, passage.ne_created⟩
      · exact ⟨phase, (setPhase_of_ne calls same).trans there, begun⟩
    · intro other locale' lazy phase number there waits
      rcases setPhase_cases here calls there with ⟨rfl, eq⟩ | ⟨-, old⟩
      · cases eq
        exact ⟨before, here, passage.request? waits⟩
      · exact ⟨phase, old, waits⟩

theorem IsNew.ordered_after {s : State} (h : s.IsNew) (events : List Event) :
    Ordered s.locale (s.openings events) (s.after events) := by
  suffices run : ∀ {first : String} {order : List Nat} {s : State}, Ordered first order s →
      Ordered first (order ++ s.openings events) (s.after events) from run h.ordered
  induction events with
  | nil =>
    intro first order s h
    rwa [openings, List.append_nil]
  | cons e rest ih =>
    intro first order s h
    have next := ih (h.handle e)
    rwa [List.append_assoc] at next

/-- With the event a call for a locale returns that the locale is active now. -/
def Switches (s : State) (e : Event) (call : Nat) (locale : String) : Prop :=
  ¬ s.HasSwitched call locale ∧ (s.handle e).HasSwitched call locale

theorem Ordered.newest (h : Ordered first order s)
    {e : Event} {call : Nat} {locale : String} (switches : s.Switches e call locale) :
    (order ++ (s.opened? e).toList).getLast? = some call := by
  obtain ⟨before, lazy, there⟩ := switches
  have step := handle_callStep s e
  generalize s.opened? e = opened at step
  cases step with
  | still same => exact absurd ((hasSwitched_congr same.calls ..).mp ⟨lazy, there⟩) before
  | asked request calls => exact absurd ((hasSwitched_asked calls ..).mp ⟨lazy, there⟩) before
  | opened other locale' lazy' phase here calls requests opening =>
    rcases setPhase_cases here calls there with ⟨rfl, -⟩ | ⟨-, old⟩
    · simp
    · exact absurd ⟨lazy, old⟩ before
  | switched other locale' lazy' here calls =>
    rcases setPhase_cases here calls there with ⟨rfl, -⟩ | ⟨-, old⟩
    · rw [Option.toList_none, List.append_nil]
      exact h.switched_last here
    · exact absurd ⟨lazy, old⟩ before
  | moved other request phase next here calls requests locale' passage =>
    have same := hasSwitched_iff here calls passage.wasOpen passage.ne_switched call locale
    exact absurd (same.mp ⟨lazy, there⟩) before

theorem handle_locale {s : State} {e : Event} (change : (s.handle e).locale ≠ s.locale) :
    ∃ call, s.Switches e call (s.handle e).locale := by
  have begun {call : Nat} {locale : String} {lazy : Bool} {phase : Phase}
      (here : s.calls[call]? = some ⟨.setLocale locale lazy, phase⟩) (isOpen : phase.isOpen = true)
      (calls : (s.handle e).calls = (s.setPhase call (.ended (.ok (.changed true)))).calls)
      (active : (s.handle e).locale = locale) : s.Switches e call (s.handle e).locale := by
    refine ⟨?_, lazy, active ▸ setPhase_self here calls⟩
    rintro ⟨lazy', there⟩
    rw [here] at there
    cases there
    cases isOpen
  have step := handle_callStep s e
  generalize s.opened? e = opened at step
  cases step with
  | still same => exact absurd same.locale change
  | asked request calls requests locale => exact absurd locale change
  | opened call locale lazy phase here calls requests opening =>
    cases opening with
    | present has active => exact ⟨call, begun here rfl calls active⟩
    | missing _ active => exact absurd active change
    | awaited _ _ active => exact absurd active change
  | switched call locale lazy here calls requests active =>
    exact ⟨call, begun here rfl calls active⟩
  | moved call request before after here calls requests locale passage =>
    exact absurd locale change

end

/-- The active locale is that of the latest request that has made its own active, and a request does
so only while no later one has begun and with a catalog for its locale. -/
theorem latest_request_wins {s : State} (new : s.IsNew) (events : List Event) :
    (s.openings events).Nodup ∧
      (∀ call locale, (s.after events).HasSwitched call locale → call ∈ s.openings events) ∧
      Decided s.locale (s.openings events) (s.after events) ∧
      (∀ e call locale, (s.after events).Switches e call locale →
        (s.openings (events ++ [e])).getLast? = some call ∧
          ((s.after events).handle e).catalogs.has locale = true) ∧
      (∀ (i k earlier winner : Nat) (locale : String), i < k →
        (s.openings events)[i]? = some earlier → (s.openings events)[k]? = some winner →
        (s.after events).HasSwitched winner locale →
        ∀ later e other, ¬ (s.after (events ++ later)).Switches e earlier other) ∧
      ∀ e, ((s.after events).handle e).locale ≠ (s.after events).locale →
        ∃ call, (s.after events).Switches e call ((s.after events).handle e).locale := by
  have newest (events : List Event) (e : Event) (call : Nat) (locale : String)
      (switches : (s.after events).Switches e call locale) :
      (s.openings (events ++ [e])).getLast? = some call := by
    rw [openings_snoc]
    exact (new.ordered_after events).newest switches
  have ordered := new.ordered_after events
  refine ⟨ordered.nodup, ordered.switched, ordered.decided, ?_, ?_, fun e => handle_locale⟩
  · intro e call locale switches
    refine ⟨newest events e call locale switches, ?_⟩
    obtain ⟨lazy, there⟩ := switches.2
    obtain ⟨tracked, served⟩ := new.serves events
    exact served.handle tracked e call _ there locale rfl
  · intro i k earlier winner locale lt first second won later e other switches
    have last := newest (events ++ later) e earlier other switches
    have nodup := (new.ordered_after (events ++ (later ++ [e]))).nodup
    rw [List.append_assoc, openings_append, List.getLast?_eq_getElem?] at last
    rw [openings_append] at nodup
    generalize (s.after events).openings (later ++ [e]) = rest at last nodup
    have early := getElem?_kept first rest
    have bound := (List.getElem?_eq_some_iff.mp second).1
    have place := (List.getElem?_inj (List.getElem?_eq_some_iff.mp early).1 nodup).mp
      (early.trans last.symm)
    rw [List.length_append] at place
    omega

/-- A store of two catalogs and of a third one that is fetched and held back. -/
def threeLocales : State :=
  ⟨[("de", ⟨true, fun _ => .ok (.map [])⟩)], [], "en", false, none, [("en", []), ("fr", [])],
    "en", [], 0, [], [], [], [], [], []⟩

/-- A request for a held catalog begins first and goes on after a second request. -/
def overtaking : List Event :=
  [.start (.setLocale "de" true), .start (.setLocale "fr" true), .perform (.advance 0),
    .perform (.run 0), .perform (.advance 1), .release 0, .perform (.run 0),
    .perform (.deliver 0 0), .perform (.advance 0)]

theorem overtaken_request_stays_out :
    threeLocales.IsNew ∧ threeLocales.openings overtaking = [0, 1] ∧
      (threeLocales.after overtaking).locale = "fr" ∧
      ∀ later e other, ¬ (threeLocales.after (overtaking ++ later)).Switches e 0 other := by
  have new : threeLocales.IsNew := ⟨[("en", .map []), ("fr", .map [])], _, _, _, _, _, _, rfl⟩
  obtain ⟨-, -, -, -, out, -⟩ := latest_request_wins new overtaking
  exact ⟨new, rfl, rfl, out 0 1 0 1 "fr" (by decide) rfl rfl ⟨true, rfl⟩⟩

end State

end Localization.Store
