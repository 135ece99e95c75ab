import Localization.Template.Interpolate

/-! # Operations that do not ask the handler

Log entries are left by many operations, but the handler of missing keys is called by few. An
operation put together from others calls it only where one of them does, and it has a result only
where all of them have one. Formatting and interpolation never call the handler.
-/
namespace Localization

namespace Traced

variable {α β : Type}

def Quiet (t : Traced α) : Prop := t.trace.missing = []

theorem quiet_pure (a : α) : (Pure.pure a : Traced α).Quiet := rfl

theorem quiet_log (level : Log.Level) (component event : String) (fields : List (String × Value)) :
    (log level component event fields).Quiet := rfl

theorem Quiet.bind {t : Traced α} {f : α → Traced β} (h : t.Quiet) (rest : ∀ a, (f a).Quiet) :
    (t >>= f).Quiet := by
  have later : (f t.value).trace.missing = [] := rest t.value
  rw [Quiet, trace_bind, Trace.missing_append, later, List.append_nil]
  exact h

end Traced

namespace Attempt

variable {α β : Type}

def Quiet (a : Attempt α) : Prop := a.trace.missing = []

theorem quiet_pure (a : α) : (pure a : Attempt α).Quiet := rfl

theorem quiet_throw (failure : Failure) : (throw failure : Attempt α).Quiet := rfl

theorem quiet_ofExcept (e : Except Failure α) : (ofExcept e).Quiet := rfl

/-- What a sequence leaves behind: the rest runs only where the first attempt succeeds. -/
theorem trace_bind (a : Attempt α) (f : α → Attempt β) :
    (a >>= f).trace = a.trace ++
      match a.outcome with
      | .ok x => (f x).trace
      | .error _ => .empty := by
  simp only [trace, outcome, ExceptT.run_bind, Traced.trace_bind]
  cases Traced.value (ExceptT.run a) <;> rfl

theorem trace_liftM (t : Traced α) : (liftM t : Attempt α).trace = t.trace :=
  Trace.append_empty t.trace

theorem quiet_liftM {t : Traced α} (h : t.Quiet) : (liftM t : Attempt α).Quiet := by
  rw [Quiet, trace_liftM]
  exact h

theorem Quiet.bind {a : Attempt α} {f : α → Attempt β} (h : a.Quiet) (rest : ∀ x, (f x).Quiet) :
    (a >>= f).Quiet := by
  have first : a.trace.missing = [] := h
  rw [Quiet, trace_bind, Trace.missing_append, first, List.nil_append]
  cases a.outcome with
  | ok x => exact rest x
  | error failure => rfl

end Attempt

theorem Attempt.ext {α : Type} {a b : Attempt α} (outcome : a.outcome = b.outcome)
    (trace : a.trace = b.trace) : a = b := by
  have same {s t : Traced (Except Failure α)} (value : s.value = t.value)
      (trace : s.trace = t.trace) : s = t := by
    cases s
    cases t
    cases value
    cases trace
    rfl
  exact same outcome trace

/-- A sequence has a result where its first attempt has one and then the rest. -/
theorem Attempt.ok_of_bind {α β : Type} {a : Attempt α} {f : α → Attempt β} {y : β}
    (h : (a >>= f).outcome = .ok y) : ∃ x, a.outcome = .ok x ∧ (f x).outcome = .ok y := by
  rw [outcome_bind] at h
  cases first : a.outcome with
  | error failure => rw [first] at h; cases h
  | ok x => rw [first] at h; exact ⟨x, rfl, h⟩

theorem ok_of_map {ε α β : Type} {e : Except ε α} {f : α → β} {b : β}
    (h : e.map f = .ok b) : ∃ a, e = .ok a ∧ b = f a := by
  cases e with
  | error failure => cases h
  | ok a => exact ⟨a, rfl, (Except.ok.inj h).symm⟩

theorem ok_of_mapError {ε δ α : Type} {e : Except ε α} {f : ε → δ} {a : α}
    (h : e.mapError f = .ok a) : e = .ok a := by
  cases e with
  | error failure => cases h
  | ok b => exact congrArg Except.ok (Except.ok.inj h)

theorem ok_of_bind {ε α β : Type} {e : Except ε α} {f : α → Except ε β} {b : β}
    (h : e >>= f = .ok b) : ∃ a, e = .ok a ∧ f a = .ok b := by
  cases e with
  | error failure => cases h
  | ok a => exact ⟨a, rfl, h⟩

/-- An outcome can be compared where failures cannot. -/
theorem ok_of_toOption {ε α : Type} {e : Except ε α} {a : α} (h : e.toOption = some a) :
    e = .ok a := by
  cases e with
  | error failure => cases h
  | ok b => exact congrArg Except.ok (Option.some.inj h)

namespace Format

open Traced

theorem conventionsFor_quiet [Locale.Data] (locale : Option String) :
    (conventionsFor locale).Quiet := by
  rw [conventionsFor]
  split
  · exact quiet_pure _
  · exact (quiet_log ..).bind fun _ => quiet_pure _

theorem styleOr_quiet {α : Type} (event : String) (read : String → Option α) (name : String)
    (shown : Value) (fallback : α) : (styleOr event read name shown fallback).Quiet := by
  rw [styleOr]
  split
  · exact quiet_pure _
  · exact (quiet_log ..).bind fun _ => quiet_pure _

theorem currencyCode_quiet (currency : Option String) : (currencyCode currency).Quiet := by
  rw [currencyCode]
  split
  · exact quiet_pure _
  · exact (quiet_log ..).bind fun _ => quiet_pure _

theorem finishNumber_quiet (value : Value) (result : Except Number.ArithmeticFault (List Char)) :
    (finishNumber value result).Quiet := by
  rw [finishNumber.eq_def]
  split
  · exact Attempt.quiet_throw _
  · split
    · exact Attempt.quiet_pure _
    · exact Attempt.quiet_throw _

section Shown

variable [Stack]

theorem misfit_quiet (event : String) (value : Value) (locale : Option String) :
    (misfit event value locale).Quiet := by
  refine (Attempt.quiet_ofExcept value.shown).bind fun text => ?_
  exact (Attempt.quiet_liftM (quiet_log ..)).bind fun _ => Attempt.quiet_pure _

variable [Locale.Data]

theorem number_quiet (value : Value) (locale style : Option String) :
    (number value locale style).Quiet := by
  rw [number]
  split
  · exact misfit_quiet ..
  · refine (Attempt.quiet_liftM (conventionsFor_quiet locale)).bind fun conventions => ?_
    exact (Attempt.quiet_liftM (styleOr_quiet ..)).bind fun style => finishNumber_quiet ..

theorem currency_quiet (value : Value) (locale code : Option String) :
    (currency value locale code).Quiet := by
  rw [currency]
  split
  · exact misfit_quiet ..
  · refine (Attempt.quiet_liftM (currencyCode_quiet code)).bind fun code => ?_
    exact (Attempt.quiet_liftM (conventionsFor_quiet locale)).bind fun _ => finishNumber_quiet ..

theorem date_quiet (value : Value) (locale style : Option String) :
    (date value locale style).Quiet := by
  rw [date]
  split
  · exact misfit_quiet ..
  · refine (Attempt.quiet_liftM (styleOr_quiet ..)).bind fun style => ?_
    exact (Attempt.quiet_liftM (conventionsFor_quiet locale)).bind fun _ => Attempt.quiet_pure _

theorem list_quiet (value : Value) (locale style : Option String) :
    (list value locale style).Quiet := by
  refine (Attempt.quiet_ofExcept _).bind fun texts => ?_
  split
  · exact Attempt.quiet_pure _
  · exact Attempt.quiet_pure _
  · refine (Attempt.quiet_liftM (styleOr_quiet ..)).bind fun style => ?_
    exact (Attempt.quiet_liftM (conventionsFor_quiet locale)).bind fun _ =>
      Attempt.quiet_ofExcept _

theorem ofKind_quiet (kind : Option Kind) (value : Value) (argument locale : Option String) :
    (ofKind kind value argument locale).Quiet := by
  cases kind with
  | none => exact Attempt.quiet_ofExcept _
  | some kind =>
    cases kind with
    | number => exact number_quiet value locale argument
    | currency => exact currency_quiet value locale argument
    | date => exact date_quiet value locale argument
    | list => exact list_quiet value locale argument

end Shown

end Format

namespace Template

open Traced

variable [Stack] [Locale.Data]

theorem plainText_quiet (value : Value) (locale : Option String) :
    (plainText value locale).Quiet := by
  rw [plainText.eq_def]
  split
  · exact Format.date_quiet ..
  · exact Format.date_quiet ..
  · exact Attempt.quiet_ofExcept _

theorem renderPiece_quiet (params : Entries) (locale key : Option String) (piece : Piece) :
    (renderPiece params locale key piece).Quiet := by
  rw [renderPiece.eq_def]
  split
  · exact Attempt.quiet_pure _
  · split
    · exact (Attempt.quiet_liftM (quiet_log ..)).bind fun _ => Attempt.quiet_pure _
    · refine Attempt.Quiet.bind ?_ fun _ => Attempt.quiet_pure _
      rw [substitute]
      split
      · exact Format.ofKind_quiet ..
      · exact plainText_quiet ..

theorem renderPieces_quiet (params : Entries) (locale key : Option String) (pieces : List Piece) :
    (renderPieces params locale key pieces).Quiet := by
  induction pieces with
  | nil => exact Attempt.quiet_pure _
  | cons piece rest ih =>
    refine (renderPiece_quiet params locale key piece).bind fun _ => ?_
    exact ih.bind fun _ => Attempt.quiet_pure _

/-- Putting parameters into a template never asks the handler of missing keys. -/
theorem interpolate_quiet (template : String) (params : Option Entries)
    (locale key : Option String) : (interpolate template params locale key).Quiet := by
  cases params with
  | none =>
    rw [interpolate]
    split
    · exact (Attempt.quiet_liftM (quiet_log ..)).bind fun _ => Attempt.quiet_pure _
    · exact Attempt.quiet_pure _
  | some params =>
    exact (renderPieces_quiet params locale key _).bind fun _ => Attempt.quiet_pure _

end Template

end Localization
