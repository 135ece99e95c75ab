import Localization.Failure
import Localization.Log.Basic

/-! # Results with a trace

An operation gives its result and, beside it, what it left behind: log entries and calls
of the handler of missing keys, in order. A failure keeps the trace up to that point.
-/
namespace Localization

section

variable {ε α β : Type} {result : Except ε α}

theorem isOk_map (f : α → β) (result : Except ε α) : (result.map f).isOk = result.isOk := by
  cases result <;> rfl

theorem map_eq_ok_iff {f : α → β} {b : β} :
    result.map f = .ok b ↔ ∃ a, result = .ok a ∧ f a = b := by
  cases result <;> simp [Except.map]

theorem map_eq_error_iff {f : α → β} {fault : ε} :
    result.map f = .error fault ↔ result = .error fault := by
  cases result <;> simp [Except.map]

theorem bind_eq_ok_iff {f : α → Except ε β} {b : β} :
    result.bind f = .ok b ↔ ∃ a, result = .ok a ∧ f a = .ok b := by
  cases result <;> simp [Except.bind]

end

/-- `missing` holds the key and the locale of each call of the handler. -/
structure Trace where
  log : List Log.Entry
  missing : List (String × String)

namespace Trace

def empty : Trace := ⟨[], []⟩

def append (s t : Trace) : Trace := ⟨s.log ++ t.log, s.missing ++ t.missing⟩

instance : Append Trace := ⟨append⟩

@[simp] theorem log_append (s t : Trace) : (s ++ t).log = s.log ++ t.log := rfl

@[simp] theorem missing_append (s t : Trace) : (s ++ t).missing = s.missing ++ t.missing := rfl

@[simp] theorem append_empty (t : Trace) : t ++ empty = t := by
  show append t empty = t
  cases t; simp only [append, empty, List.append_nil]

@[simp] theorem empty_append (t : Trace) : empty ++ t = t := by
  show append empty t = t
  cases t; simp only [append, empty, List.nil_append]

theorem append_assoc (s t u : Trace) : s ++ t ++ u = s ++ (t ++ u) := by
  show append (append s t) u = append s (append t u)
  simp only [append, List.append_assoc]

end Trace

structure Traced (α : Type) where
  value : α
  trace : Trace

namespace Traced

variable {α β : Type}

def pure (a : α) : Traced α := ⟨a, .empty⟩

def bind (t : Traced α) (f : α → Traced β) : Traced β :=
  ⟨(f t.value).value, t.trace ++ (f t.value).trace⟩

instance : Monad Traced where
  pure := pure
  bind := bind

@[simp] theorem value_pure (a : α) : (Pure.pure a : Traced α).value = a := rfl

@[simp] theorem trace_pure (a : α) : (Pure.pure a : Traced α).trace = .empty := rfl

@[simp] theorem value_bind (t : Traced α) (f : α → Traced β) :
    (t >>= f).value = (f t.value).value := rfl

@[simp] theorem trace_bind (t : Traced α) (f : α → Traced β) :
    (t >>= f).trace = t.trace ++ (f t.value).trace := rfl

def log (level : Log.Level) (component event : String) (fields : List (String × Value)) :
    Traced Unit :=
  ⟨(), ⟨[⟨level, component, event, fields⟩], []⟩⟩

/-- Records a call of the handler of missing keys. -/
def report (key locale : String) : Traced Unit := ⟨(), ⟨[], [(key, locale)]⟩⟩

end Traced

/-- An operation that can fail. -/
abbrev Attempt := ExceptT Failure Traced

namespace Attempt

variable {α β : Type}

def outcome (a : Attempt α) : Except Failure α := Traced.value (ExceptT.run a)

def trace (a : Attempt α) : Trace := Traced.trace (ExceptT.run a)

def ofExcept (e : Except Failure α) : Attempt α := ExceptT.mk (Traced.pure e)

@[simp] theorem outcome_pure (a : α) : (pure a : Attempt α).outcome = .ok a := rfl

@[simp] theorem outcome_ofExcept (e : Except Failure α) : (ofExcept e).outcome = e := rfl

@[simp] theorem outcome_liftM (t : Traced α) : (liftM t : Attempt α).outcome = .ok t.value := rfl

/-- The outcome of a sequence of attempts is that of the first failure. -/
theorem outcome_bind (a : Attempt α) (f : α → Attempt β) :
    (a >>= f).outcome = a.outcome.bind fun x => (f x).outcome := by
  simp only [outcome, ExceptT.run_bind, Traced.value_bind]
  cases Traced.value (ExceptT.run a) <;> rfl

end Attempt

end Localization
