import Mediator.Config
import Mediator.Intercept.Caching
import Mediator.Intercept.Conditional
import Mediator.Intercept.Gate
import Mediator.Intercept.Observe

/-!
# The standard chain

Validation, audit, authorization, performance and caching, from the outside in, each behind a switch
that the configuration sets.
-/

namespace Mediator

/-- The collaborators of the standard intercepts. -/
structure Parts where
  validator : Validator
  audit : AuditSink
  evaluator : Evaluator
  telemetry : TelemetrySink
  cache : ResponseCache

/-- The standard intercepts, each with the position of its toggle. -/
def standardNodes (c : Config) (parts : Parts) : List (Bool × Intercept) := [
  (c.toggles.validation, .validation parts.validator),
  (c.toggles.audit, .audit parts.audit),
  (c.toggles.authorization, .authorization parts.evaluator),
  (c.toggles.performance, .performance parts.telemetry c.threshold?),
  (c.toggles.caching, .caching parts.cache c.expiration)]

/-- Every intercept behind a switch of its own, numbered from `first` on. -/
def switched (first : Nat) : List (Bool × Intercept) → List Intercept
  | [] => []
  | (_, node) :: rest => .conditional first node :: switched (first + 1) rest

/-- The world with the switches in the positions of the toggles. -/
def setSwitches (first : Nat) : List (Bool × Intercept) → World → World
  | [], w => w
  | (on, _) :: rest, w => setSwitches (first + 1) rest (w.switch first on)

section
variable {first : Nat} {nodes : List (Bool × Intercept)} {w : World}

theorem switches_setSwitches_of_lt {i : Nat} (h : i < first) :
    (setSwitches first nodes w).switches i = w.switches i := by
  induction nodes generalizing first w with
  | nil => rfl
  | cons x rest ih =>
    obtain ⟨on, node⟩ := x
    rw [setSwitches, ih (Nat.lt_succ_of_lt h)]
    exact if_neg (Nat.ne_of_lt h)

theorem switches_setSwitches {i : Nat} {on : Bool} {node : Intercept}
    (h : nodes[i]? = some (on, node)) : (setSwitches first nodes w).switches (first + i) = on := by
  induction nodes generalizing first w i with
  | nil => simp at h
  | cons x rest ih =>
    cases i with
    | zero =>
      obtain rfl : x = (on, node) := by simpa using h
      show (setSwitches (first + 1) rest (w.switch first on)).switches first = on
      rw [switches_setSwitches_of_lt (Nat.lt_succ_self first)]
      exact if_pos rfl
    | succ i =>
      obtain ⟨on', node'⟩ := x
      rw [setSwitches, show first + (i + 1) = first + 1 + i by omega]
      exact ih (by simpa using h)

end

/-- The standard chain of a valid configuration, whose switches are numbered from `first` on. -/
def standardChain (c : Config) (parts : Parts) (first : Nat) : Except ConfigError Chain := do
  c.validate
  return .ofList (switched first (standardNodes c parts))

theorem standardChain_eq {c : Config} {parts : Parts} {first : Nat} {chain : Chain}
    (h : standardChain c parts first = .ok chain) :
    chain = switched first (standardNodes c parts) := by
  unfold standardChain at h
  cases hc : c.validate with
  | error e => simp [hc, bind, Except.bind] at h
  | ok _ => simpa [hc, bind, Except.bind, pure, Except.pure] using h.symm

end Mediator
