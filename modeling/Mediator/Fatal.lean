import Mediator.Error

/-!
# Fatal errors

An error is fatal when it is a cancellation or an allocation failure, or was caused by one. Fatal
errors are never turned into outcomes. `Error.fatalKind?` reports the outermost such cause, and
`Error.classify` splits errors accordingly, keeping the error itself either way.
-/

namespace Mediator

def Error.ownFatalKind? : Error → Option FatalKind
  | .canceled => some .canceled
  | .allocation _ => some .resourceExhausted
  | _ => none

/-- The kind of the first fatal error among an error and its sources. -/
def Error.fatalKind? (e : Error) : Option FatalKind :=
  (e :: e.sources).findSome? Error.ownFatalKind?

structure Fatal where
  kind : FatalKind
  inner : Error
deriving Inhabited

namespace Fatal

def canceled : Fatal := ⟨.canceled, .canceled⟩

def toError (f : Fatal) : Error := .fatal f.kind f.inner

def text (f : Fatal) : String := f.toError.text

def isCanceled (f : Fatal) : Bool := f.kind == .canceled

end Fatal

/-- An escaped error is recoverable as it is, or fatal. -/
def Error.classify (e : Error) : Except Fatal Error :=
  match e.fatalKind? with
  | some kind => .error ⟨kind, e⟩
  | none => .ok e

theorem Error.fatalKind?_mediator (m : MediatorError) :
    (Error.mediator m).fatalKind? = m.sources.findSome? Error.ownFatalKind? := rfl

theorem Error.classify_eq_ok_iff {e r : Error} :
    e.classify = .ok r ↔ e.fatalKind? = none ∧ r = e := by
  unfold classify
  cases e.fatalKind? <;> simp [eq_comm]

theorem Error.classify_eq_error_iff {e : Error} {f : Fatal} :
    e.classify = .error f ↔ e.fatalKind? = some f.kind ∧ f.inner = e := by
  unfold classify
  obtain ⟨kind, inner⟩ := f
  cases e.fatalKind? <;> simp [eq_comm]

end Mediator
