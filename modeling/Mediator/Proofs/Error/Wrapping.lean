import Mediator.Proofs.Error.Causes

/-!
# Wrapping an error

An error is put into another one in six ways. Five of them keep its fatal kind. The transparent
`MediatorError.other` has the sources of what it holds and is not caused by that, so it hides an
error that is fatal by itself, and nothing else (`fatalKind?_wrap`). In a nesting only the innermost
wrapper can therefore hide anything (`fatalKind?_wrapAll_of_own`).
-/

namespace Mediator

/-- One way to put an error into another one. -/
inductive Wrapper where
  /-- The error that a handler or an intercept failed with. -/
  | handler (request : String)
  /-- Any other error of an outcome. -/
  | other
  /-- The error that a subscriber failed with, before it is made the error of an outcome. -/
  | failure (name : String)
  /-- The error that a subscriber failed with, as the error of an outcome. -/
  | subscriber (name : String)
  /-- What a fatal error is passed on as. -/
  | fatal
  /-- An error of another library. -/
  | foreign (text : String)
deriving DecidableEq, Repr

namespace Wrapper

/-- The error in its wrapper. There is no `Fatal` around an error that is not fatal: such an error
stays as it is. -/
def wrap : Wrapper → Error → Error
  | .handler request, e => .mediator (.handler request e)
  | .other, e => .mediator (.other e)
  | .failure name, e => .subscriber ⟨name, e⟩
  | .subscriber name, e => .mediator (.subscriber ⟨name, e⟩)
  | .fatal, e =>
    match e.classify with
    | .error f => f.toError
    | .ok e => e
  | .foreign text, e => .wrapped text e

/-- The error in several wrappers, the first of them outside. -/
def wrapAll (ws : List Wrapper) (e : Error) : Error := ws.foldr wrap e

@[simp] theorem wrapAll_nil (e : Error) : wrapAll [] e = e := rfl

@[simp] theorem wrapAll_cons (w : Wrapper) (ws : List Wrapper) (e : Error) :
    wrapAll (w :: ws) e = w.wrap (wrapAll ws e) := rfl

end Wrapper

namespace Error

open Wrapper (wrap wrapAll)

theorem fatalKind?_eq_or (e : Error) :
    e.fatalKind? = e.ownFatalKind?.or (e.sources.findSome? ownFatalKind?) := by
  simp only [fatalKind?, List.findSome?_cons]
  cases e.ownFatalKind? <;> rfl

theorem fatalKind?_of_own {e : Error} {kind : FatalKind} (h : e.ownFatalKind? = some kind) :
    e.fatalKind? = some kind := by
  rw [fatalKind?_eq_or, h]
  rfl

theorem ownFatalKind?_of_fatalKind?_none {e : Error} (h : e.fatalKind? = none) :
    e.ownFatalKind? = none := by
  rw [fatalKind?_eq_or, Option.or_eq_none_iff] at h
  exact h.1

theorem sources_of_own {e : Error} (h : e.ownFatalKind?.isSome) : e.sources = [] := by
  obtain rfl | ⟨failure, rfl⟩ := ownFatalKind?_isSome_iff.mp h <;> rfl

theorem wrap_fatal_of_some {e : Error} {kind : FatalKind} (h : e.fatalKind? = some kind) :
    wrap .fatal e = .fatal kind e := by
  simp [wrap, classify, h, Fatal.toError]

theorem wrap_fatal_of_none {e : Error} (h : e.fatalKind? = none) : wrap .fatal e = e := by
  simp [wrap, classify, h]

theorem ownFatalKind?_wrap (w : Wrapper) (e : Error) : (w.wrap e).ownFatalKind? = none := by
  cases w with
  | fatal =>
    cases h : e.fatalKind? with
    | none => rw [wrap_fatal_of_none h, ownFatalKind?_of_fatalKind?_none h]
    | some kind => rw [wrap_fatal_of_some h]; rfl
  | _ => rfl

theorem fatalKind?_of_sources {e c : Error} (hown : e.ownFatalKind? = none)
    (hsources : e.sources = c :: c.sources) : e.fatalKind? = c.fatalKind? := by
  simp only [fatalKind?_eq_or e, hown, Option.none_or, hsources]
  rfl

theorem fatalKind?_wrap (w : Wrapper) (e : Error) :
    (w.wrap e).fatalKind? =
      if w = .other ∧ e.ownFatalKind?.isSome then none else e.fatalKind? := by
  cases w with
  | other =>
    have hsources : (wrap .other e).fatalKind? = e.sources.findSome? ownFatalKind? := rfl
    rw [hsources, fatalKind?_eq_or]
    cases h : e.ownFatalKind? with
    | none => simp
    | some kind => simp [sources_of_own (e := e) (by simp [h])]
  | fatal =>
    cases h : e.fatalKind? with
    | none => simp [wrap_fatal_of_none h, h]
    | some kind =>
      rw [wrap_fatal_of_some h, fatalKind?_of_sources (c := e) rfl rfl, h]
      simp
  | handler request => simpa using fatalKind?_of_sources rfl rfl
  | failure name => simpa using fatalKind?_of_sources rfl rfl
  | subscriber name => simpa using fatalKind?_of_sources rfl rfl
  | foreign text => simpa using fatalKind?_of_sources rfl rfl

-- ---------------------------------------------------------------------------
-- Nestings
-- ---------------------------------------------------------------------------

theorem fatalKind?_wrapAll_of_none (ws : List Wrapper) {e : Error} (h : e.fatalKind? = none) :
    (wrapAll ws e).fatalKind? = none := by
  induction ws with
  | nil => exact h
  | cons w ws ih => simp [fatalKind?_wrap, ih]

theorem fatalKind?_wrapAll_of_own (ws : List Wrapper) {e : Error} {kind : FatalKind}
    (h : e.ownFatalKind? = some kind) :
    (wrapAll ws e).fatalKind? = if ws.getLast? = some .other then none else some kind := by
  induction ws with
  | nil => simpa using fatalKind?_of_own h
  | cons w ws ih =>
    rw [Wrapper.wrapAll_cons, fatalKind?_wrap]
    cases ws with
    | nil => simp [h, fatalKind?_of_own h]
    | cons w' ws =>
      -- The wrapper inside this one keeps it from holding the leaf itself.
      have hown := ownFatalKind?_wrap w' (wrapAll ws e)
      rw [Wrapper.wrapAll_cons] at ih ⊢
      simp [hown, ih]

/-- A single wrapper keeps the fatal kind unless it is `other`, directly around an error that is
fatal by itself; then the kind is lost. In a nesting around such an error the innermost wrapper
decides: classified fatal, with the kind of the leaf and the whole nesting in it, are exactly the
nestings in which that is not `other`. A nesting around an error that is not fatal is not fatal. -/
theorem classify_wrapAll (w : Wrapper) (ws : List Wrapper) (e : Error) :
    ((w.wrap e).fatalKind? = e.fatalKind? ↔ ¬(w = .other ∧ e.ownFatalKind?.isSome)) ∧
    (w = .other → e.ownFatalKind?.isSome → (w.wrap e).fatalKind? = none) ∧
    (∀ kind, e.ownFatalKind? = some kind →
      (wrapAll ws e).classify = if ws.getLast? = some .other then .ok (wrapAll ws e)
        else .error ⟨kind, wrapAll ws e⟩) ∧
    (e.fatalKind? = none → (wrapAll ws e).classify = .ok (wrapAll ws e)) := by
  refine ⟨?_, fun hother hown => ?_, fun kind h => ?_, fun h => ?_⟩
  · rw [fatalKind?_wrap]
    by_cases hw : w = .other ∧ e.ownFatalKind?.isSome
    · obtain ⟨kind, hkind⟩ := Option.isSome_iff_exists.mp hw.2
      simp [hw, fatalKind?_of_own hkind]
    · simp only [if_neg hw, true_iff]
      exact hw
  · rw [fatalKind?_wrap, if_pos ⟨hother, hown⟩]
  · unfold classify
    rw [fatalKind?_wrapAll_of_own ws h]
    by_cases hlast : ws.getLast? = some .other <;> simp [hlast]
  · simp [classify, fatalKind?_wrapAll_of_none ws h]

theorem classify_wrapped_cancellation :
    let nesting := wrapAll [.other, .fatal, .handler "Transfer", .failure "mailer"] .canceled
    Error.canceled.ownFatalKind? = some .canceled ∧
      nesting.classify = .error ⟨.canceled, nesting⟩ :=
  ⟨rfl, (classify_wrapAll .other _ .canceled).2.2.1 .canceled rfl⟩

/-- A cancellation that is made the error of an outcome by `other` is not fatal any more. -/
theorem classify_other_canceled :
    Error.canceled.fatalKind? = some .canceled ∧ (wrap .other .canceled).fatalKind? = none ∧
      (wrap .other .canceled).classify = .ok (.mediator (.other .canceled)) :=
  ⟨rfl, rfl, rfl⟩

end Error

end Mediator
