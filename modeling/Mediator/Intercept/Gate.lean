import Mediator.Chain

/-!
# Gates

`validation` and `authorization` ask a collaborator whether a request may go on. A request that may
not ends in a failure of the gate's own kind: the collaborator's error if it is of that kind, and
else a new one with its text.
-/

namespace Mediator

structure Validator where
  validate : Request → Action (Outcome Unit)

structure Evaluator where
  evaluate : Resource → Operation → Action (Outcome Unit)

namespace Evaluator

def requireAuthenticated : Evaluator where
  evaluate resource op :=
    return if op.user.isAuthenticated then .completed
      else .failed (.forbidden resource "authentication required")

def requireRole (role : String) : Evaluator where
  evaluate resource op :=
    return if op.user.hasRole role then .completed
      else .failed (.forbidden resource ("role `" ++ role ++ "` required"))

end Evaluator

namespace Intercept

def rejection (e : Shared MediatorError) : Shared MediatorError :=
  if e.value.kind == .validation then e
  else .new (.validation (.push .empty "request" e.value.text))

def validation (v : Validator) : Intercept where
  name := "validation"
  appliesTo _ _ := true
  intercept ctx next := do
    match ← v.validate ctx.request with
    | .success () => next
    | .failure e => do
      ctx.emit (.debug "request rejected by validation"
        [("request", ctx.name), ("error", e.value.text)])
      return .ok (.failure (rejection e))

def denial (resource : Resource) (e : Shared MediatorError) : Shared MediatorError :=
  if e.value.kind == .forbidden then e else .new (.forbidden resource e.value.text)

def authorization (a : Evaluator) : Intercept where
  name := "authorization"
  appliesTo _ caps := caps.authorizable
  intercept ctx next := do
    let resource := ctx.request.resource
    match ← a.evaluate resource ctx.operation with
    | .success () => next
    | .failure e => do
      ctx.emit (.debug "access denied"
        [("request", ctx.name), ("resource", resource.text), ("error", e.value.text)])
      return .ok (.failure (denial resource e))

end Intercept

end Mediator
