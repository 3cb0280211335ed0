import Mediator.Chain
import Mediator.Fatal

/-!
# Recovery

Turns whatever escapes the rest of the chain into a failure, except fatal errors, which go on as
they are.
-/

namespace Mediator.Intercept

def recover : Intercept where
  name := "recover"
  appliesTo _ _ := true
  intercept ctx next := do
    match ← next.attempt with
    | .ok (.ok outcome) => return .ok outcome
    | .ok (.error e) =>
      match e.classify with
      | .ok source => do
        ctx.emit (.warn "recovered from handler error"
          [("request", ctx.name), ("error", source.text)])
        return .ok (.failed (.handler ctx.name source))
      | .error fatal => return .error fatal.inner
    | .error payload => do
      ctx.emit (.warn "recovered from panic" [("request", ctx.name), ("panic", payload.message)])
      return .ok (.panicked ctx.name payload)

end Mediator.Intercept
