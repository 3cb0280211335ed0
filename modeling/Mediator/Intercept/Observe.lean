import Mediator.Chain

/-!
# Observing intercepts

`audit` and `performance` tell a sink how the rest of the chain ended, and pass on how it ended.
-/

namespace Mediator

structure AuditSink where
  record : Operation → AuditRecord → Action Unit

/-- Takes timings. Taking one never gives way. -/
structure TelemetrySink where
  record : Operation → Sample → Call World Unit

namespace AuditSink

def tracing : AuditSink where
  record op r := .emit op.spans
    ⟨.info, "request audited",
      [("request", .text r.request), ("correlation_id", .text r.correlation.text),
        ("user_id", .text (r.userId.getD "anonymous")), ("status", .text r.status.text)],
      some "courier::audit"⟩

def recording : AuditSink where
  record _ r := .modify fun w => { w with audits := w.audits ++ [r] }

end AuditSink

namespace TelemetrySink

def tracing : TelemetrySink where
  record op s := .modify fun w => w.emit op.spans
    ⟨.debug, "request timed",
      [("operation", .text s.request), ("status", .text s.status.text)],
      some "courier::telemetry"⟩

def recording : TelemetrySink where
  record _ s := .modify fun w => { w with samples := w.samples ++ [s] }

end TelemetrySink

namespace Intercept

/-- Writes an audit record for every auditable request. -/
def audit (sink : AuditSink) : Intercept where
  name := "audit"
  appliesTo _ caps := caps.auditable
  intercept ctx next := do
    let reply ← next
    let op := ctx.operation
    sink.record op ⟨ctx.name, op.correlation, op.user.id, reply.status⟩
    return reply

/-- The event of a request that took longer than it should; it does not tell how long. -/
def slowEvent (request : String) (threshold : Duration) : Event :=
  .withCount (.warn "slow request" [("request", request)]) "threshold_ms" threshold.millisDown

/-- Times every request, and reports those that take longer than the threshold. -/
def performance (sink : TelemetrySink) (threshold : Option Duration) : Intercept where
  name := "performance"
  appliesTo _ _ := true
  intercept ctx next := do
    let started := (← .read).now
    let reply ← next
    let elapsed := started.elapsed (← .read).now
    .call (sink.record ctx.operation ⟨ctx.name, reply.status⟩)
    match threshold with
    | some d => if d.nanos < elapsed.nanos then ctx.emit (slowEvent ctx.name d) else pure ()
    | none => pure ()
    return reply

end Intercept

end Mediator
