import Mediator.Dispatch
import Mediator.Intercept.Observe
import Mediator.Intercept.Recover
import Mediator.Proofs.Prog.Along

/-!
# What observers are told

Wherever it stands in a chain, an observing node tells its sink how the rest of the chain ended each
time the request has come to it: once if the rest has returned a reply, with the status of that
reply, and not at all if the rest has panicked. So a panic passes the observers by, although their
records have a status for it.
-/

namespace Mediator

-- ---------------------------------------------------------------------------
-- Positions in a chain
-- ---------------------------------------------------------------------------

namespace Chain

/-- To the outer part of a chain, the rest of the chain is the handler. -/
theorem run_append (outer inner : Chain) (ctx : RequestContext) (handler : Handler) :
    (outer ++ inner).run ctx handler = outer.run ctx fun _ _ => inner.run ctx handler := by
  induction outer with
  | nil => rfl
  | cons node outer ih =>
    show Chain.run (node :: (outer ++ inner)) ctx handler = _
    simp only [run, ih]

/-- What happens when the request comes to a node: it takes part, or the request passes it by. -/
def entry (node : Intercept) (ctx : RequestContext) (rest : Action Reply) : Action Reply :=
  .get fun w => if node.appliesTo w ctx.capabilities then node.intercept ctx rest else rest

theorem run_at (outer inner : Chain) (node : Intercept) (ctx : RequestContext) (handler : Handler) :
    (outer ++ node :: inner).run ctx handler =
      outer.run ctx fun _ _ => entry node ctx (inner.run ctx handler) :=
  run_append outer (node :: inner) ctx handler

end Chain

-- ---------------------------------------------------------------------------
-- Sinks
-- ---------------------------------------------------------------------------

def AuditSink.Sound (sink : AuditSink) : Prop :=
  ∀ op record w ws e, ((sink.record op record).along w ws).progress ≠ .panicked e

def TelemetrySink.Sound (sink : TelemetrySink) : Prop :=
  ∀ op sample w, (sink.record op sample w).1 = .ok ()

theorem AuditSink.recording_sound : AuditSink.recording.Sound := by
  intro op record w ws e h
  simp [recording] at h

theorem TelemetrySink.recording_sound : TelemetrySink.recording.Sound := fun _ _ _ => rfl

-- ---------------------------------------------------------------------------
-- One entry
-- ---------------------------------------------------------------------------

namespace Intercept

variable {ctx : RequestContext} {rest : Action Reply} {reply : Reply} {e : Panic} {w t : World}
  {ws ts : List World} {l : List (Task World)}

section
variable {sink : AuditSink}

def auditRecord (ctx : RequestContext) (status : Status) : AuditRecord :=
  ⟨ctx.name, ctx.operation.correlation, ctx.operation.user.id, status⟩

def auditing (sink : AuditSink) (ctx : RequestContext) (reply : Reply) : Action Reply := do
  sink.record ctx.operation (auditRecord ctx reply.status)
  return reply

theorem audit_eq : (audit sink).intercept ctx rest = rest.bind (auditing sink ctx) := rfl

theorem audit_returned_iff :
    ((audit sink).intercept ctx rest).along w ws = ⟨.returned reply, t, ts, l⟩ ↔
      ∃ w' ws' l₁ l₂, rest.along w ws = ⟨.returned reply, w', ws', l₁⟩ ∧
        (sink.record ctx.operation (auditRecord ctx reply.status)).along w' ws' =
          ⟨.returned (), t, ts, l₂⟩ ∧ l = l₁ ++ l₂ := by
  simp only [audit_eq, auditing, Prog.bind_eq, Prog.pure_eq, Prog.along_bind_eq_returned_iff,
    Prog.along_done]
  constructor
  · rintro ⟨_, w', ws', l₁, _, hrest, ⟨_, _, _, l₂, _, hrecord, ⟨⟩, rfl⟩, rfl⟩
    rw [List.append_nil]
    exact ⟨w', ws', l₁, l₂, hrest, hrecord, rfl⟩
  · rintro ⟨w', ws', l₁, l₂, hrest, hrecord, rfl⟩
    exact ⟨reply, w', ws', l₁, l₂, hrest, ⟨(), t, ts, l₂, [], hrecord, rfl, by simp⟩, rfl⟩

theorem audit_panicked_iff (h : sink.Sound) :
    ((audit sink).intercept ctx rest).along w ws = ⟨.panicked e, t, ts, l⟩ ↔
      rest.along w ws = ⟨.panicked e, t, ts, l⟩ := by
  simp only [audit_eq, auditing, Prog.bind_eq, Prog.pure_eq, Prog.along_bind_eq_panicked_iff,
    Prog.along_done]
  constructor
  · rintro (hrest | ⟨_, _, _, _, _, -, hrecord | ⟨_, _, _, _, _, -, ⟨⟩, -⟩, -⟩)
    · exact hrest
    · exact absurd (congrArg Course.progress hrecord) (h _ _ _ _ _)
  · exact .inl

end

section
variable {sink : TelemetrySink} {threshold : Option Duration}

/-- The world in which the sample has been taken, and a slow request reported. -/
def sampled (sink : TelemetrySink) (threshold : Option Duration) (ctx : RequestContext)
    (status : Status) (started : Instant) (w : World) : World :=
  let taken := (sink.record ctx.operation ⟨ctx.name, status⟩ w).2
  match threshold with
  | some d =>
    if d.nanos < (started.elapsed w.now).nanos then
      taken.emit ctx.operation.spans (slowEvent ctx.name d)
    else taken
  | none => taken

def sampling (sink : TelemetrySink) (threshold : Option Duration) (ctx : RequestContext)
    (started : Instant) (reply : Reply) : Action Reply := do
  let elapsed := started.elapsed (← .read).now
  .call (sink.record ctx.operation ⟨ctx.name, reply.status⟩)
  match threshold with
  | some d => if d.nanos < elapsed.nanos then ctx.emit (slowEvent ctx.name d) else pure ()
  | none => pure ()
  return reply

theorem performance_eq : (performance sink threshold).intercept ctx rest =
    .get fun w => rest.bind (sampling sink threshold ctx w.now) := rfl

theorem sampling_along (h : sink.Sound) (started : Instant) :
    (sampling sink threshold ctx started reply).along w ws =
      ⟨.returned reply, sampled sink threshold ctx reply.status started w, ws, []⟩ := by
  have hrecord := h ctx.operation ⟨ctx.name, reply.status⟩ w
  simp only [sampling, sampled, Prog.bind_eq, Prog.along_bind, Prog.along_read, Prog.along_call]
  generalize sink.record ctx.operation ⟨ctx.name, reply.status⟩ w = ending at hrecord ⊢
  obtain ⟨result, taken⟩ := ending
  obtain rfl : result = .ok () := hrecord
  cases threshold with
  | none => rfl
  | some d =>
    dsimp only
    split <;> rfl

theorem run_sampling (h : sink.Sound) (wait : (World → Bool) → Scheduler World → Scheduler World)
    (started : Instant) (q : Scheduler World) :
    ((sampling sink threshold ctx started reply).run wait q).1 = .returned reply := by
  obtain ⟨ws, hws, -⟩ := Prog.exists_along_eq_run wait (sampling sink threshold ctx started reply) q
  rw [sampling_along h] at hws
  exact hws.symm

theorem performance_returned_iff (h : sink.Sound) :
    ((performance sink threshold).intercept ctx rest).along w ws = ⟨.returned reply, t, ts, l⟩ ↔
      ∃ w', rest.along w ws = ⟨.returned reply, w', ts, l⟩ ∧
        t = sampled sink threshold ctx reply.status w.now w' := by
  simp only [performance_eq, Prog.along_get, Prog.along_bind_eq_returned_iff, sampling_along h]
  constructor
  · rintro ⟨_, w', _, l₁, _, hrest, ⟨⟩, rfl⟩
    rw [List.append_nil]
    exact ⟨w', hrest, rfl⟩
  · rintro ⟨w', hrest, rfl⟩
    exact ⟨reply, w', ts, l, [], hrest, rfl, by simp⟩

theorem performance_panicked_iff (h : sink.Sound) :
    ((performance sink threshold).intercept ctx rest).along w ws = ⟨.panicked e, t, ts, l⟩ ↔
      rest.along w ws = ⟨.panicked e, t, ts, l⟩ := by
  simp [performance_eq, Prog.along_bind_eq_panicked_iff, sampling_along h]

end

end Intercept

-- ---------------------------------------------------------------------------
-- All entries
-- ---------------------------------------------------------------------------

namespace Chain

open Intercept

/-- Wherever an observing node stands, each entry of a request to which it applies ends as the rest
of the chain does; it has told the sink one thing if the rest has replied, and nothing if the rest
has panicked. -/
theorem observers_told {audits : AuditSink} {samples : TelemetrySink} (haudits : audits.Sound)
    (hsamples : samples.Sound) (threshold : Option Duration) (outer inner : Chain)
    (ctx : RequestContext) (handler : Handler) :
    let rest := inner.run ctx handler
    let audited := entry (audit audits) ctx rest
    let timed := entry (performance samples threshold) ctx rest
    (outer ++ audit audits :: inner).run ctx handler = outer.run ctx (fun _ _ => audited) ∧
    (outer ++ performance samples threshold :: inner).run ctx handler =
      outer.run ctx (fun _ _ => timed) ∧
    ∀ w ws,
      (ctx.capabilities.auditable = true →
        (∀ reply t ts l, audited.along w ws = ⟨.returned reply, t, ts, l⟩ ↔
          ∃ w' ws' l₁ l₂, rest.along w ws = ⟨.returned reply, w', ws', l₁⟩ ∧
            (audits.record ctx.operation (auditRecord ctx reply.status)).along w' ws' =
              ⟨.returned (), t, ts, l₂⟩ ∧ l = l₁ ++ l₂) ∧
        ∀ e t ts l, audited.along w ws = ⟨.panicked e, t, ts, l⟩ ↔
          rest.along w ws = ⟨.panicked e, t, ts, l⟩) ∧
      (∀ reply t ts l, timed.along w ws = ⟨.returned reply, t, ts, l⟩ ↔
        ∃ w', rest.along w ws = ⟨.returned reply, w', ts, l⟩ ∧
          t = sampled samples threshold ctx reply.status w.now w') ∧
      ∀ e t ts l, timed.along w ws = ⟨.panicked e, t, ts, l⟩ ↔
        rest.along w ws = ⟨.panicked e, t, ts, l⟩ := by
  intro rest audited timed
  refine ⟨run_at outer inner _ ctx handler, run_at outer inner _ ctx handler, fun w ws => ?_⟩
  have htimed : timed.along w ws =
      ((performance samples threshold).intercept ctx rest).along w ws := by
    simp [timed, entry, performance]
  refine ⟨fun hauditable => ?_, fun reply t ts l => ?_, fun e t ts l => ?_⟩
  · have haudited : audited.along w ws = ((audit audits).intercept ctx rest).along w ws := by
      simp [audited, entry, audit, hauditable]
    rw [haudited]
    exact ⟨fun _ _ _ _ => audit_returned_iff, fun _ _ _ _ => audit_panicked_iff haudits⟩
  · rw [htimed]
    exact performance_returned_iff hsamples
  · rw [htimed]
    exact performance_panicked_iff hsamples

/-- A transfer that is recovered from an error, which the audit inside the recovery has seen. -/
theorem fault_told :
    let transfer := Request.plain ⟨⟨0⟩, "bank::Transfer", .full, .unit⟩ .null
    let ctx : RequestContext := ⟨transfer, default⟩
    let handler : Handler := fun _ _ => .done (.error .canceled)
    let audited := entry (audit .recording) ctx (Chain.run [] ctx handler)
    Chain.run [recover, audit .recording] ctx handler =
      Chain.run [recover] ctx (fun _ _ => audited) ∧
      audited.along .empty [] = ⟨.returned (.error .canceled),
        { World.empty with audits := [auditRecord ctx .fault] }, [], []⟩ := by
  intro transfer ctx handler audited
  obtain ⟨hposition, -, hentry⟩ := observers_told AuditSink.recording_sound
    TelemetrySink.recording_sound none [recover] [] ctx handler
  obtain ⟨hreturned, -⟩ := (hentry .empty []).1 rfl
  exact ⟨hposition, (hreturned _ _ _ _).mpr ⟨.empty, [], [], [], rfl, rfl, rfl⟩⟩

/-- A transfer that panics: the dispatch fails, and neither observer has been told. -/
theorem panic_not_told :
    let transfer := Request.plain ⟨⟨0⟩, "bank::Transfer", .full, .unit⟩ .null
    let handler : Handler := fun _ _ => .panic (.fixed "boom")
    let d : Dispatcher := ⟨⟨fun _ => some handler, fun _ => []⟩,
      [.audit .recording, .performance .recording none], .development⟩
    let course := (d.dispatchWith transfer default).along .empty []
    (∀ node ∈ d.chain, node.appliesTo .empty transfer.type.capabilities = true) ∧
      course.progress = .returned (.ok (.panicked transfer.name (.fixed "boom"))) ∧
      course.state.audits = [] ∧ course.state.samples = [] ∧ course.tasks = [] := by
  intro transfer handler d course
  refine ⟨?_, rfl, rfl, rfl, rfl⟩
  simp [d, Intercept.audit, Intercept.performance, transfer, Request.plain, Capabilities.full]

end Chain

end Mediator
