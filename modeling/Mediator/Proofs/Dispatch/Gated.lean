import Mediator.Intercept.Conditional
import Mediator.Intercept.Gate
import Mediator.Proofs.Dispatch.Endings
import Mediator.Proofs.Intercept.Observers
import Mediator.Proofs.Prog.Passage

/-!
# What a gate makes of a dispatch

A gate stands below nodes that pass on what they are told. If it lets a request pass, it is one more
such node. If it stops the request, the dispatch ends in a failure of the gate's own kind, whatever
the collaborator's error is and whatever caused that one; the rest of the chain is not come to
(`Dispatcher.gate_decides`).
-/

namespace Mediator

variable {wait : (World → Bool) → Scheduler World → Scheduler World}
  {q q' q'' : Scheduler World} {ctx : RequestContext}

-- ---------------------------------------------------------------------------
-- Programs around others
-- ---------------------------------------------------------------------------

/-- Whatever is put inside, what is around it comes from `q` to run it from `q'`, and that once;
and it ends as what is inside has ended. -/
def Relays (wait : (World → Bool) → Scheduler World → Scheduler World)
    (around : Action Reply → Action Reply) (q q' : Scheduler World) : Prop :=
  ∃ post : Except Panic Reply → Action Reply,
    (∀ rest, (around rest).Leads wait q (rest.attempt.bind post) q') ∧
      ∀ r q, ((post r).run wait q).1 = .ofCaught r

namespace Relays

variable {around within : Action Reply → Action Reply}

theorem self (q : Scheduler World) : Relays wait (fun rest => rest) q q := by
  refine ⟨Prog.onReturn .done, fun rest => ?_, fun r q => ?_⟩
  · rw [← Prog.eq_attempt_bind]
    exact .refl
  · cases r <;> rfl

theorem of_leads (h : ∀ rest, (around rest).Leads wait q (within rest) q')
    (h' : Relays wait within q' q'') : Relays wait around q q'' := by
  obtain ⟨post, hleads, hkeeps⟩ := h'
  exact ⟨post, fun rest => (h rest).trans (hleads rest), hkeeps⟩

theorem comp (h : Relays wait around q q') (h' : Relays wait within q' q'') :
    Relays wait (fun rest => around (within rest)) q q'' := by
  obtain ⟨post, hleads, hkeeps⟩ := h
  obtain ⟨post', hleads', hkeeps'⟩ := h'
  refine ⟨fun r => (post' r).attempt.bind post, fun rest => ?_, fun r q => ?_⟩
  · have hrest := (hleads' rest).attempt.bind post
    rw [Prog.attempt_bind_attempt, Prog.bind_assoc] at hrest
    exact (hleads (within rest)).trans hrest
  · have hsame : (((post' r).attempt.bind post).run wait q).1 = ((post' r).run wait q).1 :=
      Prog.Leads.refl.ending (R := fun E E' => E' = E) hkeeps rfl
    exact hsame.trans (hkeeps' r q)

/-- What is done with a reply before it is passed on is not seen in the reply. -/
theorem bind {f : Reply → Action Reply}
    (hf : ∀ reply q, ((f reply).run wait q).1 = .returned reply) (q : Scheduler World) :
    Relays wait (fun rest => rest.bind f) q q := by
  refine ⟨Prog.onReturn f, fun rest => ?_, fun r q => ?_⟩
  · show (Prog.bind rest f).Leads wait q _ q
    rw [Prog.bind_eq_attempt_bind]
    exact .refl
  · cases r with
    | ok reply => exact hf reply q
    | error e => rfl

theorem ending (h : Relays wait around q q') (rest : Action Reply) :
    ((around rest).run wait q).1 = (rest.run wait q').1 := by
  obtain ⟨post, hleads, hkeeps⟩ := h
  exact ((hleads rest).ending (R := fun E E' => E' = E) hkeeps rfl)

/-- What does not come to its inside leaves what is around it as its own ending says. -/
theorem run_eq {p p' : Action Reply} (h : Relays wait around q q')
    (hp : p.run wait q' = p'.run wait q') :
    (around p).run wait q = (around p').run wait q := by
  obtain ⟨post, hleads, -⟩ := h
  rw [(hleads p).run_eq, (hleads p').run_eq, Prog.run_bind, Prog.run_bind, Prog.run_attempt,
    Prog.run_attempt, hp]

end Relays

-- ---------------------------------------------------------------------------
-- Nodes and chains around the rest
-- ---------------------------------------------------------------------------

namespace Chain

/-- From `q` the request comes through all nodes, which only pass on how the rest ends. -/
inductive Passes (wait : (World → Bool) → Scheduler World → Scheduler World)
    (ctx : RequestContext) : Chain → Scheduler World → Scheduler World → Prop
  | nil {q : Scheduler World} : Passes wait ctx [] q q
  | cons {node : Intercept} {c : Chain} {q q' q'' : Scheduler World}
      (h : Relays wait (entry node ctx) q q') (hrest : Passes wait ctx c q' q'') :
      Passes wait ctx (node :: c) q q''

theorem Passes.relays {c : Chain} (h : c.Passes wait ctx q q') :
    Relays wait (fun rest => c.run ctx fun _ _ => rest) q q' := by
  induction h with
  | nil => exact .self _
  | cons h _ ih => exact h.comp ih

theorem Passes.concat {c : Chain} {node : Intercept} (h : c.Passes wait ctx q q')
    (hnode : Relays wait (entry node ctx) q' q'') : (c ++ [node]).Passes wait ctx q q'' := by
  induction h with
  | nil => exact .cons hnode .nil
  | cons h _ ih => exact .cons h (ih hnode)

end Chain

namespace Intercept

open Chain

variable {node : Intercept}

theorem relays_of_not_applies (h : node.appliesTo q.state ctx.capabilities = false) :
    Relays wait (entry node ctx) q q := by
  refine .of_leads (fun rest => .get ?_) (.self q)
  rw [h]
  exact .refl

theorem relays_of_applies (h : node.appliesTo q.state ctx.capabilities = true)
    (h' : Relays wait (node.intercept ctx) q q') : Relays wait (entry node ctx) q q' := by
  refine .of_leads (fun rest => .get ?_) h'
  rw [if_pos h]
  exact .refl

theorem relays_audit {sink : AuditSink} (h : ∀ r q, ∃ q',
    (sink.record ctx.operation r).run wait q = (.returned (), q')) (q : Scheduler World) :
    Relays wait (entry (audit sink) ctx) q q := by
  cases happlies : ctx.capabilities.auditable with
  | false => exact relays_of_not_applies happlies
  | true =>
    refine relays_of_applies happlies (.bind (f := auditing sink ctx) (fun reply q => ?_) q)
    obtain ⟨q', hrecord⟩ := h (auditRecord ctx reply.status) q
    rw [auditing, Prog.bind_eq, Prog.run_bind, hrecord]
    rfl

theorem relays_performance {sink : TelemetrySink} (h : sink.Sound) (threshold : Option Duration)
    (q : Scheduler World) : Relays wait (entry (performance sink threshold) ctx) q q := by
  refine relays_of_applies rfl (.of_leads (fun rest => .get .refl) (.bind (fun reply q => ?_) q))
  exact run_sampling h wait _ q

end Intercept

-- ---------------------------------------------------------------------------
-- Gates
-- ---------------------------------------------------------------------------

inductive Gate where
  | validation (v : Validator)
  | authorization (a : Evaluator)

namespace Gate

def node : Gate → Intercept
  | .validation v => .validation v
  | .authorization a => .authorization a

def kind : Gate → ErrorKind
  | .validation _ => .validation
  | .authorization _ => .forbidden

/-- The collaborator's verdict. -/
def ask (g : Gate) (ctx : RequestContext) : Action (Outcome Unit) :=
  match g with
  | .validation v => v.validate ctx.request
  | .authorization a => a.evaluate ctx.request.resource ctx.operation

/-- The gate's own error, which retells one of another kind. -/
def retold (g : Gate) (ctx : RequestContext) (text : String) : MediatorError :=
  match g with
  | .validation _ => .validation ⟨[⟨"request", text⟩]⟩
  | .authorization _ => .forbidden ctx.request.resource text

/-- The error that a request is stopped with. -/
def stop (g : Gate) (ctx : RequestContext) (e : Shared MediatorError) : Shared MediatorError :=
  if e.value.kind == g.kind then e else .new (g.retold ctx e.value.text)

def report (g : Gate) (ctx : RequestContext) (e : Shared MediatorError) : Event :=
  match g with
  | .validation _ => .debug "request rejected by validation"
      [("request", ctx.name), ("error", e.value.text)]
  | .authorization _ => .debug "access denied"
      [("request", ctx.name), ("resource", ctx.request.resource.text), ("error", e.value.text)]

variable {g : Gate} {e : Shared MediatorError}

theorem stop_of_kind (h : e.value.kind = g.kind) : g.stop ctx e = e := if_pos (by simpa using h)

theorem stop_of_other_kind (h : e.value.kind ≠ g.kind) :
    g.stop ctx e = .new (g.retold ctx e.value.text) := if_neg (by simpa using h)

theorem stop_kind : (g.stop ctx e).value.kind = g.kind := by
  by_cases h : e.value.kind = g.kind
  · rw [stop_of_kind h, h]
  · rw [stop_of_other_kind h]
    cases g <;> rfl

theorem intercept_eq (g : Gate) (ctx : RequestContext) (rest : Action Reply) :
    g.node.intercept ctx rest = (g.ask ctx).bind fun
      | .success () => rest
      | .failure e => (ctx.emit (g.report ctx e)).bind fun _ =>
        .done (.ok (.failure (g.stop ctx e))) := by
  cases g <;> exact congrArg (Prog.bind _) (funext fun verdict => by cases verdict <;> rfl)

theorem relays_of_success (hverdict : (g.ask ctx).run wait q = (.returned (.success ()), q')) :
    Relays wait (g.node.intercept ctx) q q' := by
  refine .of_leads (fun rest => ?_) (.self q')
  rw [intercept_eq]
  exact Prog.leads_bind_of_run hverdict _

theorem run_of_failure (hverdict : (g.ask ctx).run wait q = (.returned (.failure e), q'))
    (rest : Action Reply) : (g.node.intercept ctx rest).run wait q =
      (.returned (.ok (.failure (g.stop ctx e))),
        q'.put (q'.state.emit ctx.operation.spans (g.report ctx e))) := by
  rw [intercept_eq, Prog.run_bind, hverdict]
  rfl

end Gate

-- ---------------------------------------------------------------------------
-- Dispatches
-- ---------------------------------------------------------------------------

namespace Dispatcher

/-- A gate below nodes that pass on what they are told. If it lets the request pass, the rest of the
chain is run once and ends the dispatch. If it stops the request with some error, the dispatch ends
in a failure of the gate's kind: with that very error if it is of the kind, and else with one of the
gate's own that has the full text of the other. What stands behind the gate has no part in that. -/
theorem gate_decides {d : Dispatcher} {request : Request} {op : Operation} {handler : Handler}
    {g : Gate} {outer inner : Chain} {verdict : Outcome Unit} {q q₁ q₂ : Scheduler World}
    (hresolve : d.provider.resolve request.type = some handler)
    (hchain : d.chain = outer ++ g.node :: inner)
    (houter : outer.Passes wait (context request op) (d.planned (context request op) q) q₁)
    (happlies : g.node.appliesTo q₁.state (context request op).capabilities = true)
    (hverdict : (g.ask (context request op)).run wait q₁ = (.returned verdict, q₂)) :
    let ctx := context request op
    let result := ((d.dispatchWith request op).run wait q).1
    (verdict = .success () →
      Relays wait (fun rest => (outer ++ [g.node]).run ctx fun _ _ => rest) (d.planned ctx q) q₂ ∧
      result = conclude request.name ((inner.run ctx handler).run wait q₂).1) ∧
    ∀ e, verdict = .failure e →
      (∃ e', result = .returned (.ok (.failure e')) ∧ e'.value.kind = g.kind ∧
        (e.value.kind = g.kind → e' = e) ∧
        (e.value.kind ≠ g.kind → e' = .new (g.retold ctx e.value.text))) ∧
      ∀ (inner' : Chain) handler',
        ((outer ++ g.node :: inner').run ctx handler').run wait (d.planned ctx q) =
          (d.chain.run ctx handler).run wait (d.planned ctx q) := by
  intro ctx result
  have hrun : ∀ (inner : Chain) handler, (outer ++ g.node :: inner).run ctx handler =
      outer.run ctx fun _ _ => Chain.entry g.node ctx (inner.run ctx handler) :=
    fun inner handler => Chain.run_at outer inner g.node ctx handler
  have hresult : result = conclude request.name
      ((d.chain.run ctx handler).run wait (d.planned ctx q)).1 :=
    dispatchWith_ending wait hresolve q
  rw [hchain, hrun] at hresult
  rw [hchain, hrun]
  refine ⟨?_, ?_⟩
  · rintro rfl
    have hgate := Intercept.relays_of_applies happlies (Gate.relays_of_success hverdict)
    refine ⟨(houter.concat hgate).relays, ?_⟩
    rw [hresult, houter.relays.ending, hgate.ending]
  · rintro e rfl
    have hstop : ∀ rest, (Chain.entry g.node ctx rest).run wait q₁ = _ := fun rest => by
      rw [Chain.entry, Prog.run_get, if_pos happlies, Gate.run_of_failure hverdict]
    refine ⟨⟨g.stop ctx e, ?_, Gate.stop_kind, Gate.stop_of_kind, Gate.stop_of_other_kind⟩, ?_⟩
    · rw [hresult, houter.relays.ending, hstop]
      rfl
    · intro inner' handler'
      rw [hrun]
      exact houter.relays.run_eq ((hstop _).trans (hstop _).symm)

/-- A transfer that is timed and audited, and stopped because its validation was canceled. -/
theorem gate_decides_on_canceled_validation :
    let transfer := Request.plain ⟨⟨0⟩, "bank::Transfer", .full, .unit⟩ .null
    let validator : Validator := ⟨fun _ => .done (.failed (.other .canceled))⟩
    let handler : Handler := fun _ _ => .panic (.fixed "boom")
    let d : Dispatcher := ⟨⟨fun _ => some handler, fun _ => []⟩,
      [.performance .recording none, .audit .recording, .validation validator, .recover],
      .development⟩
    ((d.dispatchWith transfer default).run Scheduler.alone (.start .empty)).1 =
      .returned (.ok (.failed (.validation ⟨[⟨"request", "operation was canceled"⟩]⟩))) := by
  intro transfer validator handler d
  have houter : Chain.Passes Scheduler.alone (context transfer default)
      [.performance .recording none, .audit .recording]
      (d.planned (context transfer default) (.start .empty)) _ :=
    .cons (Intercept.relays_performance TelemetrySink.recording_sound none _)
      (.cons (Intercept.relays_audit (fun _ _ => ⟨_, rfl⟩) _) .nil)
  have hresolve : d.provider.resolve transfer.type = some handler := rfl
  obtain ⟨-, hfailure⟩ := gate_decides (g := .validation validator) hresolve rfl houter rfl rfl
  obtain ⟨⟨e', hresult, -, -, hretold⟩, -⟩ := hfailure _ rfl
  rw [hresult, hretold nofun]
  rfl

end Dispatcher

end Mediator
