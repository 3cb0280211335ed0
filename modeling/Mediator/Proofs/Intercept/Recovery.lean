import Mediator.Proofs.Dispatch.Endings
import Mediator.Proofs.Intercept.Observers
import Mediator.Proofs.Prog.Looks

/-!
# Recovery

A recovering node and the end of a dispatch turn whatever escapes a chain into a result, each in its
own way. They do it alike: what the node makes of it (`recovered`) is what it makes of that once
more, and a dispatch cannot tell it from what had escaped (`Dispatcher.conclude_recovered`). Outside
of a recovering node nothing panics, so that observers there are told of everything.
-/

namespace Mediator

/-- What has been reported last makes no difference to how the program ends. -/
def Action.Heedless {α : Type} (wait : (World → Bool) → Scheduler World → Scheduler World)
    (p : Action α) : Prop :=
  ∀ (q : Scheduler World) spans e e',
    (p.run wait (q.put (q.state.emit spans e))).1 = (p.run wait (q.put (q.state.emit spans e'))).1

/-- How far a program has got that has ended like this. -/
def Progress.ofCaught {σ α : Type} : Except Panic α → Progress σ α
  | .ok a => .returned a
  | .error payload => .panicked payload

-- ---------------------------------------------------------------------------
-- What recovery makes of an ending
-- ---------------------------------------------------------------------------

namespace Intercept

def recovered (name : String) : Except Panic Reply → Reply
  | .ok (.ok outcome) => .ok outcome
  | .ok (.error e) =>
    match e.classify with
    | .ok source => .ok (.failed (.handler name source))
    | .error fatal => .error fatal.inner
  | .error payload => .ok (.panicked name payload)

def remark? (ctx : RequestContext) : Except Panic Reply → Option Event
  | .ok (.ok _) => none
  | .ok (.error e) =>
    match e.classify with
    | .ok source => some (.warn "recovered from handler error"
        [("request", ctx.name), ("error", source.text)])
    | .error _ => none
  | .error payload => some (.warn "recovered from panic"
      [("request", ctx.name), ("panic", payload.message)])

def remarked (ctx : RequestContext) (caught : Except Panic Reply) (w : World) : World :=
  match remark? ctx caught with
  | some e => w.emit ctx.operation.spans e
  | none => w

def remark (ctx : RequestContext) (caught : Except Panic Reply) : Action Unit :=
  match remark? ctx caught with
  | some e => ctx.emit e
  | none => .done ()

def recovering (ctx : RequestContext) (caught : Except Panic Reply) : Action Reply :=
  (remark ctx caught).bind fun _ => .done (recovered ctx.name caught)

variable {name : String} {ctx : RequestContext} {next : Action Reply}
  {caught : Except Panic Reply} {e : Error}

theorem recover_eq : recover.intercept ctx next = next.attempt.bind (recovering ctx) := by
  refine congrArg next.attempt.bind (funext fun caught => ?_)
  match caught with
  | .ok (.ok outcome) => rfl
  | .ok (.error e) => cases h : e.classify <;> simp [recovering, remark, remark?, recovered, h]
  | .error payload => rfl

theorem recovered_eq_error_iff : recovered name caught = .error e ↔
    caught = .ok (.error e) ∧ ∃ kind, e.classify = .error ⟨kind, e⟩ := by
  match caught with
  | .ok (.ok outcome) => simp [recovered]
  | .ok (.error e') =>
    cases h : e'.classify with
    | ok source =>
      simp only [recovered, h, reduceCtorEq, false_iff]
      rintro ⟨heq, kind, hkind⟩
      cases heq
      simp [h] at hkind
    | error fatal =>
      obtain ⟨kind, inner⟩ := fatal
      obtain ⟨-, rfl⟩ := Error.classify_eq_error_iff.mp h
      simp only [recovered, h, Except.error.injEq, Except.ok.injEq]
      constructor
      · rintro rfl
        exact ⟨rfl, kind, h⟩
      · exact fun heq => heq.1
  | .error payload => simp [recovered]

theorem recovering_recovered :
    recovering ctx (.ok (recovered ctx.name caught)) = .done (recovered ctx.name caught) := by
  cases h : recovered ctx.name caught with
  | ok outcome => rfl
  | error e =>
    obtain ⟨-, kind, hkind⟩ := recovered_eq_error_iff.mp h
    simp [recovering, remark, remark?, recovered, hkind]

theorem attempt_recovering_bind {α : Type} (f : Except Panic Reply → Action α) :
    (recovering ctx caught).attempt.bind f =
      (remark ctx caught).bind fun _ => f (.ok (recovered ctx.name caught)) := by
  unfold recovering remark
  cases remark? ctx caught <;> rfl

theorem recover_recover :
    recover.intercept ctx (recover.intercept ctx next) = recover.intercept ctx next := by
  rw [recover_eq, recover_eq, Prog.attempt_attempt_bind, Prog.bind_assoc]
  refine congrArg next.attempt.bind (funext fun caught => ?_)
  rw [attempt_recovering_bind, recovering_recovered]
  rfl

theorem status_recovered_eq_fault_iff : (recovered name caught).status = .fault ↔
    ∃ e kind, caught = .ok (.error e) ∧ e.classify = .error ⟨kind, e⟩ := by
  cases h : recovered name caught with
  | ok outcome =>
    have hstatus : outcome.status ≠ .fault := by cases outcome <;> simp [Outcome.status]
    simp only [Reply.status, hstatus, false_iff]
    rintro ⟨e, kind, hcaught, hkind⟩
    rw [recovered_eq_error_iff.mpr ⟨hcaught, kind, hkind⟩] at h
    cases h
  | error e =>
    obtain ⟨hcaught, kind, hkind⟩ := recovered_eq_error_iff.mp h
    simp only [Reply.status, true_iff]
    exact ⟨e, kind, hcaught, hkind⟩

theorem status_recovered_of_recoverable (h : (∃ payload, caught = .error payload) ∨
    ∃ e, caught = .ok (.error e) ∧ e.classify = .ok e) :
    (recovered name caught).status = .failure := by
  obtain ⟨payload, rfl⟩ | ⟨e, rfl, he⟩ := h
  · rfl
  · simp [recovered, he, Reply.status, Outcome.failed, Outcome.status]

theorem recovering_ending (wait : (World → Bool) → Scheduler World → Scheduler World)
    (q : Scheduler World) :
    ((recovering ctx caught).run wait q).1 = .returned (recovered ctx.name caught) := by
  unfold recovering remark
  cases remark? ctx caught <;> rfl

theorem recovering_along (w : World) (ws : List World) : (recovering ctx caught).along w ws =
    ⟨.returned (recovered ctx.name caught), remarked ctx caught w, ws, []⟩ := by
  unfold recovering remark remarked
  cases remark? ctx caught <;> rfl

end Intercept

-- ---------------------------------------------------------------------------
-- Recovery at a place in a chain
-- ---------------------------------------------------------------------------

open Intercept

/-- The ending outside of a recovering node, by that inside. -/
def Ending.recovered (name : String) : Ending Reply → Ending Reply
  | .returned reply => .returned (Intercept.recovered name (.ok reply))
  | .panicked payload => .returned (Intercept.recovered name (.error payload))
  | .stalled => .stalled

namespace Ending

variable {name : String} {ending : Ending Reply}

theorem recovered_ne_panicked (payload : Panic) : ending.recovered name ≠ .panicked payload := by
  cases ending <;> simp [recovered]

theorem recovered_eq_error_iff {e : Error} : ending.recovered name = .returned (.error e) ↔
    ending = .returned (.error e) ∧ ∃ kind, e.classify = .error ⟨kind, e⟩ := by
  cases ending with
  | returned reply => simp [recovered, Intercept.recovered_eq_error_iff]
  | panicked payload => simp [recovered, Intercept.recovered_eq_error_iff]
  | stalled => simp [recovered]

end Ending

theorem Dispatcher.conclude_recovered (name : String) (ending : Ending Reply) :
    conclude name (ending.recovered name) = conclude name ending := by
  match ending with
  | .returned (.ok outcome) => rfl
  | .returned (.error e) =>
    cases h : e.fatalKind? <;> simp [Ending.recovered, recovered, conclude, Error.classify, h]
  | .panicked payload => rfl
  | .stalled => rfl

namespace Chain

variable {c : Chain} {ctx : RequestContext} {handler : Handler}

theorem run_recover : Chain.run (recover :: c) ctx handler =
    .get fun _ => recover.intercept ctx (c.run ctx handler) := rfl

theorem run_recover_ending (wait : (World → Bool) → Scheduler World → Scheduler World)
    (q : Scheduler World) : ((Chain.run (recover :: c) ctx handler).run wait q).1 =
      ((c.run ctx handler).run wait q).1.recovered ctx.name := by
  rw [run_recover, Prog.run_get, recover_eq, Prog.run_bind, Prog.run_attempt]
  rcases (c.run ctx handler).run wait q with ⟨_ | _ | _, q'⟩
  · exact recovering_ending wait q'
  · exact recovering_ending wait q'
  · rfl

theorem run_recover_along {caught : Except Panic Reply} {w w' : World} {ws ws' : List World}
    {l : List (Task World)}
    (h : (c.run ctx handler).along w ws = ⟨.ofCaught caught, w', ws', l⟩) :
    (Chain.run (recover :: c) ctx handler).along w ws =
      ⟨.returned (recovered ctx.name caught), remarked ctx caught w', ws', l⟩ := by
  rw [run_recover, Prog.along_get, recover_eq, Prog.along_bind, Prog.along_attempt, h]
  cases caught <;> simp [Progress.ofCaught, recovering_along]

theorem same_recover_recover : Prog.Same (fun _ => True)
    (Chain.run (recover :: recover :: c) ctx handler) (Chain.run (recover :: c) ctx handler) := by
  have hlook : Prog.Same (fun _ => True) (Chain.run (recover :: c) ctx handler)
      (recover.intercept ctx (c.run ctx handler)) :=
    fun w _ => .lookLeft (.refl w _)
  have htwice : Prog.Same (fun _ => True)
      (recover.intercept ctx (Chain.run (recover :: c) ctx handler))
      (recover.intercept ctx (recover.intercept ctx (c.run ctx handler))) := by
    rw [recover_eq, @recover_eq ctx (recover.intercept ctx (c.run ctx handler))]
    exact hlook.attempt.bind fun _ => .refl _
  rw [recover_recover] at htwice
  exact fun w hw => .lookLeft (.lookRight (htwice w hw))

theorem dispatch_recover_ending (wait : (World → Bool) → Scheduler World → Scheduler World)
    (provider : Provider) (host : Host) (request : Request) (op : Operation) (q : Scheduler World)
    (h : ∀ handler, provider.resolve request.type = some handler → q.state.collects .debug = false ∨
      (c.run (Dispatcher.context request op) handler).Heedless wait) :
    (((⟨provider, recover :: c, host⟩ : Dispatcher).dispatchWith request op).run wait q).1 =
      (((⟨provider, c, host⟩ : Dispatcher).dispatchWith request op).run wait q).1 := by
  cases hresolve : provider.resolve request.type with
  | none => simp [Dispatcher.dispatchWith, hresolve]
  | some handler =>
    rw [Dispatcher.dispatchWith_ending wait hresolve, Dispatcher.dispatchWith_ending wait hresolve,
      run_recover_ending]
    show Dispatcher.conclude request.name (Ending.recovered request.name _) = _
    rw [Dispatcher.conclude_recovered]
    -- The two chains have different plans, and these have been reported.
    obtain hsilent | hheedless := h handler hresolve
    · unfold Dispatcher.planned
      rw [World.emit_of_not_collects hsilent, World.emit_of_not_collects hsilent]
    · exact congrArg _ (hheedless q _ _ _)

/-- Recovery makes nothing of a chain that a dispatch would not make of it. Outside of it there is
no panic, and no error but the fatal ones, as they are; a dispatch ends alike with it and without
it; and recovering once more does nothing. So an observer right outside of it is told exactly once
of every ending inside: of a fault if a fatal error has escaped, and of a failure if there was any
other error, or a panic. -/
theorem recovers_like_dispatch (c : Chain) (ctx : RequestContext) (handler : Handler) :
    let plain := c.run ctx handler
    let caught := Chain.run (recover :: c) ctx handler
    (∀ wait q,
      (∀ payload, (caught.run wait q).1 ≠ .panicked payload) ∧
      ∀ e, (caught.run wait q).1 = .returned (.error e) ↔
        (plain.run wait q).1 = .returned (.error e) ∧ ∃ kind, e.classify = .error ⟨kind, e⟩) ∧
    (∀ wait q, ((caught.attempt.bind (Dispatcher.settle ctx)).run wait q).1 =
      ((plain.attempt.bind (Dispatcher.settle ctx)).run wait q).1) ∧
    (∀ provider host request op, ctx = Dispatcher.context request op →
      (∀ h, provider.resolve request.type = some h → h = handler) →
      ∀ wait q, q.state.collects .debug = false ∨ plain.Heedless wait →
        (((⟨provider, recover :: c, host⟩ : Dispatcher).dispatchWith request op).run wait q).1 =
          (((⟨provider, c, host⟩ : Dispatcher).dispatchWith request op).run wait q).1) ∧
    Prog.Same (fun _ => True) (Chain.run (recover :: recover :: c) ctx handler) caught ∧
    (∀ wait q, (Chain.run (recover :: recover :: c) ctx handler).run wait q = caught.run wait q) ∧
    ∀ audits samples threshold (outer : Chain),
      let audited := entry (audit audits) ctx caught
      let timed := entry (performance samples threshold) ctx caught
      (outer ++ audit audits :: recover :: c).run ctx handler = outer.run ctx (fun _ _ => audited) ∧
      (outer ++ performance samples threshold :: recover :: c).run ctx handler =
        outer.run ctx (fun _ _ => timed) ∧
      ∀ w ws ending w' ws' l, plain.along w ws = ⟨.ofCaught ending, w', ws', l⟩ →
        let reply := recovered ctx.name ending
        let t := remarked ctx ending w'
        (ctx.capabilities.auditable = true →
          audited.along w ws = ((auditing audits ctx reply).along t ws').after l) ∧
        timed.along w ws = ((sampling samples threshold ctx w.now reply).along t ws').after l ∧
        (reply.status = .fault ↔
          ∃ e kind, ending = .ok (.error e) ∧ e.classify = .error ⟨kind, e⟩) ∧
        ((∃ payload, ending = .error payload) ∨
          (∃ e, ending = .ok (.error e) ∧ e.classify = .ok e) → reply.status = .failure) := by
  intro plain caught
  refine ⟨fun wait q => ⟨?_, ?_⟩, fun wait q => ?_, ?_, same_recover_recover, fun wait q => ?_, ?_⟩
  · rw [run_recover_ending]
    exact Ending.recovered_ne_panicked
  · intro e
    rw [run_recover_ending]
    exact Ending.recovered_eq_error_iff
  · rw [Dispatcher.settled_ending, Dispatcher.settled_ending, run_recover_ending,
      Dispatcher.conclude_recovered]
  · rintro provider host request op rfl hresolve wait q hq
    refine dispatch_recover_ending wait provider host request op q fun h hh => ?_
    rw [hresolve h hh]
    exact hq
  · exact (same_recover_recover q.state trivial |>.run_eq (Prog.within_true _ q)).1
  · intro audits samples threshold outer audited timed
    refine ⟨run_at outer _ _ ctx handler, run_at outer _ _ ctx handler, ?_⟩
    intro w ws ending w' ws' l hplain reply t
    have hcaught := run_recover_along hplain
    refine ⟨fun hauditable => ?_, ?_, status_recovered_eq_fault_iff,
      status_recovered_of_recoverable⟩
    · have haudited : audited.along w ws = ((audit audits).intercept ctx caught).along w ws := by
        simp [audited, entry, audit, hauditable]
      rw [haudited, audit_eq, Prog.along_bind, hcaught]
    · have htimed : timed.along w ws =
          ((performance samples threshold).intercept ctx caught).along w ws := by
        simp [timed, entry, performance]
      rw [htimed, performance_eq, Prog.along_get, Prog.along_bind, hcaught]

/-- A transfer that panics, dispatched with recovery and without it, and audited outside of it. -/
theorem panic_recovered :
    let transfer := Request.plain ⟨⟨0⟩, "bank::Transfer", .full, .unit⟩ .null
    let ctx := Dispatcher.context transfer default
    let handler : Handler := fun _ _ => .panic (.fixed "boom")
    let d (c : Chain) : Dispatcher := ⟨⟨fun _ => some handler, fun _ => []⟩, c, .development⟩
    let q : Scheduler World := .start .empty
    (((d [recover]).dispatchWith transfer default).run Scheduler.alone q).1 =
        (((d []).dispatchWith transfer default).run Scheduler.alone q).1 ∧
      (entry (audit .recording) ctx (Chain.run [recover] ctx handler)).along .empty [] =
        ⟨.returned (.ok (.panicked ctx.name (.fixed "boom"))),
          { World.empty with audits := [auditRecord ctx .failure] }, [], []⟩ := by
  intro transfer ctx handler d q
  obtain ⟨-, -, hdispatch, -, -, hobservers⟩ := recovers_like_dispatch [] ctx handler
  obtain ⟨-, -, hentry⟩ := hobservers .recording .recording none []
  have hresolve : ∀ h, some handler = some h → h = handler := fun h hh => (Option.some.inj hh).symm
  obtain ⟨haudited, -⟩ := hentry .empty [] (.error (.fixed "boom")) .empty [] [] rfl
  exact ⟨hdispatch _ .development transfer default rfl hresolve _ q (.inl rfl), haudited rfl⟩

end Chain

end Mediator
