import Mediator.Dispatch
import Mediator.Proofs.Error.Causes
import Mediator.Proofs.Prog.Run

/-!
# How a dispatch ends

Whatever the provider, the chain and the handler do, the ending of a dispatch is determined by that
of its chain. `dispatchWith_ending` gives it as a function of the latter, `Dispatcher.conclude`. In
particular a dispatch never panics, and it stalls only if its chain does.
-/

namespace Mediator

namespace Dispatcher

variable (wait : (World → Bool) → Scheduler World → Scheduler World)

/-- The ending of the dispatch of a request whose chain ends like this. -/
def conclude (name : String) : Ending Reply → Ending (Except Fatal (Outcome Value))
  | .returned (.ok outcome) => .returned (.ok outcome)
  | .returned (.error e) =>
    match e.fatalKind? with
    | some kind => .returned (.error ⟨kind, e⟩)
    | none => .returned (.ok (.failed (.handler name e)))
  | .panicked payload => .returned (.ok (.panicked name payload))
  | .stalled => .stalled

/-- What there is when a dispatch comes to its chain: the plan has been reported. -/
def planned (d : Dispatcher) (ctx : RequestContext) (q : Scheduler World) : Scheduler World :=
  q.put (q.state.emit ctx.operation.spans (.debug "running intercept chain"
    [("plan", Text.quoteList (d.chain.plan q.state ctx.capabilities))]))

-- ---------------------------------------------------------------------------
-- Settling
-- ---------------------------------------------------------------------------

theorem settle_returned (ctx : RequestContext) (reply : Reply) (q : Scheduler World) :
    ((settle ctx (.ok reply)).run wait q).1 = conclude ctx.name (.returned reply) := by
  cases reply with
  | ok outcome => rfl
  | error e =>
    cases h : e.fatalKind? with
    | none => simp [settle, conclude, Error.classify, h, RequestContext.emit, Prog.run_bind]
    | some kind => simp [settle, conclude, Error.classify, h, RequestContext.emit, Prog.run_bind]

theorem settle_panicked (ctx : RequestContext) (payload : Panic) (q : Scheduler World) :
    ((settle ctx (.error payload)).run wait q).1 = conclude ctx.name (.panicked payload) := by
  simp [settle, conclude, RequestContext.emit, Prog.run_bind]

theorem settled_ending (ctx : RequestContext) (p : Action Reply) (q : Scheduler World) :
    ((p.attempt.bind (settle ctx)).run wait q).1 = conclude ctx.name (p.run wait q).1 := by
  rw [Prog.run_bind, Prog.run_attempt]
  rcases p.run wait q with ⟨reply | payload | _, q'⟩
  · exact settle_returned wait ctx reply q'
  · exact settle_panicked wait ctx payload q'
  · rfl

-- ---------------------------------------------------------------------------
-- Dispatching
-- ---------------------------------------------------------------------------

theorem dispatchWith_none {d : Dispatcher} {request : Request} {op : Operation}
    (h : d.provider.resolve request.type = none) (q : Scheduler World) :
    (d.dispatchWith request op).run wait q =
      (.returned (.ok (.failed (.noHandler request.name))),
        q.put (q.state.emit (context request op).operation.spans
          (.warn "no handler registered" [("request", request.name)]))) := by
  simp [dispatchWith, h, RequestContext.emit, Prog.run_bind, RequestContext.name, context]

theorem dispatchWith_ending {d : Dispatcher} {request : Request} {op : Operation}
    {handler : Handler} (h : d.provider.resolve request.type = some handler)
    (q : Scheduler World) :
    ((d.dispatchWith request op).run wait q).1 = conclude request.name
      ((d.chain.run (context request op) handler).run wait
        (d.planned (context request op) q)).1 := by
  simp only [dispatchWith, h, Prog.bind_eq, Prog.read, Prog.bind, Prog.run_get, RequestContext.emit,
    Prog.run_bind wait (Action.emit _ _), Action.run_emit]
  exact settled_ending wait (context request op) _ _

-- ---------------------------------------------------------------------------
-- The five results
-- ---------------------------------------------------------------------------

theorem conclude_ne_panicked (name : String) (ending : Ending Reply) (payload : Panic) :
    conclude name ending ≠ .panicked payload := by
  cases ending with
  | returned reply =>
    cases reply with
    | ok outcome => simp [conclude]
    | error e => cases h : e.fatalKind? <;> simp [conclude, h]
  | panicked payload => simp [conclude]
  | stalled => simp [conclude]

theorem conclude_eq_error_iff {name : String} {ending : Ending Reply} {f : Fatal} :
    conclude name ending = .returned (.error f) ↔
      ending = .returned (.error f.inner) ∧ f.inner.fatalKind? = some f.kind := by
  obtain ⟨kind, inner⟩ := f
  cases ending with
  | returned reply =>
    cases reply with
    | ok outcome => simp [conclude]
    | error e =>
      cases h : e.fatalKind? with
      | none =>
        simp only [conclude, h]
        refine ⟨fun hf => (nomatch hf), ?_⟩
        rintro ⟨heq, hkind⟩
        cases heq
        simp [h] at hkind
      | some k =>
        simp only [conclude, h, Ending.returned.injEq, Except.error.injEq, Fatal.mk.injEq]
        constructor
        · rintro ⟨rfl, rfl⟩
          exact ⟨rfl, h⟩
        · rintro ⟨rfl, hkind⟩
          exact ⟨Option.some.inj (h.symm.trans hkind), rfl⟩
  | panicked payload => simp [conclude]
  | stalled => simp [conclude]

theorem exists_conclude_eq_error_iff {name : String} {ending : Ending Reply} :
    (∃ f, conclude name ending = .returned (.error f)) ↔
      ∃ e n c, ending = .returned (.error e) ∧ e.cause? n = some c ∧
        (c = .canceled ∨ ∃ failure, c = .allocation failure) := by
  simp only [conclude_eq_error_iff]
  constructor
  · rintro ⟨f, heq, hkind⟩
    have hsome : f.inner.fatalKind?.isSome := by simp [hkind]
    obtain ⟨n, c, hc, hown⟩ := Error.fatalKind?_isSome_iff.mp hsome
    exact ⟨f.inner, n, c, heq, hc, hown⟩
  · rintro ⟨e, n, c, heq, hc, hown⟩
    obtain ⟨kind, hkind⟩ :=
      Option.isSome_iff_exists.mp (Error.fatalKind?_isSome_iff.mpr ⟨n, c, hc, hown⟩)
    exact ⟨⟨kind, e⟩, heq, hkind⟩

theorem conclude_of_fatal_cause {e c : Error} {n : Nat} {kind : FatalKind} (name : String)
    (hc : e.cause? n = some c) (hown : c.ownFatalKind? = some kind)
    (hnear : ∀ m < n, ∀ c', e.cause? m = some c' → c'.ownFatalKind? = none) :
    conclude name (.returned (.error e)) = .returned (.error ⟨kind, e⟩) :=
  conclude_eq_error_iff.mpr ⟨rfl, Error.fatalKind?_eq_some_iff.mpr ⟨n, c, hc, hown, hnear⟩⟩

theorem conclude_of_no_fatal_cause {e : Error} (name : String)
    (h : ∀ n c, e.cause? n = some c → c ≠ .canceled ∧ ∀ failure, c ≠ .allocation failure) :
    conclude name (.returned (.error e)) = .returned (.ok (.failed (.handler name e))) := by
  have hkind : e.fatalKind? = none := Error.fatalKind?_eq_none_iff.mpr fun n c hc =>
    Error.ownFatalKind?_eq_none_iff.mpr (h n c hc)
  simp [conclude, hkind]

/-- A dispatch never panics. Without a handler it fails, and the chain has no part in it. Otherwise
an outcome of the chain is the result, object and all; an error that escapes the chain is fatal
exactly if it is a cancellation or an allocation failure, or was caused by one, the kind being that
of the nearest such cause, and a failure that holds the very error if not; a panic is a failure. -/
theorem dispatchWith_classifies (d : Dispatcher) (request : Request) (op : Operation)
    (q : Scheduler World) :
    let ctx := context request op
    let result := ((d.dispatchWith request op).run wait q).1
    let ending (handler : Handler) := ((d.chain.run ctx handler).run wait (d.planned ctx q)).1
    (∀ payload, result ≠ .panicked payload) ∧
    (d.provider.resolve request.type = none →
      result = .returned (.ok (.failed (.noHandler request.name))) ∧
      ∀ chain, ({ d with chain } : Dispatcher).dispatchWith request op
        = d.dispatchWith request op) ∧
    (∀ handler, d.provider.resolve request.type = some handler →
      (∀ outcome, ending handler = .returned (.ok outcome) →
        result = .returned (.ok outcome)) ∧
      (∀ e, ending handler = .returned (.error e) →
        ((∃ f, result = .returned (.error f)) ↔
          ∃ n c, e.cause? n = some c ∧ (c = .canceled ∨ ∃ failure, c = .allocation failure)) ∧
        (∀ n c kind, e.cause? n = some c → c.ownFatalKind? = some kind →
          (∀ m < n, ∀ c', e.cause? m = some c' → c'.ownFatalKind? = none) →
          result = .returned (.error ⟨kind, e⟩)) ∧
        ((∀ n c, e.cause? n = some c → c ≠ .canceled ∧ ∀ failure, c ≠ .allocation failure) →
          result = .returned (.ok (.failed (.handler request.name e))))) ∧
      (∀ payload, ending handler = .panicked payload →
        result = .returned (.ok (.panicked request.name payload))) ∧
      (ending handler = .stalled → result = .stalled)) ∧
    ((∃ f, result = .returned (.error f)) ↔
      ∃ handler e n c, d.provider.resolve request.type = some handler ∧
        ending handler = .returned (.error e) ∧ e.cause? n = some c ∧
        (c = .canceled ∨ ∃ failure, c = .allocation failure)) := by
  intro ctx result ending
  -- With a handler, all is said by the ending of the chain.
  have hresult : ∀ handler, d.provider.resolve request.type = some handler →
      result = conclude request.name (ending handler) :=
    fun handler h => dispatchWith_ending wait h q
  have hnone : d.provider.resolve request.type = none →
      result = .returned (.ok (.failed (.noHandler request.name))) :=
    fun h => congrArg Prod.fst (dispatchWith_none wait h q)
  refine ⟨fun payload => ?_, fun h => ⟨hnone h, fun chain => ?_⟩, fun handler h => ?_, ?_⟩
  · cases h : d.provider.resolve request.type with
    | none => simp [hnone h]
    | some handler => rw [hresult handler h]; exact conclude_ne_panicked _ _ _
  · simp [dispatchWith, h]
  · rw [hresult handler h]
    refine ⟨fun outcome ho => by rw [ho]; rfl, fun e he => ?_, fun payload hp => by rw [hp]; rfl,
      fun hs => by rw [hs]; rfl⟩
    rw [he]
    refine ⟨?_, fun n c kind => conclude_of_fatal_cause request.name,
      conclude_of_no_fatal_cause request.name⟩
    simp [exists_conclude_eq_error_iff]
  · cases h : d.provider.resolve request.type with
    | none => simp [hnone h]
    | some handler => simp [hresult handler h, exists_conclude_eq_error_iff]

/-- A handler whose call of another service was canceled. -/
theorem dispatchWith_canceled_call :
    let lost := Error.wrapped "connection lost" .canceled
    let handler : Handler := fun _ _ => .done (.error lost)
    let d : Dispatcher := ⟨⟨fun _ => some handler, fun _ => []⟩, [], .development⟩
    ((d.dispatchWith default default).run Scheduler.alone (.start .empty)).1
      = .returned (.error ⟨.canceled, lost⟩) := by
  intro lost handler d
  have h := (dispatchWith_classifies Scheduler.alone d default default (.start .empty)).2.2.1
    handler rfl
  refine (h.2.1 lost rfl).2.1 1 .canceled .canceled rfl rfl fun m hm c hc => ?_
  obtain rfl : m = 0 := by omega
  cases hc
  rfl

end Dispatcher

end Mediator
