import Mediator.Intercept.Conditional
import Mediator.Intercept.Gate
import Mediator.Proofs.Dispatch.Endings
import Mediator.Proofs.Error.Wrapping
import Mediator.Proofs.Intercept.Observers
import Mediator.Proofs.Prog.Passage
import Mediator.Proofs.Publish.Panics

/-!
# Pipelines inside of pipelines

A handler or a subscriber may dispatch or publish in its turn, and pass on what is fatal. Each
`Level` of such a nesting boxes the error of the level inside of it once more, and classifies it
again. This neither loses a fatal error nor makes one, whatever the levels are and however many of
them (`fatal_survives`).
-/

namespace Mediator

variable {α β γ δ : Type} {wait : (World → Bool) → Scheduler World → Scheduler World}

-- ---------------------------------------------------------------------------
-- Fatal errors in boxes
-- ---------------------------------------------------------------------------

namespace Fatal

/-- The kind is the one that its error is classified with. -/
def Honest (f : Fatal) : Prop := f.inner.fatalKind? = some f.kind

theorem Honest.ne_none {f : Fatal} (h : f.Honest) : f.inner.fatalKind? ≠ none := by
  rw [show f.inner.fatalKind? = some f.kind from h]
  exact nofun

/-- The fatal error that comes out of so many levels through which this one is passed on. -/
def boxed (f : Fatal) : Nat → Fatal
  | 0 => f
  | k + 1 => ⟨f.kind, (f.boxed k).toError⟩

@[simp] theorem boxed_kind (f : Fatal) (k : Nat) : (f.boxed k).kind = f.kind := by
  cases k <;> rfl

theorem fatalKind?_toError (f : Fatal) : f.toError.fatalKind? = f.inner.fatalKind? :=
  Error.fatalKind?_of_sources rfl rfl

theorem Honest.boxed {f : Fatal} (h : f.Honest) (k : Nat) : (f.boxed k).Honest := by
  induction k with
  | zero => exact h
  | succ k ih => exact ((f.boxed k).fatalKind?_toError.trans ih).trans (by simp [Fatal.boxed])

theorem Honest.eq_boxed {f F : Fatal} {k : Nat} (hf : f.Honest) (hF : F.Honest)
    (h : (f.boxed k).toError = F.inner) : F = f.boxed (k + 1) := by
  obtain ⟨kind, inner⟩ := F
  obtain rfl : (f.boxed k).toError = inner := h
  have hkind : some kind = some f.kind := hF.symm.trans (hf.boxed (k + 1))
  cases hkind
  rfl

theorem boxed_boxed (f : Fatal) (m k : Nat) : (f.boxed m).boxed k = f.boxed (m + k) := by
  induction k with
  | zero => rfl
  | succ k ih => simp [boxed, ih]

theorem cause?_boxed (f : Fatal) (k : Nat) : (f.boxed k).toError.cause? k = some f.toError := by
  induction k with
  | zero => rfl
  | succ k ih => exact ih

theorem cause?_boxed_succ (f : Fatal) (k : Nat) :
    (f.boxed k).toError.cause? (k + 1) = some f.inner := by
  induction k with
  | zero => rfl
  | succ k ih => exact ih

end Fatal

-- ---------------------------------------------------------------------------
-- How fatal errors are passed on
-- ---------------------------------------------------------------------------

namespace Ending

/-- The fatal errors of the first ending, and no others, are those of the second one. -/
def Spares (E E' : Ending Reply) : Prop :=
  ∀ e, e.fatalKind? ≠ none → (E' = .returned (.error e) ↔ E = .returned (.error e))

/-- The second ending is fatal if the first one is an error that is, and in no other case. -/
def Escalates (E : Ending (Except Error α)) (E' : Ending (Except Fatal β)) : Prop :=
  ∀ f, E' = .returned (.error f) ↔ E = .returned (.error f.inner) ∧ f.Honest

/-- Where the first ending is fatal the second one is that as an error, and fatal in no other
case. -/
def PassesOn (E : Ending (Except Fatal β)) (E' : Ending (Except Error α)) : Prop :=
  ∀ e, e.fatalKind? ≠ none →
    (E' = .returned (.error e) ↔ ∃ f, E = .returned (.error f) ∧ f.toError = e)

theorem Spares.refl (E : Ending Reply) : Spares E E := fun _ _ => .rfl

theorem Spares.trans {E E' E'' : Ending Reply} (h : Spares E E') (h' : Spares E' E'') :
    Spares E E'' := fun e he => (h' e he).trans (h e he)

theorem Spares.escalates {E E' : Ending Reply} {E'' : Ending (Except Fatal β)} (h : Spares E E')
    (h' : Escalates E' E'') : Escalates E E'' := by
  intro f
  rw [h' f]
  exact and_congr_left fun hf => h f.inner hf.ne_none

end Ending

-- ---------------------------------------------------------------------------
-- Nodes that let a request pass
-- ---------------------------------------------------------------------------

/-- The node runs the rest of the chain once, and a fatal error escapes from it exactly if one
escapes from the rest. -/
inductive Intercept.Passing (wait : (World → Bool) → Scheduler World → Scheduler World)
    (ctx : RequestContext) : Intercept → Prop
  | recover : Passing wait ctx .recover
  | audit {sink : AuditSink} (h : ∀ r q, ∃ q',
      (sink.record ctx.operation r).run wait q = (.returned (), q')) :
      Passing wait ctx (.audit sink)
  | performance {sink : TelemetrySink} {threshold : Option Duration} (h : sink.Sound) :
      Passing wait ctx (.performance sink threshold)
  | validation {v : Validator} (h : ∀ q, ∃ q',
      (v.validate ctx.request).run wait q = (.returned (.success ()), q')) :
      Passing wait ctx (.validation v)
  | authorization {a : Evaluator} (h : ∀ q, ∃ q',
      (a.evaluate ctx.request.resource ctx.operation).run wait q = (.returned (.success ()), q')) :
      Passing wait ctx (.authorization a)
  | conditional {switch : Nat} {node : Intercept} (h : Passing wait ctx node) :
      Passing wait ctx (.conditional switch node)
  /-- Any other node that passes on whatever the rest ends in. -/
  | relay {node : Intercept} (h : ∀ next q, ∃ q',
      (node.intercept ctx next).Enters wait q next q' ∧
        ((node.intercept ctx next).run wait q).1 = (next.run wait q').1) : Passing wait ctx node

namespace Intercept

variable {ctx : RequestContext} {next : Action Reply} {q : Scheduler World}

/-- The program enters `next`, and spares its fatal errors. -/
def Conveys (wait : (World → Bool) → Scheduler World → Scheduler World) (p : Action Reply)
    (q : Scheduler World) (next : Action Reply) : Prop :=
  ∃ q', p.Enters wait q next q' ∧ Ending.Spares (next.run wait q').1 (p.run wait q).1

theorem Conveys.self (p : Action Reply) (q : Scheduler World) : Conveys wait p q p :=
  ⟨q, .self p q, .refl _⟩

theorem Conveys.of_leads {p p' : Action Reply} {q' : Scheduler World} (h : p.Leads wait q p' q')
    (h' : Conveys wait p' q' next) : Conveys wait p q next := by
  obtain ⟨q'', henters, hspares⟩ := h'
  exact ⟨q'', h.enters henters, by rw [h.run_eq]; exact hspares⟩

theorem Conveys.trans {p p' : Action Reply} (h : Conveys wait p q p')
    (h' : ∀ q, Conveys wait p' q next) : Conveys wait p q next := by
  obtain ⟨q', henters, hspares⟩ := h
  obtain ⟨q'', henters', hspares'⟩ := h' q'
  exact ⟨q'', henters.trans henters', hspares'.trans hspares⟩

theorem conveys_attempt_bind {post : Except Panic Reply → Action Reply}
    (hpost : ∀ r q, Ending.Spares (.ofCaught r) ((post r).run wait q).1) :
    Conveys wait (next.attempt.bind post) q next :=
  ⟨q, ⟨post, .refl⟩, Prog.Leads.refl.ending hpost (.refl _)⟩

theorem conveys_bind {f : Reply → Action Reply}
    (hf : ∀ reply q, ((f reply).run wait q).1 = .returned reply) :
    Conveys wait (next.bind f) q next := by
  rw [Prog.bind_eq_attempt_bind]
  refine conveys_attempt_bind fun r q => ?_
  cases r with
  | ok reply =>
    show Ending.Spares (.returned reply) ((f reply).run wait q).1
    rw [hf]
    exact .refl _
  | error e => exact .refl _

theorem recover_conveys : Conveys wait (recover.intercept ctx next) q next := by
  refine conveys_attempt_bind fun r q e he => ?_
  match r with
  | .ok (.ok o) => exact .rfl
  | .ok (.error e') =>
    cases hkind : e'.fatalKind? with
    | some kind =>
      simp only [Error.classify, hkind]
      exact .rfl
    | none =>
      -- Neither of the two is fatal.
      have hne : e' ≠ e := fun h => he (h ▸ hkind)
      simp [Error.classify, hkind, RequestContext.emit, Prog.run_bind, Ending.ofCaught, hne]
  | .error payload => simp [RequestContext.emit, Prog.run_bind, Ending.ofCaught]

theorem Passing.conveys {node : Intercept} (h : node.Passing wait ctx) (next : Action Reply)
    (q : Scheduler World) : Conveys wait (node.intercept ctx next) q next := by
  induction h generalizing q with
  | recover => exact recover_conveys
  | audit h =>
    refine conveys_bind fun reply q => ?_
    obtain ⟨q', hrecord⟩ := h (auditRecord ctx reply.status) q
    rw [Prog.bind_eq, Prog.run_bind, ← auditRecord, hrecord]
    rfl
  | performance h =>
    refine .of_leads (.get .refl) (conveys_bind fun reply q => ?_)
    exact run_sampling h wait _ q
  | validation h =>
    obtain ⟨q', hv⟩ := h q
    exact .of_leads (Prog.leads_bind_of_run hv _) (.self _ _)
  | authorization h =>
    obtain ⟨q', hv⟩ := h q
    exact .of_leads (Prog.leads_bind_of_run hv _) (.self _ _)
  | @conditional switch node h ih =>
    refine .of_leads (.get .refl) ?_
    cases q.state.switches switch with
    | true => exact ih q
    | false => exact .self _ _
  | relay h =>
    obtain ⟨q', henters, hsame⟩ := h next q
    exact ⟨q', henters, by rw [hsame]; exact .refl _⟩

end Intercept

theorem Chain.conveys {c : Chain} {ctx : RequestContext} (h : ∀ node ∈ c, node.Passing wait ctx)
    (handler : Handler) (q : Scheduler World) :
    Intercept.Conveys wait (c.run ctx handler) q (handler ctx.request ctx.operation) := by
  induction c generalizing q with
  | nil => exact .self _ _
  | cons node c ih =>
    obtain ⟨hnode, hc⟩ := List.forall_mem_cons.mp h
    refine .of_leads (.get .refl) ?_
    split
    · exact (hnode.conveys _ q).trans fun q => ih hc q
    · exact ih hc q

-- ---------------------------------------------------------------------------
-- One subscriber
-- ---------------------------------------------------------------------------

/-- The program that the subscriber is invoked with in this world. A panic of the call that hands
over the notification takes its place. -/
def Subscriber.program (s : Subscriber) (n : Notification) (op : Operation) (w : World) :
    Action (Except Error Unit) :=
  match (s.handle n op w).1 with
  | .ok program => program
  | .error e => .panic e

theorem Subscriber.delivery_eq_error_iff {s : Subscriber} {fate : Fate} {f : Fatal} :
    s.delivery fate = .error f ↔ fate = .ok (.error f.inner) ∧ f.Honest := by
  match fate with
  | .ok (.ok ()) => simp [delivery]
  | .ok (.error e) =>
    have hdelivery : s.delivery (.ok (.error e)) = .error f ↔ e.classify = .error f := by
      cases h : e.classify <;> simp [delivery, h]
    rw [hdelivery, Error.classify_eq_error_iff, Fatal.Honest]
    constructor
    · rintro ⟨hkind, rfl⟩
      exact ⟨rfl, hkind⟩
    · rintro ⟨heq, hkind⟩
      cases heq
      exact ⟨hkind, rfl⟩
  | .error payload => simp [delivery]

namespace Delivery

variable {strategy : Strategy}

theorem survey_singleton (h : strategy ≠ .fireAndForget) (n : Notification) (op : Operation)
    (s : Subscriber) :
    survey strategy n op [s] = (fun fate => [fate]) <$> s.observe n op := by
  have huntil : ∀ stops, surveyUntil stops n op [s] = (fun fate => [fate]) <$> s.observe n op := by
    intro stops
    rw [Prog.map_eq]
    refine congrArg _ (funext fun fate => ?_)
    cases stops (s.delivery fate) <;> rfl
  cases strategy with
  | sequential => exact huntil (·.fatal?.isSome)
  | failFast => exact huntil fun d => !d.isFine
  | parallel => exact Prog.joinAll_singleton _
  | fireAndForget => exact absurd rfl h

def closing (strategy : Strategy) (s : Subscriber) (op : Operation) (fate : Fate) :
    Action (Except Fatal (Outcome Unit)) := do
  Subscriber.report op (s.delivery fate)
  return result strategy [s] [fate]

theorem run_singleton (h : strategy ≠ .fireAndForget) (n : Notification) (op : Operation)
    (s : Subscriber) :
    run strategy n op [s] =
      (Prog.call (s.handle n op)).bind fun program =>
        program.attempt.bind (closing strategy s op) := by
  rw [run_eq h, survey_singleton h]
  simp only [Subscriber.observe, Subscriber.fate, Prog.map_eq, Prog.bind_eq, Prog.bind_assoc,
    Prog.pure_eq, Prog.done_bind]
  rfl

theorem run_closing (s : Subscriber) (op : Operation) (fate : Fate) (q : Scheduler World) :
    ((closing strategy s op fate).run wait q).1 = .returned (result strategy [s] [fate]) := by
  unfold closing
  match s.delivery fate with
  | .error f => rfl
  | .ok (.ok ()) => rfl
  | .ok (.error failure) => rfl

theorem result_singleton_eq_error_iff {s : Subscriber} {fate : Fate} {f : Fatal} :
    result strategy [s] [fate] = .error f ↔ s.delivery fate = .error f := by
  cases strategy <;> rcases hd : s.delivery fate with f' | ⟨failure | ⟨⟩⟩ <;>
    simp [result, ofFates, verdict, firstVerdict, fatal?, hd]

end Delivery

-- ---------------------------------------------------------------------------
-- Levels
-- ---------------------------------------------------------------------------

namespace Nesting

/-- A call of the pipeline, and the program that it is about: that of the handler or that of the
subscriber, which may depend on the world it is asked for in. -/
inductive Level (wait : (World → Bool) → Scheduler World → Scheduler World) :
    {α β : Type} → (World → Action (Except Error α)) → Action (Except Fatal β) → Prop
  | dispatch {d : Dispatcher} {request : Request} {op : Operation} {handler : Handler}
      (hresolve : d.provider.resolve request.type = some handler)
      (hchain : ∀ node ∈ d.chain, node.Passing wait (Dispatcher.context request op)) :
      Level wait (fun _ => handler request (Dispatcher.context request op).operation)
        (d.dispatchWith request op)
  | publish {p : Publisher} {n : Notification} {explicit : Option Strategy} {op : Operation}
      {s : Subscriber} (hsubscribers : p.provider.subscribers n.type = [s])
      (hstrategy : p.strategyFor n.type explicit ≠ .fireAndForget) :
      Level wait (s.program n (p.inner n explicit op)) (p.publishWith n explicit op)

def onward (after : β → Action (Except Error α)) : Except Fatal β → Action (Except Error α)
  | .ok b => after b
  | .error f => .done (.error f.toError)

/-- The program makes the call and passes on what is fatal. What it does before that it returns
from, and what it does afterwards is not fatal by itself. -/
def Forwards (wait : (World → Bool) → Scheduler World → Scheduler World)
    (body : Action (Except Error α)) (call : Action (Except Fatal β)) : Prop :=
  ∀ q, ∃ q' after, body.Leads wait q (call.bind (onward after)) q' ∧
    ∀ b q e, ((after b).run wait q).1 = .returned (.error e) → e.fatalKind? = none

/-- The outer call is so many levels around the inner one. -/
inductive Around (wait : (World → Bool) → Scheduler World → Scheduler World)
    (inner : Action (Except Fatal β)) : Nat → {γ : Type} → Action (Except Fatal γ) → Prop
  | refl : Around wait inner 0 inner
  | level {k : Nat} {α γ δ : Type} {call : Action (Except Fatal γ)}
      {body : World → Action (Except Error α)} {outer : Action (Except Fatal δ)}
      (h : Around wait inner k call) (hbody : ∀ w, Forwards wait (body w) call)
      (hlevel : Level wait body outer) : Around wait inner (k + 1) outer

theorem dispatch_enters {d : Dispatcher} {request : Request} {op : Operation} {handler : Handler}
    (hresolve : d.provider.resolve request.type = some handler)
    (hchain : ∀ node ∈ d.chain, node.Passing wait (Dispatcher.context request op))
    (q : Scheduler World) :
    let body := handler request (Dispatcher.context request op).operation
    ∃ q', (d.dispatchWith request op).Enters wait q body q' ∧
      Ending.Escalates (body.run wait q').1 ((d.dispatchWith request op).run wait q).1 := by
  intro body
  obtain ⟨q', henters, hspares⟩ :=
    Chain.conveys hchain handler (d.planned (Dispatcher.context request op) q)
  have hleads : (d.dispatchWith request op).Leads wait q
      ((d.chain.run (Dispatcher.context request op) handler).attempt.bind
        (Dispatcher.settle (Dispatcher.context request op)))
      (d.planned (Dispatcher.context request op) q) := by
    simp only [Dispatcher.dispatchWith, hresolve]
    exact .get (.get (.set .refl))
  refine ⟨q', Prog.Enters.trans ⟨_, hleads⟩ henters, hspares.escalates fun f => ?_⟩
  rw [Dispatcher.dispatchWith_ending wait hresolve, Dispatcher.conclude_eq_error_iff]
  rfl

theorem publish_enters {p : Publisher} {n : Notification} {explicit : Option Strategy}
    {op : Operation} {s : Subscriber} (hsubscribers : p.provider.subscribers n.type = [s])
    (hstrategy : p.strategyFor n.type explicit ≠ .fireAndForget) (q : Scheduler World) :
    ∃ w q', (p.publishWith n explicit op).Enters wait q (s.program n (p.inner n explicit op) w) q' ∧
      Ending.Escalates ((s.program n (p.inner n explicit op) w).run wait q').1
        ((p.publishWith n explicit op).run wait q).1 := by
  let inner := p.inner n explicit op
  let strategy := p.strategyFor n.type explicit
  let q₁ := p.announced n explicit op q
  have hannounced : (p.publishWith n explicit op).Leads wait q
      (Delivery.run strategy n inner [s]) q₁ := by
    have hq₁ : q₁ = q.put (q.state.emit inner.spans
        (.withCount (.debug "publishing notification" []) "subscribers" 1)) := by
      simp only [q₁, Publisher.announced, hsubscribers]
      rfl
    rw [hq₁]
    simp only [Publisher.publishWith, hsubscribers]
    exact .get (.set .refl)
  rw [Delivery.run_singleton hstrategy] at hannounced
  refine ⟨q₁.state, ?_⟩
  unfold Subscriber.program
  rcases hcall : s.handle n inner q₁.state with ⟨e | program, w⟩
  · have hleads := hannounced.trans ((Prog.leads_call_of_error hcall).bind _)
    refine ⟨q₁.put w, ⟨fun _ => .panic e, hleads⟩, fun f => ?_⟩
    rw [hleads.run_eq]
    simp [Prog.bind, Prog.run]
  · have hleads := hannounced.trans ((Prog.leads_call_of_ok hcall).bind _)
    refine ⟨q₁.put w, ⟨_, hleads⟩, hleads.ending (fun fate q f => ?_) fun f => by simp⟩
    rw [Delivery.run_closing, Ending.returned.injEq, Delivery.result_singleton_eq_error_iff,
      Subscriber.delivery_eq_error_iff]
    cases fate <;> simp [Ending.ofCaught]

theorem Level.enters {body : World → Action (Except Error α)} {call : Action (Except Fatal β)}
    (h : Level wait body call) (q : Scheduler World) :
    ∃ w q', call.Enters wait q (body w) q' ∧
      Ending.Escalates ((body w).run wait q').1 (call.run wait q).1 := by
  cases h with
  | dispatch hresolve hchain => exact ⟨q.state, dispatch_enters hresolve hchain q⟩
  | publish hsubscribers hstrategy => exact publish_enters hsubscribers hstrategy q

theorem Level.honest {body : World → Action (Except Error α)} {call : Action (Except Fatal β)}
    (h : Level wait body call) {q : Scheduler World} {f : Fatal}
    (hf : (call.run wait q).1 = .returned (.error f)) : f.Honest := by
  obtain ⟨w, q', -, hescalates⟩ := h.enters q
  exact ((hescalates f).mp hf).2

theorem Forwards.enters {body : Action (Except Error α)} {call : Action (Except Fatal β)}
    (h : Forwards wait body call) (q : Scheduler World) :
    ∃ q', body.Enters wait q call q' ∧
      Ending.PassesOn (call.run wait q').1 (body.run wait q).1 := by
  obtain ⟨q', after, hleads, hafter⟩ := h q
  rw [Prog.bind_eq_attempt_bind] at hleads
  refine ⟨q', ⟨_, hleads⟩, hleads.ending (fun r q e he => ?_) fun e _ => by simp⟩
  match r with
  | .ok (.ok b) =>
    have hnot : ((after b).run wait q).1 ≠ .returned (.error e) := fun h => he (hafter b q e h)
    simpa [Prog.onReturn, onward, Ending.ofCaught] using hnot
  | .ok (.error f) => simp [Prog.onReturn, onward, Ending.ofCaught]
  | .error payload => simp [Prog.onReturn, Prog.run, Ending.ofCaught]

/-- An outer call is fatal exactly if the inner one is, and what comes out of it is the inner fatal
error, in a box for each level. -/
theorem Around.enters {inner : Action (Except Fatal β)} {outer : Action (Except Fatal γ)} {k : Nat}
    (h : Around wait inner k outer)
    (hinner : ∀ {q f}, (inner.run wait q).1 = .returned (.error f) → f.Honest)
    (q : Scheduler World) :
    ∃ q', outer.Enters wait q inner q' ∧ ∀ F, (outer.run wait q).1 = .returned (.error F) ↔
      ∃ f, (inner.run wait q').1 = .returned (.error f) ∧ F = f.boxed k := by
  induction h generalizing q with
  | refl => exact ⟨q, .self _ _, fun F => by simp [Fatal.boxed]⟩
  | @level k α γ δ call body outer _ hbody hlevel ih =>
    obtain ⟨w, q₁, henters, hescalates⟩ := hlevel.enters q
    obtain ⟨q₂, henters', hpasses⟩ := (hbody w).enters q₁
    obtain ⟨q', henters'', hcall⟩ := ih q₂
    refine ⟨q', (henters.trans henters').trans henters'', fun F => ?_⟩
    rw [hescalates F]
    constructor
    · rintro ⟨hF, hhonest⟩
      obtain ⟨g, hg, hboxed⟩ := (hpasses F.inner hhonest.ne_none).mp hF
      obtain ⟨f, hf, rfl⟩ := (hcall g).mp hg
      exact ⟨f, hf, (hinner hf).eq_boxed hhonest hboxed⟩
    · rintro ⟨f, hf, rfl⟩
      have hhonest := (hinner hf).boxed (k + 1)
      have hcalled := (hcall (f.boxed k)).mpr ⟨f, hf, rfl⟩
      exact ⟨(hpasses _ hhonest.ne_none).mpr ⟨f.boxed k, hcalled, rfl⟩, hhonest⟩

/-- Any number of levels around a program, each of which is a dispatch through nodes that let the
request pass or a publish to one subscriber that is waited for. If the program ends in a fatal
error, every level, such as the inner and the outer one here, ends fatally with its kind, and the
causes of the outer fatal error lead to that of the inner one and to the error itself, one level at
a time. If the program ends otherwise, no level ends fatally. -/
theorem fatal_survives {leaf : World → Action (Except Error α)} {first : Action (Except Fatal β)}
    {inner : Action (Except Fatal γ)} {outer : Action (Except Fatal δ)} {m k : Nat}
    (hleaf : Level wait leaf first) (hinner : Around wait first m inner)
    (houter : Around wait inner k outer) (q : Scheduler World) :
    ∃ q₁ w q₀, outer.Enters wait q inner q₁ ∧ inner.Enters wait q₁ (leaf w) q₀ ∧
      (∀ e kind, ((leaf w).run wait q₀).1 = .returned (.error e) → e.fatalKind? = some kind →
        ∃ f F, (inner.run wait q₁).1 = .returned (.error f) ∧
          (outer.run wait q).1 = .returned (.error F) ∧ f.kind = kind ∧ F.kind = kind ∧
          F.toError.cause? k = some f.toError ∧ f.toError.cause? (m + 1) = some e ∧
          F.toError.cause? (k + m + 1) = some e) ∧
      ((∀ e, ((leaf w).run wait q₀).1 = .returned (.error e) → e.fatalKind? = none) →
        (∀ f, (inner.run wait q₁).1 ≠ .returned (.error f)) ∧
          ∀ F, (outer.run wait q).1 ≠ .returned (.error F)) := by
  have hfirst : ∀ {q f}, (first.run wait q).1 = .returned (.error f) → f.Honest :=
    fun h => hleaf.honest h
  have hhonest : ∀ {q F}, (inner.run wait q).1 = .returned (.error F) → F.Honest := by
    intro q F hF
    obtain ⟨q', -, hiff⟩ := hinner.enters hfirst q
    obtain ⟨f, hf, rfl⟩ := (hiff F).mp hF
    exact (hfirst hf).boxed m
  obtain ⟨q₁, henters, houter⟩ := houter.enters hhonest q
  obtain ⟨q₂, henters', hinner⟩ := hinner.enters hfirst q₁
  obtain ⟨w, q₀, henters'', hleaf⟩ := hleaf.enters q₂
  refine ⟨q₁, w, q₀, henters, henters'.trans henters'', fun e kind he hkind => ?_, fun hnone => ?_⟩
  · have hf := (hleaf ⟨kind, e⟩).mpr ⟨he, hkind⟩
    have hf' := (hinner _).mpr ⟨_, hf, rfl⟩
    have hF := (houter _).mpr ⟨_, hf', rfl⟩
    have hcause : (((⟨kind, e⟩ : Fatal).boxed m).boxed k).toError.cause? (k + m + 1) = some e := by
      rw [Fatal.boxed_boxed, Nat.add_comm k m]
      exact Fatal.cause?_boxed_succ ⟨kind, e⟩ (m + k)
    exact ⟨_, _, hf', hF, by simp, by simp, Fatal.cause?_boxed _ k,
      Fatal.cause?_boxed_succ ⟨kind, e⟩ m, hcause⟩
  · have hnot : ∀ f, (inner.run wait q₁).1 ≠ .returned (.error f) := by
      intro F hF
      obtain ⟨f, hf, -⟩ := (hinner F).mp hF
      obtain ⟨he, hhonest⟩ := (hleaf f).mp hf
      exact hhonest.ne_none (hnone f.inner he)
    refine ⟨hnot, fun F hF => ?_⟩
    obtain ⟨f, hf, -⟩ := (houter F).mp hF
    exact hnot f hf

/-- A handler publishes to a subscriber that is canceled. -/
theorem canceled_below_dispatch :
    let n : Notification := ⟨⟨⟨0⟩, "Paid", none⟩, .null⟩
    let op : Operation := .anonymous .development ⟨0⟩
    let ledger : Subscriber := ⟨"ledger", fun _ _ => Call.pure (.done (.error .canceled))⟩
    let p : Publisher := ⟨⟨fun _ => none, fun _ => [ledger]⟩, .parallel, .development⟩
    let handler : Handler := fun _ _ =>
      (p.publishWith n none op).bind (onward fun _ => .done (.ok (.fail "not reached")))
    let d : Dispatcher := ⟨⟨fun _ => some handler, fun _ => []⟩,
      [.recover, .audit .recording, .performance .recording none], .development⟩
    let dispatched := (d.dispatchWith default op).run Scheduler.alone (.start .empty)
    ∃ F, dispatched.1 = .returned (.error F) ∧ F.kind = .canceled ∧
      F.toError.cause? 2 = some .canceled := by
  intro n op ledger p handler d dispatched
  have hpublish : Level Scheduler.alone (ledger.program n (p.inner n none op))
      (p.publishWith n none op) := .publish rfl nofun
  have hpassing : ∀ node ∈ d.chain,
      node.Passing Scheduler.alone (Dispatcher.context default op) := by
    intro node hnode
    simp only [d, List.mem_cons, List.not_mem_nil, or_false] at hnode
    rcases hnode with rfl | rfl | rfl
    · exact .recover
    · exact .audit fun _ _ => ⟨_, rfl⟩
    · exact .performance TelemetrySink.recording_sound
  have hdispatch : Level Scheduler.alone _ (d.dispatchWith default op) :=
    .dispatch (show d.provider.resolve _ = some handler from rfl) hpassing
  have hforwards : Forwards Scheduler.alone (handler default op) (p.publishWith n none op) :=
    fun q => ⟨q, _, .refl, fun _ _ _ h => by cases h⟩
  obtain ⟨q₁, w, q₀, -, -, hfatal, -⟩ :=
    fatal_survives hpublish .refl (.level .refl (fun _ => hforwards) hdispatch) (.start .empty)
  obtain ⟨f, F, -, hF, -, hkind, -, -, hcause⟩ := hfatal .canceled .canceled rfl rfl
  exact ⟨F, hF, hkind, hcause⟩

end Nesting

end Mediator
