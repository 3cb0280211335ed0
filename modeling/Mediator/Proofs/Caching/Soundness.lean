import Mediator.Dispatch
import Mediator.Proofs.Caching.Ledger
import Mediator.Standard

/-!
# Programs that use the store through caching nodes

`Cached V` are the programs in which only the visits of caching nodes touch the store; the visits
are among `V`. Dispatches through a standard chain are of this kind if its collaborators are.
Whatever such programs do, one by one or interleaved, a ledger accounts for it
(`Cached.accountable`), and so the store balances with a ledger in every world that comes to be.
-/

namespace Mediator

-- ---------------------------------------------------------------------------
-- Quiet programs
-- ---------------------------------------------------------------------------

/-- Every change that the task makes is quiet, in whatever worlds it has its turns. -/
def Task.Quiet : Task World → World → Prop
  | .done, _ => True
  | .get k, w => (k w).Quiet w
  | .set w' next, w => w.Quiet w' ∧ next.Quiet w'
  | .spawn task next, w => (∀ w', task.Quiet w') ∧ next.Quiet w
  | .pause _ next, _ => ∀ w', next.Quiet w'

def Prog.Quiet {α : Type} : Action α → World → Prop
  | .done _, _ => True
  | .panic _, _ => True
  | .get k, w => (k w).Quiet w
  | .set w' next, w => w.Quiet w' ∧ next.Quiet w'
  | .spawn task next, w => (∀ w', task.Quiet w') ∧ next.Quiet w
  | .pause _ next, _ => ∀ w', next.Quiet w'

theorem World.Quiet.emit (w : World) (spans : List Span) (e : Event) : w.Quiet (w.emit spans e) :=
  ⟨by simp, by simp [Instant.before]⟩

variable {α : Type} {V : Visit → Prop} {x : Ledger × World}

theorem Task.Quiet.accountable {t : Task World} (h : t.Quiet x.2) :
    t.Accountable (Ledger.Step V) x := by
  induction t generalizing x with
  | done => trivial
  | get k ih => exact ih x.2 h
  | set w' next ih => exact ⟨_, .quiet h.1, ih h.2⟩
  | spawn task next iht ih => exact ⟨fun y _ => iht (h.1 y.2), ih h.2⟩
  | pause ready next ih => exact fun y _ _ => ih (h y.2)

theorem Prog.Quiet.accountable {p : Action α} (h : p.Quiet x.2) :
    p.Accountable (Ledger.Step V) (fun _ _ => True) x := by
  induction p generalizing x with
  | done a => trivial
  | panic e => trivial
  | get k ih => exact ih x.2 h
  | set w' next ih => exact ⟨_, .quiet h.1, ih h.2⟩
  | spawn task next ih => exact ⟨fun y _ => (h.1 y.2).accountable, ih h.2⟩
  | pause ready next ih => exact fun y _ _ => ih (h y.2)

-- ---------------------------------------------------------------------------
-- Cached programs
-- ---------------------------------------------------------------------------

inductive Cached (V : Visit → Prop) : {α : Type} → Action α → Prop
  | quiet {α : Type} {p : Action α} (h : ∀ w, p.Quiet w) : Cached V p
  | visit {v : Visit} (hv : V v) (h : Cached V v.inner) : Cached V v.program
  | bind {α β : Type} {p : Action α} {f : α → Action β} (hp : Cached V p)
      (hf : ∀ a, Cached V (f a)) : Cached V (p.bind f)
  | attempt {α : Type} {p : Action α} (h : Cached V p) : Cached V p.attempt
  | guard {α : Type} {p : Action α} (flag : World → Bool) (h : Cached V p) :
      Cached V (p.guard flag)
  | both {α β : Type} {p : Action α} {q : Action β} (hp : Cached V p) (hq : Cached V q) :
      Cached V (p.both q)
  | spawn {α : Type} {p : Action α} (h : Cached V p) : Cached V (.spawn p.detach (.done ()))

namespace Visit

variable {v : Visit} {key : String}

theorem emit_accountable (ctx : RequestContext) (e : Event) :
    (ctx.emit e).Accountable (Ledger.Step V) (fun _ _ => True) x :=
  Prog.Quiet.accountable ⟨.emit x.2 ctx.operation.spans e, trivial⟩

theorem keep_accountable (hv : V v) (hkey : v.key? = some key) {reply : Reply}
    (h : v.inner.Returned (Ledger.passed x) reply) :
    (v.keep key reply).Accountable (Ledger.Step V) (fun _ _ => True) x := by
  unfold keep
  split
  · next value =>
    have hset : (ResponseCache.memory.set key value v.lasts).Accountable (Ledger.Step V)
        (fun _ _ => True) x := by
      simp only [ResponseCache.memory, Prog.Accountable, Store.keep?]
      cases hexpires : x.2.now.add? v.lasts with
      | none => trivial
      | some t =>
        -- A stored response is a deposit: the inner part has returned it in this history.
        have hgenuine : (⟨v, key, value, x.2.now, t⟩ : Deposit).Genuine V (Ledger.passed x) :=
          ⟨hv, hkey, h, ⟨x.2, Ledger.mem_passed x, rfl⟩, hexpires⟩
        exact ⟨_, .deposit hgenuine rfl, trivial⟩
    exact hset.seq fun _ _ => (emit_accountable v.ctx _).seq fun _ _ => trivial
  · trivial

theorem program_accountable (hv : V v)
    (h : ∀ y, v.inner.Accountable (Ledger.Step V) (fun _ _ => True) y) :
    v.program.Accountable (Ledger.Step V) (fun _ _ => True) x := by
  cases hkey : v.key? with
  | none =>
    rw [program_of_no_key hkey]
    exact h x
  | some key =>
    have hmiss (y : Ledger × World) :
        (v.inner.bind (v.keep key)).Accountable (Ledger.Step V) (fun _ _ => True) y := by
      have hinner := (h y).returned (fun _ _ hstep => hstep.passed) Ledger.mem_passed
      exact hinner.bind (fun reply z hz => keep_accountable hv hkey (hz reply rfl))
        fun _ _ _ => trivial
    rw [program_of_key hkey]
    refine ⟨_, .look x.1 x.2 key, ?_⟩
    split
    · split
      · exact (emit_accountable v.ctx _).seq fun _ _ => trivial
      · exact (emit_accountable v.ctx _).seq fun _ => hmiss
    · exact hmiss _

end Visit

namespace Cached

theorem accountable {p : Action α} (h : Cached V p) (x : Ledger × World) :
    p.Accountable (Ledger.Step V) (fun _ _ => True) x := by
  induction h generalizing x with
  | quiet h => exact (h x.2).accountable
  | visit hv _ ih => exact Visit.program_accountable hv ih
  | bind _ _ ihp ihf => exact (ihp x).seq ihf
  | attempt _ ih => exact (ih x).attempt
  | guard flag _ ih => exact (ih x).guard flag
  | both _ _ ihp ihq => exact (ihp x).both fun y _ => ihq y
  | spawn _ ih => exact ⟨fun y _ => (ih y).detach, trivial⟩

-- ---------------------------------------------------------------------------
-- Dispatches
-- ---------------------------------------------------------------------------

theorem done (a : α) : Cached V (.done a) := .quiet fun _ => trivial

theorem read : Cached V Prog.read := .quiet fun _ => trivial

theorem get {k : World → Action α} (h : ∀ w, Cached V (k w)) : Cached V (.get k) := .bind .read h

theorem emit (spans : List Span) (e : Event) : Cached V (Action.emit spans e) :=
  .quiet fun w => ⟨.emit w spans e, trivial⟩

theorem call {c : Call World α} (h : ∀ w : World, w.Quiet (c w).2) : Cached V (Prog.call c) := by
  refine .quiet fun w => ?_
  have hw := h w
  simp only [Prog.call, Prog.Quiet]
  generalize c w = ending at hw
  rcases ending with ⟨_ | _, w'⟩ <;> exact ⟨hw, trivial⟩

end Cached

/-- Around a rest that uses the store through caching nodes only, the intercept does so too. -/
def Intercept.Steady (V : Visit → Prop) (node : Intercept) : Prop :=
  ∀ ctx next, Cached V next → Cached V (node.intercept ctx next)

theorem Cached.run {c : Chain} {handler : Handler} (hc : ∀ node ∈ c, node.Steady V)
    (h : ∀ request op, Cached V (handler request op)) (ctx : RequestContext) :
    Cached V (c.run ctx handler) := by
  induction c with
  | nil => exact h _ _
  | cons node rest ih =>
    rw [List.forall_mem_cons] at hc
    refine .get fun w => ?_
    split
    · exact hc.1 ctx _ (ih hc.2)
    · exact ih hc.2

theorem Cached.dispatchWith {d : Dispatcher} (hchain : ∀ node ∈ d.chain, node.Steady V)
    (hhandlers : ∀ type handler, d.provider.resolve type = some handler →
      ∀ request op, Cached V (handler request op)) (request : Request) (op : Operation) :
    Cached V (d.dispatchWith request op) := by
  unfold Dispatcher.dispatchWith
  cases hresolve : d.provider.resolve request.type with
  | none => exact .bind (.emit _ _) fun _ => .done _
  | some handler =>
    refine .bind .read fun w => .bind (.emit _ _) fun _ => .bind ?_ fun ending => ?_
    · exact (Cached.run hchain (hhandlers _ _ hresolve) _).attempt
    · unfold Dispatcher.settle
      split
      · exact .done _
      · split <;> exact .bind (.emit _ _) fun _ => .done _
      · exact .bind (.emit _ _) fun _ => .done _

-- ---------------------------------------------------------------------------
-- The standard chain
-- ---------------------------------------------------------------------------

namespace Intercept

theorem steady_caching {expiration : Duration} (hV : ∀ ctx inner, V ⟨expiration, ctx, inner⟩) :
    (caching .memory expiration).Steady V :=
  fun ctx next h => .visit (v := ⟨expiration, ctx, next⟩) (hV ctx next) h

theorem steady_conditional {node : Intercept} (h : node.Steady V) (switch : Nat) :
    (conditional switch node).Steady V := by
  refine fun ctx next hnext => .get fun w => ?_
  split
  · exact h ctx next hnext
  · exact hnext

theorem steady_validation {v : Validator} (h : ∀ request, Cached V (v.validate request)) :
    (validation v).Steady V := by
  refine fun ctx next hnext => .bind (h _) fun outcome => ?_
  cases outcome with
  | success => exact hnext
  | failure e => exact .bind (.emit _ _) fun _ => .done _

theorem steady_authorization {a : Evaluator}
    (h : ∀ resource op, Cached V (a.evaluate resource op)) : (authorization a).Steady V := by
  refine fun ctx next hnext => .bind (h _ _) fun outcome => ?_
  cases outcome with
  | success => exact hnext
  | failure e => exact .bind (.emit _ _) fun _ => .done _

theorem steady_audit {sink : AuditSink} (h : ∀ op record, Cached V (sink.record op record)) :
    (audit sink).Steady V :=
  fun _ _ hnext => .bind hnext fun _ => .bind (h _ _) fun _ => .done _

theorem steady_performance {sink : TelemetrySink}
    (h : ∀ op sample (w : World), w.Quiet (sink.record op sample w).2)
    (threshold : Option Duration) : (performance sink threshold).Steady V := by
  refine fun ctx next hnext => .bind .read fun w => .bind hnext fun reply => ?_
  refine .bind .read fun w' => ?_
  refine .bind (.call (h _ _)) fun _ => ?_
  cases threshold with
  | none => exact .done _
  | some d =>
    dsimp only
    split
    · exact .bind (.emit _ _) fun _ => .done _
    · exact .done _

end Intercept

/-- The collaborators of the standard intercepts use the store, if at all, through caching nodes. -/
structure Parts.Steady (V : Visit → Prop) (parts : Parts) : Prop where
  validator : ∀ request, Cached V (parts.validator.validate request)
  audit : ∀ op record, Cached V (parts.audit.record op record)
  evaluator : ∀ resource op, Cached V (parts.evaluator.evaluate resource op)
  telemetry : ∀ op sample (w : World), w.Quiet (parts.telemetry.record op sample w).2
  cache : parts.cache = .memory

theorem Intercept.steady_switched {nodes : List (Bool × Intercept)}
    (h : ∀ node ∈ nodes, node.2.Steady V) (first : Nat) :
    ∀ node ∈ switched first nodes, node.Steady V := by
  induction nodes generalizing first with
  | nil => exact List.forall_mem_nil _
  | cons node rest ih =>
    rw [List.forall_mem_cons] at h
    exact List.forall_mem_cons.mpr ⟨steady_conditional h.1 first, ih h.2 (first + 1)⟩

theorem Parts.Steady.standardChain {parts : Parts} (h : parts.Steady V) {c : Config}
    (hV : ∀ ctx inner, V ⟨c.expiration, ctx, inner⟩) {first : Nat} {chain : Chain}
    (hchain : standardChain c parts first = .ok chain) : ∀ node ∈ chain, node.Steady V := by
  have hnodes : ∀ node ∈ standardNodes c parts, node.2.Steady V := by
    simp only [standardNodes, h.cache, List.forall_mem_cons]
    exact ⟨Intercept.steady_validation h.validator, Intercept.steady_audit h.audit,
      Intercept.steady_authorization h.evaluator, Intercept.steady_performance h.telemetry _,
      Intercept.steady_caching hV, List.forall_mem_nil _⟩
  rw [standardChain_eq hchain]
  exact Intercept.steady_switched hnodes first

-- ---------------------------------------------------------------------------
-- Crews
-- ---------------------------------------------------------------------------

section
variable {ι : Type} [DecidableEq ι] {programs : ι → Action α} {others : World → World → Prop}
  {w₀ : World} {c : Crew ι World α}

theorem Crew.Reaches.history (hothers : ∀ w w', others w w' → w.Quiet w')
    (hprograms : ∀ i, Cached V (programs i))
    (h : Crew.Reaches others (.start programs w₀) c) :
    ∃ g, Ledger.History V w₀ g c.state ∧ g.past = c.past :=
  h.accountable (fun _ _ hstep => hstep.past)
    (fun x w hw => ⟨_, .quiet (hothers x.2 w hw)⟩) (fun i x => (hprograms i).accountable x) rfl

theorem Crew.Reaches.balances_through (hothers : ∀ w w', others w w' → w.Quiet w')
    (hprograms : ∀ i, Cached V (programs i)) (hempty : w₀.store = .empty)
    (h : Crew.Reaches others (.start programs w₀) c) {before after : List World} {w : World}
    (hpassed : c.passed = before ++ w :: after) :
    ∃ deposits, Ledger.History V w₀ ⟨before, deposits⟩ w ∧
      Ledger.Balances V ⟨before, deposits⟩ w := by
  obtain ⟨g, hhistory, hpast⟩ := h.history hothers hprograms
  have hg : Ledger.passed (g, c.state) = before ++ w :: after := by
    rw [← hpassed, Ledger.passed, hpast]
    rfl
  obtain ⟨deposits, hthere⟩ := hhistory.through hg
  exact ⟨deposits, hthere, hthere.balances hempty⟩

/-- Visits of a caching node deal with their inner parts and with the store as they should; and
whatever programs that use the store through such visits do from an empty store on, one by one or
interleaved, every change of the store is a look-up or a deposit, and the store always balances. -/
theorem Crew.Reaches.responses_sound (hothers : ∀ w w', others w w' → w.Quiet w')
    (hprograms : ∀ i, Cached V (programs i)) (hempty : w₀.store = .empty)
    (h : Crew.Reaches others (.start programs w₀) c) :
    (∀ v : Visit, v.Faithful) ∧
      ∀ before w after, c.passed = before ++ w :: after →
        ∃ deposits, Ledger.History V w₀ ⟨before, deposits⟩ w ∧
          Ledger.Balances V ⟨before, deposits⟩ w :=
  ⟨Visit.faithful, fun _ _ _ hpassed => h.balances_through hothers hprograms hempty hpassed⟩

end

/-- Two dispatches of one order through the standard chain: the handler is called once. -/
theorem Crew.one_order_twice :
    let order : Request := { Request.plain ⟨⟨0⟩, "shop::Order", .full, .int⟩ .null with
      cacheKey := some "7" }
    let handler : Handler := fun _ _ => (Prog.modify (·.count 0)).bind fun _ =>
      .done (.ok (.success (.int 42)))
    let parts : Parts := ⟨⟨fun _ => .done .completed⟩, .recording,
      ⟨fun _ _ => .done .completed⟩, .recording, .memory⟩
    let d : Dispatcher :=
      ⟨⟨fun _ => some handler, fun _ => []⟩, switched 0 (standardNodes default parts), .development⟩
    let dispatch := d.dispatchWith order default
    let c := ((start (fun _ : Bool => dispatch) .empty).turn false dispatch).turn true dispatch
    c.state.tally 0 = 1 ∧ c.state.store = ⟨[("shop::Order::7", ⟨.int 42, ⟨300000000000⟩⟩)]⟩ ∧
      ∃ deposits, Ledger.Balances (fun _ => True) ⟨c.past, deposits⟩ c.state := by
  intro order handler parts d dispatch c
  refine ⟨by decide +kernel, by decide +kernel, ?_⟩
  have hquiet (w : World) (o : Operation) (s : Sample) : w.Quiet (parts.telemetry.record o s w).2 :=
    ⟨rfl, by simp [parts, TelemetrySink.recording, Call.modify, Instant.before]⟩
  have hparts : parts.Steady fun _ => True :=
    ⟨fun _ => .done _, fun _ _ => .quiet fun w => ⟨⟨rfl, by simp [Instant.before]⟩, trivial⟩,
      fun _ _ => .done _, fun o s w => hquiet w o s, rfl⟩
  have hdispatch : Cached (fun _ => True) dispatch := by
    refine .dispatchWith (hparts.standardChain (c := default) (fun _ _ => trivial) rfl) ?_ order _
    intro type h hresolve request op
    obtain rfl : handler = h := Option.some.inj hresolve
    exact .quiet fun w => ⟨⟨rfl, by simp [World.count, Instant.before]⟩, trivial⟩
  have hc : Reaches World.Quiet (start (fun _ : Bool => dispatch) .empty) c :=
    .tail (.tail .refl (.turn rfl rfl)) (.turn rfl rfl)
  obtain ⟨-, hsound⟩ := hc.responses_sound (fun _ _ h => h) (fun _ => hdispatch) rfl
  obtain ⟨deposits, -, hbalances⟩ := hsound c.past c.state [] rfl
  exact ⟨deposits, hbalances⟩

end Mediator
