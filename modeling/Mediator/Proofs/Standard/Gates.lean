import Mediator.Proofs.Intercept.Observers
import Mediator.Proofs.Prog.Blind
import Mediator.Standard

/-!
# The gates of the standard chain

Validation and authorization stand before everything that could answer a request: the handler, and
the cache. Authorization, but not validation, stands inside the audit. A request that a gate stops
ends in the failure of that gate, and what is behind the gates has no part in it: with another
handler, another cache or other stored responses the dispatch takes the same course, unless both
gates let the request pass (`Dispatcher.stopped_alike`). While the switches stand as they have been
set, the toggles of the configuration decide which gates there are (`toggles_decide`).
-/

namespace Mediator

open Intercept

variable {ctx : RequestContext} {handler handler' : Handler} {w w' w₂ w₃ : World}
  {ws ws' ws₂ ws₃ : List World} {l l₂ l₃ : List (Task World)}

-- ---------------------------------------------------------------------------
-- Nodes behind switches
-- ---------------------------------------------------------------------------

namespace Chain

/-- The intercept is asked twice whether it takes part, but in the same world. -/
theorem run_conditional_along (i : Nat) (node : Intercept) (rest : Chain) :
    (run (conditional i node :: rest) ctx handler).along w ws =
      if (w.switches i && node.appliesTo w ctx.capabilities) = true then
        (node.intercept ctx (rest.run ctx handler)).along w ws
      else (rest.run ctx handler).along w ws := by
  show (Prog.get _).along w ws = _
  cases h : w.switches i with
  | false => simp [conditional, h]
  | true =>
    by_cases happlies : node.appliesTo w ctx.capabilities = true <;>
      simp [conditional, h, happlies]

theorem plan_cons (node : Intercept) (rest : Chain) (w : World) (caps : Capabilities) :
    plan (node :: rest) w caps =
      (if node.appliesTo w caps = true then [node.name] else []) ++ rest.plan w caps := by
  rw [plan_eq, plan_eq, applicable, applicable, List.filter_cons]
  split <;> rfl

end Chain

-- ---------------------------------------------------------------------------
-- Two gates
-- ---------------------------------------------------------------------------

def gates (parts : Parts) (first : Nat) : Chain := [
  conditional first (validation parts.validator),
  conditional (first + 1) (audit parts.audit),
  conditional (first + 2) (authorization parts.evaluator)]

def behindGates (c : Config) (parts : Parts) (first : Nat) : Chain := [
  conditional (first + 3) (performance parts.telemetry c.threshold?),
  conditional (first + 4) (caching parts.cache c.expiration)]

theorem switched_standardNodes (c : Config) (parts : Parts) (first : Nat) :
    switched first (standardNodes c parts) = gates parts first ++ behindGates c parts first := rfl

def isAudited (first : Nat) (ctx : RequestContext) (w : World) : Bool :=
  w.switches (first + 1) && ctx.capabilities.auditable

def isGuarded (first : Nat) (ctx : RequestContext) (w : World) : Bool :=
  w.switches (first + 2) && ctx.capabilities.authorizable

/-- While its switches stand as they have been set, the plan of the chain has the nodes whose
toggles are on. -/
theorem plan_switched {first : Nat} {nodes : List (Bool × Intercept)} {w v : World}
    (h : v.switches = (setSwitches first nodes w).switches) (caps : Capabilities) :
    Chain.plan (switched first nodes) v caps =
      (nodes.filter fun (on, node) => on && node.appliesTo v caps).map fun (_, node) => node.name
    := by
  induction nodes generalizing first w with
  | nil => rfl
  | cons x rest ih =>
    obtain ⟨on, node⟩ := x
    have hon : v.switches first = on := by
      rw [h]
      exact switches_setSwitches (i := 0) rfl
    rw [switched, Chain.plan_cons, ih h, List.filter_cons]
    by_cases hpart : (on && node.appliesTo v caps) = true <;> simp [conditional, hon, hpart]

theorem toggles_decide {c : Config} {parts : Parts} {first : Nat} {w v : World}
    (h : v.switches = (setSwitches first (standardNodes c parts) w).switches)
    (ctx : RequestContext) :
    v.switches first = c.toggles.validation ∧
      isAudited first ctx v = (c.toggles.audit && ctx.capabilities.auditable) ∧
      isGuarded first ctx v = (c.toggles.authorization && ctx.capabilities.authorizable) := by
  have hswitch {i : Nat} {on : Bool} {node : Intercept}
      (hi : (standardNodes c parts)[i]? = some (on, node)) : v.switches (first + i) = on := by
    rw [h]
    exact switches_setSwitches hi
  refine ⟨hswitch (i := 0) rfl, ?_, ?_⟩
  · rw [isAudited, hswitch (i := 1) rfl]
  · rw [isGuarded, hswitch (i := 2) rfl]

/-- In these turns the request comes past validation, which may have started some tasks. -/
inductive Admitted (parts : Parts) (first : Nat) (ctx : RequestContext) :
    World → List World → World → List World → List (Task World) → Prop
  | unchecked {w : World} {ws : List World} (h : w.switches first = false) :
      Admitted parts first ctx w ws w ws []
  | valid {w w' : World} {ws ws' : List World} {l : List (Task World)}
      (h : w.switches first = true)
      (hvalid : (parts.validator.validate ctx.request).along w ws =
        ⟨.returned (.success ()), w', ws', l⟩) : Admitted parts first ctx w ws w' ws' l

inductive Allowed (parts : Parts) (first : Nat) (ctx : RequestContext) :
    World → List World → Prop
  | unguarded {w : World} {ws : List World} (h : isGuarded first ctx w = false) :
      Allowed parts first ctx w ws
  | allowed {w : World} {ws : List World} (h : isGuarded first ctx w = true)
      (hallowed : ((parts.evaluator.evaluate ctx.request.resource ctx.operation).along w
        ws).progress = .returned (.success ())) : Allowed parts first ctx w ws

def Passes (parts : Parts) (first : Nat) (ctx : RequestContext) (w : World) (ws : List World) :
    Prop :=
  ∃ w' ws' l, Admitted parts first ctx w ws w' ws' l ∧ Allowed parts first ctx w' ws'

def rejected (ctx : RequestContext) (e : Shared MediatorError) (w : World) : World :=
  w.emit ctx.operation.spans (.debug "request rejected by validation"
    [("request", ctx.name), ("error", e.value.text)])

def denied (ctx : RequestContext) (e : Shared MediatorError) (w : World) : World :=
  w.emit ctx.operation.spans (.debug "access denied"
    [("request", ctx.name), ("resource", ctx.request.resource.text), ("error", e.value.text)])

theorem rejection_kind (e : Shared MediatorError) : (rejection e).value.kind = .validation := by
  unfold rejection
  split
  · next h => simpa using h
  · rfl

theorem denial_kind (resource : Resource) (e : Shared MediatorError) :
    (denial resource e).value.kind = .forbidden := by
  unfold denial
  split
  · next h => simpa using h
  · rfl

section
variable {parts : Parts} {first : Nat} {e : Shared MediatorError} {rest : Chain}

theorem validation_along :
    (Chain.run (conditional first (validation parts.validator) :: rest) ctx handler).along w ws =
      if w.switches first = true then
        ((validation parts.validator).intercept ctx (rest.run ctx handler)).along w ws
      else (rest.run ctx handler).along w ws := by
  rw [Chain.run_conditional_along]
  simp [validation]

theorem audit_along :
    (Chain.run (conditional (first + 1) (audit parts.audit) :: rest) ctx handler).along w ws =
      if isAudited first ctx w = true then
        ((audit parts.audit).intercept ctx (rest.run ctx handler)).along w ws
      else (rest.run ctx handler).along w ws :=
  Chain.run_conditional_along ..

theorem authorization_along :
    (Chain.run (conditional (first + 2) (authorization parts.evaluator) :: rest) ctx handler).along
        w ws =
      if isGuarded first ctx w = true then
        ((authorization parts.evaluator).intercept ctx (rest.run ctx handler)).along w ws
      else (rest.run ctx handler).along w ws :=
  Chain.run_conditional_along ..

theorem Admitted.unique (h : Admitted parts first ctx w ws w' ws' l)
    (h₂ : Admitted parts first ctx w ws w₂ ws₂ l₂) : w' = w₂ ∧ ws' = ws₂ := by
  cases h with
  | unchecked hoff =>
    cases h₂ with
    | unchecked => exact ⟨rfl, rfl⟩
    | valid hon => simp [hoff] at hon
  | valid hon hvalid =>
    cases h₂ with
    | unchecked hoff => simp [hoff] at hon
    | valid _ hvalid₂ =>
      rw [hvalid] at hvalid₂
      cases hvalid₂
      exact ⟨rfl, rfl⟩

theorem not_passes_of_rejected (h : w.switches first = true)
    (hvalidate : (parts.validator.validate ctx.request).along w ws =
      ⟨.returned (.failure e), w', ws', l⟩) : ¬ Passes parts first ctx w ws := by
  rintro ⟨t, ts, m, hoff | ⟨-, hvalid⟩, -⟩
  · simp [h] at hoff
  · rw [hvalidate] at hvalid
    cases hvalid

theorem not_passes_of_denied (hadmitted : Admitted parts first ctx w ws w' ws' l)
    (h : isGuarded first ctx w' = true)
    (hevaluate : (parts.evaluator.evaluate ctx.request.resource ctx.operation).along w' ws' =
      ⟨.returned (.failure e), w₂, ws₂, l₂⟩) : ¬ Passes parts first ctx w ws := by
  rintro ⟨t, ts, m, hadmitted', hallowed⟩
  obtain ⟨rfl, rfl⟩ := hadmitted.unique hadmitted'
  obtain hunguarded | ⟨-, hallowed⟩ := hallowed
  · simp [h] at hunguarded
  · rw [hevaluate] at hallowed
    cases hallowed

theorem gates_along_of_rejected (h : w.switches first = true)
    (hvalidate : (parts.validator.validate ctx.request).along w ws =
      ⟨.returned (.failure e), w', ws', l⟩) :
    ((gates parts first).run ctx handler).along w ws =
      ⟨.returned (.ok (.failure (rejection e))), rejected ctx e w', ws', l⟩ := by
  rw [gates, validation_along, if_pos h]
  simp [validation, Prog.along_bind, hvalidate, RequestContext.emit, rejected]

theorem gates_along_of_admitted (h : Admitted parts first ctx w ws w' ws' l) :
    ((gates parts first).run ctx handler).along w ws =
      ((Chain.run (gates parts first).tail ctx handler).along w' ws').after l := by
  rw [gates, validation_along]
  cases h with
  | unchecked h =>
    rw [if_neg (by simp [h])]
    rfl
  | valid h hvalid =>
    rw [if_pos h]
    simp [validation, Prog.along_bind, hvalid]

theorem authorization_along_of_denied (handler : Handler) (h : isGuarded first ctx w = true)
    (hevaluate : (parts.evaluator.evaluate ctx.request.resource ctx.operation).along w ws =
      ⟨.returned (.failure e), w', ws', l⟩) :
    (Chain.run [conditional (first + 2) (authorization parts.evaluator)] ctx handler).along w ws =
      ⟨.returned (.ok (.failure (denial ctx.request.resource e))), denied ctx e w', ws', l⟩ := by
  rw [authorization_along, if_pos h]
  simp [authorization, Prog.along_bind, hevaluate, RequestContext.emit, denied]

theorem gates_along_of_denied (hadmitted : Admitted parts first ctx w ws w' ws' l)
    (h : isGuarded first ctx w' = true)
    (hevaluate : (parts.evaluator.evaluate ctx.request.resource ctx.operation).along w' ws' =
      ⟨.returned (.failure e), w₂, ws₂, l₂⟩) :
    (isAudited first ctx w' = false → ((gates parts first).run ctx handler).along w ws =
      ⟨.returned (.ok (.failure (denial ctx.request.resource e))), denied ctx e w₂, ws₂,
        l ++ l₂⟩) ∧
    (isAudited first ctx w' = true → ∀ w₃ ws₃ l₃,
      (parts.audit.record ctx.operation (auditRecord ctx .failure)).along (denied ctx e w₂) ws₂ =
        ⟨.returned (), w₃, ws₃, l₃⟩ →
      ((gates parts first).run ctx handler).along w ws =
        ⟨.returned (.ok (.failure (denial ctx.request.resource e))), w₃, ws₃,
          l ++ (l₂ ++ l₃)⟩) := by
  have hdenied := authorization_along_of_denied handler h hevaluate
  rw [gates_along_of_admitted hadmitted, gates, List.tail_cons, audit_along]
  constructor
  · intro haudited
    rw [if_neg (by simp [haudited]), hdenied]
    rfl
  · intro haudited w₃ ws₃ l₃ hrecord
    rw [if_pos haudited, audit_returned_iff.mpr ⟨_, _, _, _, hdenied, hrecord, rfl⟩]
    rfl

end

-- ---------------------------------------------------------------------------
-- Stopped requests
-- ---------------------------------------------------------------------------

structure Respects (R : World → World → Prop) : Prop where
  switches {w w' : World} (h : R w w') : w.switches = w'.switches
  emit {w w' : World} (h : R w w') (spans : List Span) (e : Event) :
    R (w.emit spans e) (w'.emit spans e)

theorem respects_eq : Respects Eq where
  switches h := h ▸ rfl
  emit h _ _ := h ▸ rfl

def SameButStore (w w' : World) : Prop := { w with store := w'.store } = w'

theorem respects_sameButStore : Respects SameButStore where
  switches h := by rw [← h]
  emit {w w'} h spans e := by
    rw [← show { w with store := w'.store } = w' from h, SameButStore]
    unfold World.emit
    dsimp only
    split
    · rfl
    · split <;> rfl

/-- Those that are asked at the gates, and the audit, are blind to what `R` leaves open. -/
structure Parts.Blind (R : World → World → Prop) (parts : Parts) : Prop where
  validator (request : Request) : (parts.validator.validate request).Blind R
  evaluator (resource : Resource) (op : Operation) : (parts.evaluator.evaluate resource op).Blind R
  audit (op : Operation) (record : AuditRecord) : (parts.audit.record op record).Blind R

theorem Parts.blind_eq (parts : Parts) : parts.Blind Eq :=
  ⟨fun _ => Prog.blind_eq _, fun _ _ => Prog.blind_eq _, fun _ _ => Prog.blind_eq _⟩

section
variable {R : World → World → Prop} {parts : Parts} {first : Nat}

theorem Respects.blind_emit (hR : Respects R) (spans : List Span) (e : Event) :
    (Action.emit spans e).Blind R :=
  fun _ _ _ _ hw hws => ⟨rfl, hR.emit hw spans e, hws, rfl⟩

theorem Respects.blind_report {α : Type} (hR : Respects R) (spans : List Span) (e : Event) (a : α) :
    ((Action.emit spans e).bind fun _ => Prog.done a).Blind R :=
  (hR.blind_emit spans e).bind fun _ => Prog.blind_done a

theorem authorization_alike (handler handler' : Handler) (hR : Respects R) (hparts : parts.Blind R)
    (hstopped : ¬ Allowed parts first ctx w ws) (hw : R w w') (hws : List.Forall₂ R ws ws') :
    let gate := conditional (first + 2) (authorization parts.evaluator)
    Alike R ((Chain.run [gate] ctx handler).along w ws)
      ((Chain.run [gate] ctx handler').along w' ws') := by
  intro gate
  rw [authorization_along, authorization_along]
  have hsame : isGuarded first ctx w' = isGuarded first ctx w := by
    rw [isGuarded, isGuarded, hR.switches hw]
  rw [hsame]
  cases hguarded : isGuarded first ctx w with
  | false => exact absurd (.unguarded hguarded) hstopped
  | true =>
    rw [if_pos rfl, if_pos rfl]
    refine (hparts.evaluator _ _ _ _ _ _ hw hws).bind fun outcome _ _ _ _ _ hasked _ ht hts => ?_
    cases outcome with
    | success => exact absurd (.allowed hguarded (congrArg Course.progress hasked)) hstopped
    | failure e => exact hR.blind_report _ _ _ _ _ _ _ ht hts

theorem gates_alike (hR : Respects R) (hparts : parts.Blind R)
    (hstopped : ¬ Passes parts first ctx w ws) (hw : R w w') (hws : List.Forall₂ R ws ws') :
    Alike R (((gates parts first).run ctx handler).along w ws)
      (((gates parts first).run ctx handler').along w' ws') := by
  -- Past validation, the audit lets through what authorization has stopped.
  have hinner : ∀ {t t' ts ts' l}, Admitted parts first ctx w ws t ts l → R t t' →
      List.Forall₂ R ts ts' →
      Alike R ((Chain.run (gates parts first).tail ctx handler).along t ts)
        ((Chain.run (gates parts first).tail ctx handler').along t' ts') := by
    intro t t' ts ts' l hadmitted ht hts
    have hdenied := authorization_alike handler handler' hR hparts
      (fun hallowed => hstopped ⟨t, ts, l, hadmitted, hallowed⟩) ht hts
    have hsame : isAudited first ctx t' = isAudited first ctx t := by
      rw [isAudited, isAudited, hR.switches ht]
    rw [gates, List.tail_cons, audit_along, audit_along, hsame]
    split
    · refine hdenied.bind fun reply _ _ _ _ _ _ _ hu hus => ?_
      exact ((hparts.audit _ _).bind fun _ => Prog.blind_done reply) _ _ _ _ hu hus
    · exact hdenied
  have hsame : w'.switches first = w.switches first := by rw [hR.switches hw]
  rw [gates, validation_along, validation_along, hsame]
  cases hchecked : w.switches first with
  | false => exact hinner (.unchecked hchecked) hw hws
  | true =>
    rw [if_pos rfl, if_pos rfl]
    refine (hparts.validator _ _ _ _ _ hw hws).bind fun outcome _ _ _ _ _ hasked _ ht hts => ?_
    cases outcome with
    | success => exact hinner (.valid hchecked hasked) ht hts
    | failure e => exact hR.blind_report _ _ _ _ _ _ _ ht hts

end

-- ---------------------------------------------------------------------------
-- Dispatches
-- ---------------------------------------------------------------------------

namespace Dispatcher

/-- The world in which a dispatch comes to its chain: the plan has been reported. -/
def outset (d : Dispatcher) (ctx : RequestContext) (w : World) : World :=
  w.emit ctx.operation.spans (.debug "running intercept chain"
    [("plan", Text.quoteList (d.chain.plan w ctx.capabilities))])

variable {d : Dispatcher} {request : Request} {op : Operation}

theorem outset_switches (d : Dispatcher) (ctx : RequestContext) (w : World) :
    (d.outset ctx w).switches = w.switches := by
  rw [outset, World.emit_eq]

theorem dispatchWith_along (h : d.provider.resolve request.type = some handler) :
    (d.dispatchWith request op).along w ws =
      ((d.chain.run (context request op) handler).attempt.bind (settle (context request op))).along
        (d.outset (context request op) w) ws := by
  simp [dispatchWith, h, outset, RequestContext.emit, Prog.along_bind (p := Prog.read),
    Prog.along_bind (p := Action.emit _ _)]

theorem dispatchWith_along_of_outcome (h : d.provider.resolve request.type = some handler)
    {outcome : Outcome Value}
    (hrun : (d.chain.run (context request op) handler).along (d.outset (context request op) w) ws =
      ⟨.returned (.ok outcome), w', ws', l⟩) :
    (d.dispatchWith request op).along w ws = ⟨.returned (.ok outcome), w', ws', l⟩ := by
  rw [dispatchWith_along h, Prog.along_bind, Prog.along_attempt, hrun]
  simp [settle]

theorem settle_blind {R : World → World → Prop} (hR : Respects R) (ctx : RequestContext)
    (ending : Except Panic Reply) : (settle ctx ending).Blind R := by
  unfold settle
  split
  · exact Prog.blind_done _
  · split <;> exact hR.blind_report _ _ _
  · exact hR.blind_report _ _ _

theorem plan_standard (c : Config) (parts : Parts) (cache : ResponseCache)
    (telemetry : TelemetrySink) (first : Nat) (caps : Capabilities)
    (h : w.switches = w'.switches) :
    Chain.plan (switched first (standardNodes c { parts with cache, telemetry })) w' caps =
      Chain.plan (switched first (standardNodes c parts)) w caps := by
  simp only [switched, standardNodes, Chain.plan_cons, conditional, h]
  rfl

theorem stopped_alike {R : World → World → Prop} (hR : Respects R) {c : Config} {parts : Parts}
    {first : Nat} (hparts : parts.Blind R) {provider provider' : Provider} {host : Host}
    {cache : ResponseCache} {telemetry : TelemetrySink}
    (h : provider.resolve request.type = some handler)
    (h' : provider'.resolve request.type = some handler') (hw : R w w')
    (hws : List.Forall₂ R ws ws') :
    let d : Dispatcher := ⟨provider, switched first (standardNodes c parts), host⟩
    let d' : Dispatcher :=
      ⟨provider', switched first (standardNodes c { parts with cache, telemetry }), host⟩
    ¬ Passes parts first (context request op) (d.outset (context request op) w) ws →
    Alike R ((d.dispatchWith request op).along w ws)
      ((d'.dispatchWith request op).along w' ws') := by
  intro d d' hstopped
  have houtset : R (d.outset (context request op) w) (d'.outset (context request op) w') := by
    unfold outset
    rw [plan_standard c parts cache telemetry first _ (hR.switches hw)]
    exact hR.emit hw _ _
  rw [dispatchWith_along h, dispatchWith_along h']
  refine Alike.bind (Alike.attempt ?_) fun ending _ _ _ _ _ _ _ ht hts =>
    settle_blind hR _ ending _ _ _ _ ht hts
  show Alike R ((Chain.run (switched _ _) _ _).along _ _) ((Chain.run (switched _ _) _ _).along _ _)
  rw [switched_standardNodes, switched_standardNodes, Chain.run_append, Chain.run_append]
  exact gates_alike hR hparts hstopped houtset hws

/-- The dispatch of a request that is rejected fails as invalid, and nobody but the validator has
been asked. That of a request that is denied fails as forbidden, and nobody but the validator, the
evaluator and, if the request is audited, the sink has been asked. Whenever a gate stops the
request, the dispatch takes the same course with another handler, cache or telemetry, and with other
stored responses if those who have been asked do not look at these. Whether requests are validated,
audited and authorized is for the toggles to say, as long as the switches stand as these have set
them; they do so when the request comes to the chain if they did when it was dispatched. -/
theorem gates_hold {c : Config} {parts : Parts} {first : Nat} {chain : Chain}
    (hchain : standardChain c parts first = .ok chain) {provider : Provider} (host : Host)
    (h : provider.resolve request.type = some handler) (op : Operation) (w : World)
    (ws : List World) :
    let d : Dispatcher := ⟨provider, chain, host⟩
    let ctx := context request op
    let w₁ := d.outset ctx w
    let course := (d.dispatchWith request op).along w ws
    (∀ e w₂ ws₂ l, w₁.switches first = true →
      (parts.validator.validate request).along w₁ ws = ⟨.returned (.failure e), w₂, ws₂, l⟩ →
      course = ⟨.returned (.ok (.failure (rejection e))), rejected ctx e w₂, ws₂, l⟩ ∧
        (rejection e).value.kind = .validation ∧ ¬ Passes parts first ctx w₁ ws) ∧
    (∀ e w₂ ws₂ l w₃ ws₃ l₂, Admitted parts first ctx w₁ ws w₂ ws₂ l →
      isGuarded first ctx w₂ = true →
      (parts.evaluator.evaluate request.resource ctx.operation).along w₂ ws₂ =
        ⟨.returned (.failure e), w₃, ws₃, l₂⟩ →
      (isAudited first ctx w₂ = false → course =
        ⟨.returned (.ok (.failure (denial request.resource e))), denied ctx e w₃, ws₃, l ++ l₂⟩) ∧
      (isAudited first ctx w₂ = true → ∀ w₄ ws₄ l₃,
        (parts.audit.record ctx.operation (auditRecord ctx .failure)).along (denied ctx e w₃) ws₃ =
          ⟨.returned (), w₄, ws₄, l₃⟩ →
        course = ⟨.returned (.ok (.failure (denial request.resource e))), w₄, ws₄,
          l ++ (l₂ ++ l₃)⟩) ∧
      (denial request.resource e).value.kind = .forbidden ∧ ¬ Passes parts first ctx w₁ ws) ∧
    (w₁.switches = w.switches ∧
      ∀ w₀ v, v.switches = (setSwitches first (standardNodes c parts) w₀).switches →
        v.switches first = c.toggles.validation ∧
        isAudited first ctx v = (c.toggles.audit && request.type.capabilities.auditable) ∧
        isGuarded first ctx v =
          (c.toggles.authorization && request.type.capabilities.authorizable) ∧
        ∀ caps, chain.plan v caps =
          ((standardNodes c parts).filter fun (on, node) => on && node.appliesTo v caps).map
            fun (_, node) => node.name) ∧
    (¬ Passes parts first ctx w₁ ws →
      ∀ cache telemetry chain' provider' handler',
        standardChain c { parts with cache, telemetry } first = .ok chain' →
        provider'.resolve request.type = some handler' →
        let d' : Dispatcher := ⟨provider', chain', host⟩
        Alike Eq course ((d'.dispatchWith request op).along w ws) ∧
          (parts.Blind SameButStore → ∀ w' ws', SameButStore w w' →
            List.Forall₂ SameButStore ws ws' →
            Alike SameButStore course ((d'.dispatchWith request op).along w' ws'))) := by
  intro d ctx w₁ course
  -- The chain of the dispatch begins with the gates.
  have hrun : chain.run ctx handler =
      (gates parts first).run ctx fun _ _ => (behindGates c parts first).run ctx handler := by
    rw [standardChain_eq hchain, switched_standardNodes, Chain.run_append]
  have houtcome {outcome : Outcome Value} {t : World} {ts : List World} {l : List (Task World)}
      (hrun : (chain.run ctx handler).along w₁ ws = ⟨.returned (.ok outcome), t, ts, l⟩) :
      course = ⟨.returned (.ok outcome), t, ts, l⟩ :=
    dispatchWith_along_of_outcome (d := d) h hrun
  refine ⟨fun e w₂ ws₂ l hchecked hvalidate => ?_,
    fun e w₂ ws₂ l w₃ ws₃ l₂ hadmitted hguarded hevaluate => ?_,
    ⟨d.outset_switches ctx w, fun w₀ v hv => ?_⟩,
    fun hstopped cache telemetry chain' provider' handler' hchain' h' => ?_⟩
  · refine ⟨houtcome ?_, rejection_kind e, not_passes_of_rejected hchecked hvalidate⟩
    rw [hrun]
    exact gates_along_of_rejected hchecked hvalidate
  · refine ⟨fun haudited => houtcome ?_, fun haudited w₄ ws₄ l₃ hrecord => houtcome ?_,
      denial_kind _ e, not_passes_of_denied hadmitted hguarded hevaluate⟩
    · rw [hrun]
      exact (gates_along_of_denied hadmitted hguarded hevaluate).1 haudited
    · rw [hrun]
      exact (gates_along_of_denied hadmitted hguarded hevaluate).2 haudited _ _ _ hrecord
  · obtain ⟨hvalidation, haudit, hauthorization⟩ := toggles_decide hv ctx
    refine ⟨hvalidation, haudit, hauthorization, fun caps => ?_⟩
    rw [standardChain_eq hchain, plan_switched hv]
  · obtain rfl := standardChain_eq hchain
    obtain rfl := standardChain_eq hchain'
    exact ⟨stopped_alike respects_eq parts.blind_eq h h' rfl (List.forall₂_refl ws) hstopped,
      fun hparts w' ws' hw hws =>
        stopped_alike respects_sameButStore hparts h h' hw hws hstopped⟩

/-- A report that somebody without a name asks for: it is denied though a response is stored. No
request would be valid, but validation has been configured off. -/
theorem stored_report_denied :
    let report : Request := { Request.plain ⟨⟨0⟩, "shop::Report", .full, .int⟩ .null with
      cacheKey := some "7" }
    let handler : Handler := fun _ _ => .done (.ok (.success (.int 42)))
    let provider : Provider := ⟨fun _ => some handler, fun _ => []⟩
    let parts : Parts := ⟨⟨fun _ => .done (.fail "invalid")⟩, .recording, .requireAuthenticated,
      .recording, .memory⟩
    let c : Config := Config.default.withToggles ⟨false, true, true, false, true⟩
    let d : Dispatcher := ⟨provider, switched 0 (standardNodes c parts), .development⟩
    let ctx := context report default
    let empty := setSwitches 0 (standardNodes c parts) .empty
    let w : World := { empty with
      store := ⟨[("shop::Report::7", ⟨.int 41, ⟨300000000000⟩⟩)]⟩ }
    let refusal := denial report.resource
      (.new (.forbidden report.resource "authentication required"))
    (d.dispatchWith report default).along w [] = ⟨.returned (.ok (.failure refusal)),
      { w with audits := [auditRecord ctx .failure] }, [], []⟩ ∧
    Alike SameButStore ((d.dispatchWith report default).along w [])
      ((d.dispatchWith report default).along empty []) := by
  intro report handler provider parts c d ctx empty w refusal
  have hblind : parts.Blind SameButStore := by
    refine ⟨fun _ => Prog.blind_done _, fun _ _ => Prog.blind_done _, fun op record => ?_⟩
    intro s s' ss ss' hs hss
    refine ⟨rfl, ?_, hss, rfl⟩
    rw [← show { s with store := s'.store } = s' from hs]
    rfl
  have hchain : standardChain c parts 0 = .ok d.chain := rfl
  have hresolve : provider.resolve report.type = some handler := rfl
  obtain ⟨-, hdenied, ⟨-, htoggles⟩, hstopped⟩ :=
    gates_hold hchain .development hresolve default w []
  obtain ⟨hunchecked, haudit, hguarded, -⟩ := htoggles .empty w rfl
  have hadmitted : Admitted parts 0 ctx (d.outset ctx w) [] w [] [] := .unchecked hunchecked
  obtain ⟨-, haudited, -, hnot⟩ := hdenied _ w [] [] w [] [] hadmitted hguarded rfl
  refine ⟨haudited haudit _ _ _ rfl, ?_⟩
  exact (hstopped hnot parts.cache parts.telemetry _ provider handler rfl rfl).2 hblind _ _ rfl .nil

end Dispatcher

end Mediator
