import Mediator.Dispatch
import Mediator.Publish
import Mediator.Registry
import Mediator.Rehearsal.Node

/-!
# Casts

The cast of a rehearsal says which collaborators there are and how the chain is built. `assemble`
makes the dispatcher and the publisher from it, unless the registry or the configuration is refused.
-/

namespace Mediator.Rehearsal

structure HandlerRole where
  request : RequestMaker
  double : HandlerDouble

structure SubscriberRole where
  notification : NotificationMaker
  name : Option String
  double : SubscriberDouble

structure ValidatorRole where
  request : RequestMaker
  double : ValidatorDouble

structure PartsChoice where
  validator : ValidatorChoice
  audit : SinkChoice
  evaluator : EvaluatorDouble
  telemetry : SinkChoice

inductive ChainPlan where
  /-- One node after the other, each inside or outside of those before it. -/
  | stepwise (nodes : List Node)
  /-- All nodes in their order. -/
  | listed (nodes : List Node)
  | standard (parts : PartsChoice)

structure Cast where
  handlers : List HandlerRole
  subscribers : List SubscriberRole
  validators : List ValidatorRole
  chain : ChainPlan
  config : Config
  /-- The publisher's default strategy, if it is not that of the configuration. -/
  strategy : Option Strategy
  host : Host
  verbosity : Option Level

/-- What counts calls, with the number that it counts under. -/
inductive Counter where
  | stub (label : String) (i : Nat)
  | calls (label : String) (i : Nat)

structure Stage where
  dispatcher : Dispatcher
  publisher : Publisher
  registry : Registry
  validators : Validators
  /-- The numbers of the switches around each node of the chain, outer ones first. -/
  switches : List (List Nat)
  counters : List Counter
  world : World

inductive CastError where
  | registry (e : RegistryError)
  | config (e : ConfigError)
deriving DecidableEq, Repr

def CastError.text : CastError → String
  | .registry e => e.text
  | .config e => e.text

namespace Cast

def numbered {α : Type} (first : Nat) : List α → List (Nat × α)
  | [] => []
  | a :: rest => (first, a) :: numbered (first + 1) rest

/-- The number of the first counter of a subscriber, and that of the first of an evaluator. -/
def firstSubscriber (c : Cast) : Nat := c.handlers.length

def firstEvaluator (c : Cast) : Nat := c.handlers.length + c.subscribers.length

def registrations (c : Cast) : List Registration :=
  (numbered 0 c.handlers).map (fun (i, h) => .handler h.request.type (h.double.handler i))
    ++ (numbered c.firstSubscriber c.subscribers).map fun (i, s) =>
      match s.name with
      | some name => .subscriberNamed s.notification.type name (s.double.receiver i)
      | none => .subscriber s.notification.type s.double.typeName (s.double.receiver i)

def validatorRegistry (c : Cast) : Validators :=
  .ofList (c.validators.map fun v => (v.request.type, v.double.validator))

/-- A node has room for two switches and one counter. -/
def switchNumbers (i : Nat) (n : Node) : List Nat :=
  (numbered (2 * i) n.switches).map (·.1)

def nodeIntercept (c : Cast) (vs : Validators) (i : Nat) (n : Node) : Intercept :=
  Node.wrap (n.kind.intercept vs (c.firstEvaluator + i)) (2 * i) n.switches

def stepwiseChain (c : Cast) (vs : Validators) (nodes : List Node) : Chain :=
  .build ((numbered 0 nodes).map fun (i, n) =>
    if n.prepended then .outside (c.nodeIntercept vs i n) else .inside (c.nodeIntercept vs i n))

def listedChain (c : Cast) (vs : Validators) (nodes : List Node) : Chain :=
  .ofList ((numbered 0 nodes).map fun (i, n) => c.nodeIntercept vs i n)

def parts (c : Cast) (vs : Validators) (p : PartsChoice) : Parts where
  validator := p.validator.validator vs
  audit := p.audit.audit
  evaluator := p.evaluator.evaluator c.firstEvaluator
  telemetry := p.telemetry.telemetry
  cache := notedCache

def buildChain (c : Cast) (vs : Validators) :
    Except ConfigError (Chain × List (List Nat) × (World → World)) :=
  let setAll (nodes : List Node) (w : World) : World :=
    (numbered 0 nodes).foldl (fun w (i, n) =>
      (numbered (2 * i) n.switches).foldl (fun w (j, on) => w.switch j on) w) w
  let numbers (nodes : List Node) : List (List Nat) :=
    (numbered 0 nodes).map fun (i, n) => switchNumbers i n
  match c.chain with
  | .stepwise nodes => .ok (c.stepwiseChain vs nodes, numbers nodes, setAll nodes)
  | .listed nodes => .ok (c.listedChain vs nodes, numbers nodes, setAll nodes)
  | .standard p => do
    let parts := c.parts vs p
    let chain ← standardChain c.config parts 0
    let nodes := standardNodes c.config parts
    return (chain, (numbered 0 nodes).map fun (i, _) => [i], setSwitches 0 nodes)

def evaluatorCounters (c : Cast) : List Counter :=
  let counter (i : Nat) (e : EvaluatorDouble) : Option Counter :=
    if e.counts then some (.calls "evaluator" (c.firstEvaluator + i)) else none
  let ofNodes (nodes : List Node) : List Counter :=
    (numbered 0 nodes).filterMap fun (i, n) =>
      match n.kind with
      | .authorization e => counter i e
      | _ => none
  match c.chain with
  | .stepwise nodes => ofNodes nodes
  | .listed nodes => ofNodes nodes
  | .standard p => (counter 0 p.evaluator).toList

def counters (c : Cast) : List Counter :=
  ((numbered 0 c.handlers).map fun (i, h) =>
      match h.double with
      | .stub .. => .stub h.request.label i
      | .script _ => .calls h.request.label i)
    ++ ((numbered c.firstSubscriber c.subscribers).map fun (i, s) =>
      .calls (s.notification.label ++ "/" ++ s.name.getD "") i)
    ++ c.evaluatorCounters

def assemble (c : Cast) : Except CastError Stage := do
  let registry ← (RegistryBuilder.ofList c.registrations).build.mapError .registry
  let vs := c.validatorRegistry
  let (chain, switches, setAll) ← (c.buildChain vs).mapError .config
  return {
    dispatcher := ⟨registry.provider, chain, c.host⟩
    publisher := ⟨registry.provider, c.strategy.getD c.config.strategy, c.host⟩
    registry
    validators := vs
    switches
    counters := c.counters
    world := setAll { World.empty with verbosity := c.verbosity } }

end Cast

end Mediator.Rehearsal
