import Mediator.Intercept.Recover
import Mediator.Rehearsal.Double
import Mediator.Standard

/-!
# Intercepts of rehearsals

Intercepts that log what they do, and intercepts that run the rest of the chain in unusual ways.
-/

namespace Mediator.Rehearsal

def onlyFor (required : Option Capabilities) (caps : Capabilities) : Bool :=
  match required with
  | none => true
  | some required => caps.contains required

/-- Logs when it is entered and when the rest of the chain has ended in an outcome. One that is
`short` lets nothing pass. -/
def recording (name : String) (short : Bool) (required : Option Capabilities) : Intercept where
  name := name
  appliesTo _ caps := onlyFor required caps
  intercept _ next := do
    Action.write (name ++ ":before")
    if short then do
      Action.write (name ++ ":short")
      return .ok (.fail ("short-circuited by " ++ name))
    else do
      match ← next with
      | .ok o => do
        Action.write (name ++ ":after")
        return .ok o
      | .error e => return .error e

/-- Run a program so many times, or until it succeeds, and keep the last reply. -/
def runTimes (untilSuccess : Bool) (next : Action Reply) : Nat → Reply → Action Reply
  | 0, last => return last
  | n + 1, _ => do
    let reply ← next
    match reply with
    | .ok (.success _) => if untilSuccess then return reply else runTimes untilSuccess next n reply
    | _ => runTimes untilSuccess next n reply

def repeating (times : Nat) (untilSuccess : Bool) (required : Option Capabilities) : Intercept where
  name := "repeat"
  appliesTo _ caps := onlyFor required caps
  intercept _ next := runTimes untilSuccess next times (.ok (.fail "never ran"))

def replacing (e : MediatorError) (required : Option Capabilities) : Intercept where
  name := "replace"
  appliesTo _ caps := onlyFor required caps
  intercept _ next := do
    match ← next with
    | .ok o => do
      Action.write ("replaced:" ++ o.status.text)
      return .ok (.failed e)
    | .error e => return .error e

inductive Mishap where
  | error (e : Error)
  | panic (p : Panic)

def Mishap.action : Mishap → Action Reply
  | .error e => return .error e
  | .panic p => .panic p

/-- Ends in a mishap, if wanted only after the rest of the chain has ended in an outcome. -/
def faulty (mishap : Mishap) (after : Bool) (required : Option Capabilities) : Intercept where
  name := "fault"
  appliesTo _ caps := onlyFor required caps
  intercept _ next := do
    if after then do
      match ← next with
      | .ok _ => mishap.action
      | .error e => return .error e
    else mishap.action

def contextLine (ctx : RequestContext) (canceled : Bool) : String :=
  "|".intercalate [ctx.name, ctx.request.type.name,
    (Json.array (ctx.capabilities.names.map .string)).render, toString canceled]

def showing (required : Option Capabilities) : Intercept where
  name := "context"
  appliesTo _ caps := onlyFor required caps
  intercept ctx next := do
    Prog.modify fun w => w.write (contextLine ctx (w.canceled ctx.operation.token))
    next

/-! ## Nodes -/

inductive SinkChoice where
  | tracing
  | recording
deriving DecidableEq, Repr, Inhabited

def SinkChoice.audit : SinkChoice → AuditSink
  | .tracing => .tracing
  | .recording => .recording

def SinkChoice.telemetry : SinkChoice → TelemetrySink
  | .tracing => .tracing
  | .recording => .recording

inductive ValidatorChoice where
  | registered
  | fixed (o : Outcome Unit)

def ValidatorChoice.validator (vs : Validators) : ValidatorChoice → Validator
  | .registered => vs.validator
  | .fixed o => fixedValidator o

inductive NodeKind where
  | validation (v : ValidatorChoice)
  | audit (sink : SinkChoice)
  | authorization (e : EvaluatorDouble)
  | performance (sink : SinkChoice) (threshold : Option Duration)
  | caching (expiration : Option Duration)
  | recover
  | recording (name : String) (short : Bool) (required : Option Capabilities)
  | repeating (times : Nat) (untilSuccess : Bool) (required : Option Capabilities)
  | replacing (e : MediatorError) (required : Option Capabilities)
  | faulty (mishap : Mishap) (after : Bool) (required : Option Capabilities)
  | showing (required : Option Capabilities)

/-- The intercept; its evaluator, if it has one, counts under the number `i`. -/
def NodeKind.intercept (vs : Validators) (i : Nat) : NodeKind → Intercept
  | .validation v => .validation (v.validator vs)
  | .audit sink => .audit sink.audit
  | .authorization e => .authorization (e.evaluator i)
  | .performance sink threshold => .performance sink.telemetry threshold
  | .caching expiration =>
    .caching notedCache (expiration.getD Intercept.standardExpiration)
  | .recover => .recover
  | .recording name short required => Rehearsal.recording name short required
  | .repeating times untilSuccess required => Rehearsal.repeating times untilSuccess required
  | .replacing e required => Rehearsal.replacing e required
  | .faulty mishap after required => Rehearsal.faulty mishap after required
  | .showing required => Rehearsal.showing required

/-- What there is to see of an intercept besides its name and where it applies. -/
inductive Setting where
  | none
  | threshold (d : Option Duration)
  | expiration (d : Duration)

def NodeKind.setting : NodeKind → Setting
  | .performance _ threshold => .threshold threshold
  | .caching expiration => .expiration (expiration.getD Intercept.standardExpiration)
  | _ => .none

/-- An intercept of a chain with up to two switches around it, the outer one first. -/
structure Node where
  kind : NodeKind
  switches : List Bool
  /-- Whether it goes outside of all others instead of inside. -/
  prepended : Bool

/-- The intercept behind its switches, which are numbered from `first` on. -/
def Node.wrap (inner : Intercept) (first : Nat) : List Bool → Intercept
  | [] => inner
  | _ :: rest => .conditional first (wrap inner (first + 1) rest)

end Mediator.Rehearsal
