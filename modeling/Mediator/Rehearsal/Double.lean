import Mediator.Intercept.Caching
import Mediator.Rehearsal.Script
import Mediator.Validators

/-!
# Stand-ins for collaborators

Handlers, subscribers, validators and evaluators with scripted behaviour. Each counts its calls
under a number of its own.
-/

namespace Mediator.Rehearsal

/-! ## Handlers -/

inductive TakeEnding where
  | outcome (o : Outcome Value)
  /-- Succeed with a field of the request. -/
  | echo (field : String)

structure HandlerTake where
  moves : List Move
  ending : TakeEnding

inductive HandlerDouble where
  | stub (value : Value) (logs : Bool)
  | script (takes : List HandlerTake)

def TakeEnding.outcomeFor (r : Request) : TakeEnding → Outcome Value
  | .outcome o => o
  | .echo field => .success (responseOf r.type.response ((r.payload.member? field).getD .null))

def HandlerDouble.handler (i : Nat) : HandlerDouble → Handler
  | .stub value logs => fun _ _ => do
    let _ ← countCall i
    if logs then Action.write "handler" else pure ()
    return .ok (.success value)
  | .script takes => fun r op => do
    match take? takes (← countCall i) with
    | none => return .ok (.success .unit)
    | some t =>
      match ← perform op r.payload t.moves with
      | .ok () => return .ok (t.ending.outcomeFor r)
      | .error e => return .error e

/-! ## Subscribers -/

inductive SubscriberDouble where
  | counting (name : String) (logs : Bool) (delay : Option Duration)
  | failing (message : String) (logs : Bool)
  | script (takes : List (List Move))

namespace SubscriberDouble

def typeName : SubscriberDouble → String
  | .counting .. => "CountingSubscriber"
  | .failing .. => "FailingSubscriber"
  | .script _ => "ScriptSubscriber"

def program (i : Nat) (d : SubscriberDouble) (n : Notification) (op : Operation) :
    Action (Except Error Unit) :=
  match d with
  | .counting name logs delay => do
    match delay with
    | some d => Action.sleep d
    | none => pure ()
    let _ ← countCall i
    if logs then Action.write name else pure ()
    return .ok ()
  | .failing message logs => do
    let _ ← countCall i
    if logs then Action.write message else pure ()
    return .error (.message message)
  | .script takes => do
    match take? takes (← countCall i) with
    | none => return .ok ()
    | some moves => perform op n.payload moves

def receiver (i : Nat) (d : SubscriberDouble) : Receiver := fun n op => pure (d.program i n op)

end SubscriberDouble

/-! ## Validators -/

/-- What a validator does; the parts that are there are done in this order. -/
structure ValidatorDouble where
  log : Option String
  panic : Option Panic
  /-- Reject with exactly these errors. -/
  always : Option (List FieldError)
  /-- A field that has to be a non-empty text. -/
  nonempty : Option String
  /-- A numeric field and its least value. -/
  least : Option (String × Int)
  message : String

def ValidatorDouble.verdict (d : ValidatorDouble) (payload : Json) :
    Except ValidationFailure Unit :=
  let emptyField := d.nonempty.filter fun f => (textField? payload f).getD "" == ""
  let smallField := d.least.filter fun (f, n) => (intField? payload f).getD 0 < n
  match d.always, emptyField, smallField with
  | some errors, _, _ => .error ⟨errors⟩
  | none, some field, _ => .error ⟨[⟨field, d.message⟩]⟩
  | none, none, some (field, _) => .error ⟨[⟨field, d.message⟩]⟩
  | none, none, none => .ok ()

def ValidatorDouble.validator (d : ValidatorDouble) : RequestValidator := fun r => do
  match d.log with
  | some line => Call.modify fun w => w.write line
  | none => pure ()
  match d.panic with
  | some p => Call.panic p
  | none => return d.verdict r.payload

def fixedValidator (o : Outcome Unit) : Validator := ⟨fun _ => return o⟩

/-! ## Evaluators -/

inductive EvaluatorDouble where
  | authenticated
  | role (role : String)
  | deny (reason : String)
  | allow
  | fixed (o : Outcome Unit)

namespace EvaluatorDouble

def counts : EvaluatorDouble → Bool
  | .deny _ => true
  | .allow => true
  | _ => false

def static (i : Nat) (o : Outcome Unit) : Evaluator where
  evaluate _ _ := do
    let _ ← countCall i
    return o

def plain (i : Nat) : EvaluatorDouble → Evaluator
  | .authenticated => .requireAuthenticated
  | .role name => .requireRole name
  | .deny reason => static i (.fail reason)
  | .allow => static i .completed
  | .fixed o => ⟨fun _ _ => return o⟩

/-- The evaluator, which logs the resource of every evaluation first. -/
def evaluator (i : Nat) (d : EvaluatorDouble) : Evaluator where
  evaluate resource op := do
    Action.write ("evaluate:" ++ resource.text)
    (d.plain i).evaluate resource op

end EvaluatorDouble

/-! ## Stores -/

/-- The store of the world, with a note of every use. Every use takes a moment. -/
def notedCache : ResponseCache where
  get key := do
    let found ← ResponseCache.memory.get key
    Prog.modify fun w =>
      ({ w with notes := w.notes ++ [.get key found.isSome] } : World).elapse ⟨1000⟩
    return found
  set key value d := do
    Prog.modify fun w => { w with notes := w.notes ++ [.set key d] }
    ResponseCache.memory.set key value d
    Prog.modify fun w => w.elapse ⟨1000⟩

end Mediator.Rehearsal
