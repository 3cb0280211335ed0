import Mediator.Rehearsal.Cast

/-!
# Scenarios

A scenario is a cast and a list of steps played one after the other. Each step reports its result
and what it added to the records. Detached tasks wait until a step drains them: dispatching and
publishing drain before their own work, and the end of the scenario drains once more. While a
dispatch or a publish has given way they run too.
-/

namespace Mediator.Rehearsal

structure OperationChoice where
  user : Option Identity
  host : Option Host
  correlation : Option Uuid

inductive Subject where
  | request (r : Request)
  | notification (n : Notification) (explicit : Option Strategy)

structure Cue where
  subject : Subject
  operation : Option OperationChoice
  /-- The name of the token; without one the token is a fresh one. -/
  token : Option String
  /-- Cancel the token after so many turns, beside the call. -/
  cancelAfter : Option Nat

inductive StoreAction where
  | size
  | isEmpty
  | invalidate (key : String)
  | clear
  | purge
  | debug
  | get (key : String)
  | set (key : String) (value : Value) (ttl : Duration)

inductive Step where
  | call (c : Cue) (attended : Bool)
  | together (cs : List Cue)
  | drain
  | sleep (d : Duration)
  | cancel (token : String)
  | toggle (i : Nat) (on inner : Bool)
  | plan (caps : Capabilities)
  | counts
  | store (a : StoreAction)
  | registered (type : RequestType)
  | subscribed (type : NotificationType)
  | strategyFor (type : NotificationType) (explicit : Option Strategy)
  | host
  | check (r : Request)

/-- The result of a dispatch or publish; that of a publish has the unit value. -/
abbrev CallResult : Type := Ending (Except Fatal (Outcome Value))

inductive Count where
  | stub (label : String) (n : Nat)
  | calls (label : String) (n : Nat)
deriving DecidableEq, Repr

inductive Result where
  /-- The step has no result. -/
  | absent
  /-- The step has a result, which is nothing. -/
  | null
  | call (r : CallResult)
  | calls (rs : Ending (List (Except Fatal (Outcome Value))))
  | flag (b : Bool)
  | flags (bs : List Bool)
  | number (n : Nat)
  | text (t : String)
  | found (v : Option Value)
  | overflow (p : Panic)
  | plan (names : List String) (length : Nat)
  | counts (cs : List Count)
  | registered (contains resolves : Bool) (handlers : Nat) (debug : String)
  | subscribed (names debug : List String)
  | strategies (resolved default : Strategy)
  | host (h : Host)
  | check (count : Nat) (verdict : Except Panic (Except ValidationFailure Unit)) (debug : String)

structure StepReport where
  result : Result
  log : List String
  audits : List AuditRecord
  samples : List Sample
  notes : List StoreNote
  trace : List TraceEntry

/-- The state of a scenario: the scheduler and the tokens made so far, by name. -/
structure Play where
  scheduler : Scheduler World
  tokens : List (Option String)

namespace Play

def world (p : Play) : World := p.scheduler.state

def setWorld (p : Play) (w : World) : Play := { p with scheduler := p.scheduler.put w }

/-- The token with a name, made on first use; without a name a fresh one. -/
def token (p : Play) (name : Option String) : Token × Play :=
  match name.bind fun n => p.tokens.findIdx? (· == some n) with
  | some i => (⟨i⟩, p)
  | none => (⟨p.tokens.length⟩, { p with tokens := p.tokens ++ [name] })

def drain (p : Play) : Play := { p with scheduler := p.scheduler.drain World.idle }

/-- Run a program to its end. Detached tasks get their turn whenever it has given way. -/
def run {α : Type} (p : Play) (a : Action α) : Ending α × Play :=
  let (ending, scheduler) := a.run (Scheduler.attend World.idle) p.scheduler
  (ending, { p with scheduler })

def runAlone {α : Type} (p : Play) (a : Action α) : Ending α × Play :=
  let (ending, scheduler) := a.run Scheduler.alone p.scheduler
  (ending, { p with scheduler })

end Play

def canceler (n : Nat) (t : Token) : Action Unit := do
  Prog.turns n
  Action.cancel t

namespace Stage

def operation (op : OperationChoice) (t : Token) : Operation where
  user := op.user.getD .anonymous
  host := op.host.getD .development
  correlation := (op.correlation.map .given).getD .generated
  token := t
  spans := []

def dispatch (st : Stage) (r : Request) (op : Option OperationChoice) (t : Token) :
    Action (Except Fatal (Outcome Value)) :=
  match op with
  | none => st.dispatcher.dispatch r t
  | some op => st.dispatcher.dispatchWith r (operation op t)

def publish (st : Stage) (n : Notification) (explicit : Option Strategy)
    (op : Option OperationChoice) (t : Token) : Action (Except Fatal (Outcome Unit)) :=
  match op with
  | none => st.publisher.publish n explicit t
  | some op => st.publisher.publishWith n explicit (operation op t)

def asValue : Outcome Unit → Outcome Value
  | .success () => .success .unit
  | .failure e => .failure e

/-- The program of a call, with the one that cancels its token beside it. -/
def program (st : Stage) (c : Cue) (t : Token) : Action (Except Fatal (Outcome Value)) :=
  let call : Action (Except Fatal (Outcome Value)) :=
    match c.subject with
    | .request r => st.dispatch r c.operation t
    | .notification n explicit => do
      return (← st.publish n explicit c.operation t).map asValue
  match c.cancelAfter with
  | none => call
  | some n => do
    let (reply, ()) ← call.both (canceler n t)
    return reply

def programs (st : Stage) : Play → List Cue → List (Action (Except Fatal (Outcome Value))) × Play
  | p, [] => ([], p)
  | p, c :: rest =>
    let (t, p) := p.token c.token
    let (more, p) := st.programs p rest
    (st.program c t :: more, p)

def toggle (st : Stage) (i : Nat) (on inner : Bool) (p : Play) : Result × Play :=
  match st.switches[i]? with
  | some (outer :: more) =>
    let target := if inner then (more.head?).getD outer else outer
    let p := p.setWorld (p.world.switch target on)
    match more with
    | [] => (.flag (p.world.switches outer), p)
    | _ => (.flags ((outer :: more).map p.world.switches), p)
  | _ => (.null, p)

def countOf (w : World) : Counter → Count
  | .stub label i => .stub label (w.tally i)
  | .calls label i => .calls label (w.tally i)

def entryDebug (s : Subscriber) : String :=
  "SubscriberEntry \x7b name: " ++ Text.quote s.name ++ ", .. \x7d"

def useStore (p : Play) : StoreAction → Result × Play
  | .size => (.number p.world.store.size, p)
  | .isEmpty => (.flag p.world.store.isEmpty, p)
  | .invalidate key =>
    let (found, store) := p.world.store.invalidate key
    (.flag found, p.setWorld { p.world with store })
  | .clear => (.number 0, p.setWorld { p.world with store := .empty })
  | .purge =>
    let store := p.world.store.purge p.world.now
    (.number store.size, p.setWorld { p.world with store })
  | .debug => (.text p.world.store.debug, p)
  | .get key =>
    match p.runAlone (ResponseCache.memory.get key) with
    | (.returned v, p) => (.found v, p)
    | (_, p) => (.absent, p)
  | .set key value ttl =>
    match p.runAlone (ResponseCache.memory.set key value ttl) with
    | (.returned (), p) => (.number p.world.store.size, p)
    | (.panicked e, p) => (.overflow e, p)
    | (.stalled, p) => (.absent, p)

def perform (st : Stage) (p : Play) : Step → Result × Play
  | .call c attended =>
    let (t, p) := p.token c.token
    let p := if attended then p.drain else p
    let p := p.setWorld { p.world with attended }
    let (ending, p) := if attended then p.run (st.program c t) else p.runAlone (st.program c t)
    (.call ending, p)
  | .together cs =>
    let (programs, p) := st.programs p cs
    let p := p.drain
    let p := p.setWorld { p.world with attended := true }
    let (ending, p) := p.run (Prog.joinAll programs)
    (.calls ending, p)
  | .drain => (.absent, p.drain)
  | .sleep d => (.absent, p.setWorld (p.world.elapse d))
  | .cancel name =>
    let (t, p) := p.token (some name)
    (.flag true, p.setWorld (p.world.cancel t))
  | .toggle i on inner => st.toggle i on inner p
  | .plan caps =>
    (.plan (st.dispatcher.chain.plan p.world caps) st.dispatcher.chain.len, p)
  | .counts => (.counts (st.counters.map (countOf p.world)), p)
  | .store a => useStore p a
  | .registered type =>
    (.registered (st.registry.containsHandler type) (st.registry.provider.resolve type).isSome
      st.registry.handlerCount st.registry.debug, p)
  | .subscribed type =>
    let subs := st.registry.provider.subscribers type
    (.subscribed (subs.map Subscriber.name) (subs.map entryDebug), p)
  | .strategyFor type explicit =>
    (.strategies (st.publisher.strategyFor type explicit) st.publisher.default, p)
  | .host => (.host st.dispatcher.host, p)
  | .check r =>
    let (verdict, w) := st.validators.check r p.world
    (.check (st.validators.count r.type) verdict st.validators.debug, p.setWorld w)

/-- Play a step. A moment passes before it. -/
def play (st : Stage) (p : Play) (step : Step) : StepReport × Play :=
  let before := p.world
  let p := p.setWorld (before.elapse ⟨1000⟩)
  let (result, p) := st.perform p step
  let after := p.world
  ({ result
     log := after.log.drop before.log.length
     audits := after.audits.drop before.audits.length
     samples := after.samples.drop before.samples.length
     notes := after.notes.drop before.notes.length
     trace := after.trace.drop before.trace.length }, p)

def playAll (st : Stage) : Play → List Step → List StepReport
  | _, [] => []
  | p, step :: rest =>
    let (report, p) := st.play p step
    report :: st.playAll p rest

end Stage

structure Scenario where
  cast : Cast
  steps : List Step

/-- The reports of all steps, the last of which drains. -/
def Scenario.run (s : Scenario) : Except CastError (List StepReport) := do
  let stage ← s.cast.assemble
  return stage.playAll ⟨.start stage.world, []⟩ (s.steps ++ [.drain])

end Mediator.Rehearsal
