import Mediator.Fatal
import Mediator.Prog.Join
import Mediator.Provider

/-!
# Publishing notifications

A notification is delivered to its subscribers by one of four strategies. A subscriber fails with
the error that it ends with, or with a panic of its program; a fatal error is nobody's failure but
that of the whole publish.
-/

namespace Mediator

abbrev Delivery : Type := Except Fatal (Except SubscriberFailure Unit)

namespace Subscriber

def failWith (s : Subscriber) (op : Operation) (e : Error) : Action Delivery := do
  .emit op.spans (.debug "subscriber failed" [("subscriber", s.name), ("error", e.text)])
  return .ok (.error ⟨s.name, e⟩)

def invoke (s : Subscriber) (n : Notification) (op : Operation) : Action Delivery := do
  let program ← .call (s.handle n op)
  match ← program.attempt with
  | .ok (.ok ()) => return .ok (.ok ())
  | .ok (.error e) =>
    match e.classify with
    | .ok e => s.failWith op e
    | .error fatal => return .error fatal
  | .error payload => s.failWith op (.panicked (.of payload))

end Subscriber

/-- The failures among the deliveries, unless one was fatal: then the first fatal one counts. -/
def gather : List Delivery → Except Fatal (List SubscriberFailure)
  | [] => .ok []
  | .error fatal :: _ => .error fatal
  | .ok (.ok ()) :: rest => gather rest
  | .ok (.error failure) :: rest => (gather rest).map (failure :: ·)

def summarize (attempted : Nat) : List SubscriberFailure → Outcome Unit
  | [] => .completed
  | failures => .failed (.aggregate ⟨attempted, failures⟩)

namespace Delivery

/-- One after the other; only a fatal error stops the rest. -/
def collect (n : Notification) (op : Operation) :
    List Subscriber → Action (Except Fatal (List SubscriberFailure))
  | [] => return .ok []
  | s :: rest => do
    match ← s.invoke n op with
    | .error fatal => return .error fatal
    | .ok (.ok ()) => collect n op rest
    | .ok (.error failure) => return (← collect n op rest).map (failure :: ·)

def sequential (n : Notification) (op : Operation) (subs : List Subscriber) :
    Action (Except Fatal (Outcome Unit)) :=
  return (← collect n op subs).map (summarize subs.length)

/-- One after the other, up to the first failure. -/
def failFast (n : Notification) (op : Operation) :
    List Subscriber → Action (Except Fatal (Outcome Unit))
  | [] => return .ok .completed
  | s :: rest => do
    match ← s.invoke n op with
    | .error fatal => return .error fatal
    | .ok (.ok ()) => failFast n op rest
    | .ok (.error failure) => return .ok (.failed (.subscriber failure))

/-- All together; all run to their end. -/
def parallel (n : Notification) (op : Operation) (subs : List Subscriber) :
    Action (Except Fatal (Outcome Unit)) :=
  return (gather (← .joinAll (subs.map fun s => s.invoke n op))).map (summarize subs.length)

/-- What becomes of a detached subscriber: its failure is only reported. -/
def detached (n : Notification) (op : Operation) (s : Subscriber) : Action Unit := do
  match ← s.invoke n op with
  | .ok (.ok ()) => return ()
  | .ok (.error failure) =>
    .emit op.spans (.warn "detached subscriber failed"
      [("subscriber", failure.subscriber), ("error", failure.error.text)])
  | .error fatal =>
    .emit op.spans (.warn "detached subscriber stopped"
      [("subscriber", s.name), ("error", fatal.text)])

def spawnAll (n : Notification) (op : Operation) : List Subscriber → Action Unit
  | [] => return ()
  | s :: rest => .spawn (detached n op s).detach (spawnAll n op rest)

/-- Each on a detached task, if there is somebody to run it. -/
def fireAndForget (n : Notification) (op : Operation) (subs : List Subscriber) :
    Action (Except Fatal (Outcome Unit)) := do
  let w ← .read
  if w.attended then spawnAll n op subs
  else
    .emit op.spans (.withCount
      (.warn "no tokio runtime available; notification dropped" []) "subscribers" subs.length)
  return .ok .completed

def run : Strategy → Notification → Operation → List Subscriber →
    Action (Except Fatal (Outcome Unit))
  | .sequential => sequential
  | .failFast => failFast
  | .parallel => parallel
  | .fireAndForget => fireAndForget

end Delivery

structure Publisher where
  provider : Provider
  /-- The strategy where neither the caller nor the type of the notification picks one. -/
  default : Strategy
  host : Host

namespace Publisher

def strategyFor (p : Publisher) (t : NotificationType) (explicit : Option Strategy) : Strategy :=
  (explicit <|> t.strategy).getD p.default

def span (n : Notification) (s : Strategy) (op : Operation) : Span :=
  ⟨"publish", [("notification", n.name), ("strategy", s.name),
    ("correlation_id", op.correlation.text)]⟩

def publishWith (p : Publisher) (n : Notification) (explicit : Option Strategy) (op : Operation) :
    Action (Except Fatal (Outcome Unit)) := do
  let strategy := p.strategyFor n.type explicit
  let op := op.within (span n strategy op)
  let subs := p.provider.subscribers n.type
  .emit op.spans (.withCount (.debug "publishing notification" []) "subscribers" subs.length)
  if subs.isEmpty then return .ok .completed
  else Delivery.run strategy n op subs

def publish (p : Publisher) (n : Notification) (explicit : Option Strategy) (token : Token) :
    Action (Except Fatal (Outcome Unit)) :=
  p.publishWith n explicit (.anonymous p.host token)

end Publisher

end Mediator
