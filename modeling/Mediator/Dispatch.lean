import Mediator.Fatal
import Mediator.Provider

/-!
# Dispatching requests

A dispatch ends in one of five ways: without a handler it fails; an outcome of the chain is its
result; an error that escapes the chain is fatal, or else a failure; and a panic is a failure.
-/

namespace Mediator

structure Dispatcher where
  provider : Provider
  chain : Chain
  host : Host

namespace Dispatcher

def span (request : Request) (op : Operation) : Span :=
  ⟨"dispatch", [("request", request.name), ("correlation_id", op.correlation.text)]⟩

def context (request : Request) (op : Operation) : RequestContext :=
  ⟨request, op.within (span request op)⟩

def settle (ctx : RequestContext) : Except Panic Reply → Action (Except Fatal (Outcome Value))
  | .ok (.ok outcome) => return .ok outcome
  | .ok (.error e) =>
    match e.classify with
    | .ok source => do
      ctx.emit (.warn "handler failed" [("request", ctx.name), ("error", source.text)])
      return .ok (.failed (.handler ctx.name source))
    | .error fatal => do
      ctx.emit (.error "fatal error escaped the pipeline"
        [("request", ctx.name), ("error", fatal.text)])
      return .error fatal
  | .error payload => do
    ctx.emit (.warn "handler panicked" [("request", ctx.name), ("panic", payload.message)])
    return .ok (.panicked ctx.name payload)

def dispatchWith (d : Dispatcher) (request : Request) (op : Operation) :
    Action (Except Fatal (Outcome Value)) :=
  let ctx := context request op
  match d.provider.resolve request.type with
  | none => do
    ctx.emit (.warn "no handler registered" [("request", ctx.name)])
    return .ok (.failed (.noHandler ctx.name))
  | some handler => do
    let w ← .read
    ctx.emit (.debug "running intercept chain"
      [("plan", Text.quoteList (d.chain.plan w ctx.capabilities))])
    let ending ← (d.chain.run ctx handler).attempt
    settle ctx ending

def dispatch (d : Dispatcher) (request : Request) (token : Token) :
    Action (Except Fatal (Outcome Value)) :=
  d.dispatchWith request (.anonymous d.host token)

end Dispatcher

end Mediator
