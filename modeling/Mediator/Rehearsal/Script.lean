import Mediator.Prog.Join
import Mediator.Provider
import Mediator.Rehearsal.Catalogue

/-!
# Scripts

A script is a list of moves that a scripted handler or subscriber makes when it is called. A move
that fails ends the script with an error.
-/

namespace Mediator.Rehearsal

inductive Move where
  | log (line : String)
  | turns (n : Nat)
  /-- Give way for a while. -/
  | sleep (d : Duration)
  | cancel
  | check
  | awaitCanceled
  /-- Take so many turns unless the operation is canceled first. -/
  | guard (n : Nat)
  | operation
  | payload
  | fail (e : Error)
  | panic (p : Panic)

def unlessCanceled (canceled : Bool) : Except Error Unit :=
  if canceled then .error .canceled else .ok ()

def Move.perform (op : Operation) (payload : Json) : Move → Action (Except Error Unit)
  | .log line => do
    Action.write line
    return .ok ()
  | .turns n => do
    Prog.turns n
    return .ok ()
  | .sleep d => do
    Action.sleep d
    return .ok ()
  | .cancel => do
    Action.cancel op.token
    return .ok ()
  | .check => return unlessCanceled ((← Prog.read).canceled op.token)
  | .awaitCanceled => do
    Action.awaitCanceled op.token
    return .ok ()
  | .guard n => return unlessCanceled (← Action.guarded op.token (Prog.turns n)).isNone
  | .operation => do
    Prog.modify fun w => w.write (op.describe (w.canceled op.token))
    return .ok ()
  | .payload => do
    Action.write payload.render
    return .ok ()
  | .fail e => return .error e
  | .panic p => .panic p

def perform (op : Operation) (payload : Json) : List Move → Action (Except Error Unit)
  | [] => return .ok ()
  | move :: rest => do
    match ← move.perform op payload with
    | .ok () => perform op payload rest
    | .error e => return .error e

/-- The entry for the `n`-th call; later calls use the last one. -/
def take? {α : Type} (takes : List α) (n : Nat) : Option α := takes[min n (takes.length - 1)]?

/-- Count a call, and say how many there were before. Every call takes a moment. -/
def countCall (i : Nat) : Action Nat := do
  let w ← .read
  Prog.modify fun w => (w.count i).elapse ⟨1000⟩
  return w.tally i

end Mediator.Rehearsal
