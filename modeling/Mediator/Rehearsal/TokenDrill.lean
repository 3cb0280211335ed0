import Mediator.Prog.Join
import Mediator.World

/-!
# Token drills

Steps on two tokens: they are canceled, looked at, waited for, and used to guard a program, which a
second program may cancel after some turns.
-/

namespace Mediator.Rehearsal

inductive TokenMove where
  | cancel
  | isCanceled
  | check
  | wait (cancelAfter : Option Nat)
  | guard (turns : Nat) (cancelAfter : Option Nat)

structure TokenStep where
  token : Token
  move : TokenMove

inductive TokenResult where
  | flag (b : Bool)
  | checked (canceled : Bool)
  | waited
  /-- Whether the guarded program ended, and how many turns it finished. -/
  | guarded (ended : Bool) (turns : Nat)
  | stalled
deriving DecidableEq, Repr

def countedTurns : Nat → Action Unit
  | 0 => return ()
  | n + 1 => do
    Prog.turn
    Prog.modify fun w => w.count 0
    countedTurns n

/-- The program, with one beside it that cancels the token after so many turns. -/
def besideCanceler {α : Type} (p : Action α) (t : Token) : Option Nat → Action α
  | none => p
  | some n => do
    let (a, ()) ← p.both (do Prog.turns n; Action.cancel t)
    return a

/-- The program of a guard step: whether it ended, and how many turns it finished. -/
def guardDrill (t : Token) (turns : Nat) (cancelAfter : Option Nat) : Action (Bool × Nat) :=
  besideCanceler (do
    Prog.modify fun w => { w with tally := fun _ => 0 }
    let ended := (← Action.guarded t (countedTurns turns)).isSome
    return (ended, (← Prog.read).tally 0)) t cancelAfter

def TokenStep.perform (w : World) (s : TokenStep) : TokenResult × World :=
  let t := s.token
  match s.move with
  | .cancel =>
    let w := w.cancel t
    (.flag (w.canceled t), w)
  | .isCanceled => (.flag (w.canceled t), w)
  | .check => (.checked (w.canceled t), w)
  | .wait cancelAfter =>
    let wait := besideCanceler (Action.awaitCanceled t) t cancelAfter
    match wait.run Scheduler.alone (.start w) with
    | (.returned (), q) => (.waited, q.state)
    | (_, q) => (.stalled, q.state)
  | .guard turns cancelAfter =>
    match (guardDrill t turns cancelAfter).run Scheduler.alone (.start w) with
    | (.returned (ended, n), q) => (.guarded ended n, q.state)
    | (_, q) => (.stalled, q.state)

def performTokenSteps (w : World) : List TokenStep → List TokenResult
  | [] => []
  | s :: rest =>
    let (r, w) := s.perform w
    r :: performTokenSteps w rest

end Mediator.Rehearsal
