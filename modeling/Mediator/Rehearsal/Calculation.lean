import Mediator.Outcome

/-!
# Calculations on outcomes

A calculation is a list of combinators applied in turn to an outcome over 64-bit integers. Each step
reports which function it called and what that function saw; a panic that escapes a step leaves the
outcome as it was.
-/

namespace Mediator.Rehearsal

def fitsInt64 (n : Int) : Bool := -Int.pow 2 63 ≤ n && n < Int.pow 2 63

inductive Arithmetic where
  | add (n : Int)
  | mul (n : Int)
  | panic (payload : Panic)
  | same
deriving DecidableEq, Repr

def Arithmetic.apply : Arithmetic → Int → Except Panic Int
  | .add n, v =>
    if fitsInt64 (v + n) then .ok (v + n) else .error (.built s!"add overflow: {v} + {n}")
  | .mul n, v => if fitsInt64 (v * n) then .ok (v * n) else .error (.fixed "mul overflow")
  | .panic payload, _ => .error payload
  | .same, v => .ok v

inductive Predicate where
  | even
  | positive
  | panic (payload : Panic)
  | never
deriving DecidableEq, Repr

def Predicate.apply : Predicate → Int → Except Panic Bool
  | .even, v => .ok (v % 2 == 0)
  | .positive, v => .ok (0 < v)
  | .panic payload, _ => .error payload
  | .never, _ => .ok false

/-- What follows a success: the success of a computed value, or an outcome given in advance. -/
inductive Continuation where
  | compute (f : Arithmetic)
  | give (outcome : Outcome Int)

inductive Combinator where
  | map (f : Arithmetic)
  | andThen (next : Continuation)
  | filter (accepts : Predicate) (error : Option MediatorError)
  | onSuccess (f : Arithmetic)
  | onFailure (f : Arithmetic)
  | discard
  | value
  | result

/-- What a step showed besides the outcome that it led to. -/
inductive Sight where
  | nothing
  | number (n : Int)
  | text (t : String)
  | outcome (o : Outcome Unit)
  | result (r : Except (Shared MediatorError) Int)

structure Notes where
  called : Bool
  seen : Sight

/-- A function as a call that notes down that it ran, and what it saw. -/
def noting {α : Type} (seen : Sight) (r : Except Panic α) : Call Notes α :=
  fun _ => (r, ⟨true, seen⟩)

def Combinator.apply (o : Outcome Int) : Combinator → Call Notes (Outcome Int)
  | .map f => o.map fun v => noting .nothing (f.apply v)
  | .andThen (.compute f) => o.andThen fun v => noting .nothing ((f.apply v).map .success)
  | .andThen (.give next) => o.andThen fun _ => noting .nothing (.ok next)
  | .filter accepts error =>
    o.filter (fun v => noting .nothing (accepts.apply v)) fun v =>
      pure (error.getD (.message s!"{v} rejected"))
  | .onSuccess f => o.onSuccess fun v => noting (.number v) ((f.apply v).map fun _ => ())
  | .onFailure f => o.onFailure fun e => noting (.text e.text) ((f.apply 0).map fun _ => ())
  | .discard => do
    Call.modify fun notes => { notes with seen := .outcome o.discard }
    o.discard.map fun _ => pure 0
  | .value => do
    Call.modify fun notes => { notes with seen := (o.value?.map Sight.number).getD .nothing }
    return o
  | .result => do
    Call.modify fun notes => { notes with seen := .result o.toExcept }
    return o

structure Report where
  before : Outcome Int
  ending : Except Panic (Outcome Int)
  notes : Notes

def Report.after (r : Report) : Outcome Int :=
  match r.ending with
  | .ok o => o
  | .error _ => r.before

/-- Whether two failures carry one and the same error object; `none` unless both are failures. -/
def sharesError (a b : Outcome Int) : Option Bool :=
  match a, b with
  | .failure a, .failure b => some (a.sameObject b)
  | _, _ => none

def Report.sharesError (r : Report) : Option Bool := Rehearsal.sharesError r.before r.after

/-- The outcome with its error, if it has one, marked as this very object. -/
def marked (n : Nat) : Outcome Int → Outcome Int
  | .success v => .success v
  | .failure e => .failure { e with mark := some n }

/-- The reports of the steps. The error before the `n`-th step is marked with `n`. -/
def calculate (n : Nat) (o : Outcome Int) : List Combinator → List Report
  | [] => []
  | c :: rest =>
    let before := marked n o
    let (ending, notes) := c.apply before ⟨false, .nothing⟩
    let report : Report := ⟨before, ending, notes⟩
    report :: calculate (n + 1) report.after rest

end Mediator.Rehearsal
