import Mediator.Call
import Mediator.Task

/-!
# Programs

A program over a shared state ends in a value or in a panic. On the way it reads and writes the
state, gives way until a condition on the state holds, and starts detached tasks. Between two pauses
a program runs alone.

Every program is finite. `bind` makes programs a lawful monad; `attempt` catches a panic; `guard`
runs a program unless a flag is raised first.
-/

namespace Mediator

variable {σ α β γ : Type}

inductive Prog (σ α : Type) where
  | done (value : α)
  | panic (payload : Panic)
  | get (k : σ → Prog σ α)
  | set (s : σ) (next : Prog σ α)
  /-- Give way, and go on once the condition holds. -/
  | pause (ready : σ → Bool) (next : Prog σ α)
  | spawn (task : Task σ) (next : Prog σ α)

namespace Prog

instance : Inhabited (Prog σ α) := ⟨.panic .foreign⟩

protected def bind : Prog σ α → (α → Prog σ β) → Prog σ β
  | .done a, f => f a
  | .panic p, _ => .panic p
  | .get k, f => .get fun s => (k s).bind f
  | .set s next, f => .set s (next.bind f)
  | .pause ready next, f => .pause ready (next.bind f)
  | .spawn task next, f => .spawn task (next.bind f)

instance : Monad (Prog σ) where
  pure := .done
  bind := Prog.bind

theorem bind_done (p : Prog σ α) : p.bind .done = p := by
  induction p <;> simp_all [Prog.bind]

theorem bind_assoc (p : Prog σ α) (f : α → Prog σ β) (g : β → Prog σ γ) :
    (p.bind f).bind g = p.bind fun a => (f a).bind g := by
  induction p <;> simp_all [Prog.bind]

instance : LawfulMonad (Prog σ) :=
  LawfulMonad.mk' _ bind_done (fun _ _ => rfl) bind_assoc

/-- A call as a program that never gives way. -/
def call (c : Call σ α) : Prog σ α :=
  .get fun s =>
    match c s with
    | (.ok a, s') => .set s' (.done a)
    | (.error p, s') => .set s' (.panic p)

def read : Prog σ σ := .get .done

def modify (f : σ → σ) : Prog σ Unit := .get fun s => .set (f s) (.done ())

/-- Give way once; the program goes on in the next round. -/
def turn : Prog σ Unit := .pause (fun _ => true) (.done ())

def turns : Nat → Prog σ Unit
  | 0 => .done ()
  | n + 1 => .pause (fun _ => true) (turns n)

def await (ready : σ → Bool) : Prog σ Unit :=
  .get fun s => if ready s then .done () else .pause ready (.done ())

def attempt : Prog σ α → Prog σ (Except Panic α)
  | .done a => .done (.ok a)
  | .panic p => .done (.error p)
  | .get k => .get fun s => (k s).attempt
  | .set s next => .set s next.attempt
  | .pause ready next => .pause ready next.attempt
  | .spawn task next => .spawn task next.attempt

/-- The program as a task; neither its value nor its panic is seen. -/
def detach : Prog σ α → Task σ
  | .done _ => .done
  | .panic _ => .done
  | .get k => .get fun s => (k s).detach
  | .set s next => .set s next.detach
  | .pause ready next => .pause ready next.detach
  | .spawn task next => .spawn task next.detach

/-- Run the program unless the flag is raised before it ends. Whenever the guarded program gives way
the flag is looked at, after the program had its turn; once the flag is found raised, the rest of
the program is dropped and there is no value. -/
def guard (flag : σ → Bool) : Prog σ α → Prog σ (Option α)
  | .done a => .done (some a)
  | .panic p => .panic p
  | .get k => .get fun s => (k s).guard flag
  | .set s next => .set s (next.guard flag)
  | .spawn task next => .spawn task (next.guard flag)
  | .pause ready next =>
    .get fun s =>
      if flag s then .done none
      else .pause (fun s => ready s || flag s) (.get fun s =>
        if ready s then next.guard flag else .done none)

end Prog

end Mediator
