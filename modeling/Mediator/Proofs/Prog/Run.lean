import Mediator.Prog.Join
import Mediator.World

/-!
# Runs of composed programs

A run follows the structure of a program. `Prog.run_bind` takes the run of a sequence apart at the
ending of its first part, whatever happens while the program waits, and `Prog.run_attempt` reads the
run of a program whose panic is caught off the run of the program itself. The programs that never
give way are runs of one step.
-/

namespace Mediator

variable {σ α β γ : Type}

def Ending.map (f : α → β) : Ending α → Ending β
  | .returned a => .returned (f a)
  | .panicked e => .panicked e
  | .stalled => .stalled

theorem Ending.map_eq_returned_iff {f : α → β} {ending : Ending α} {b : β} :
    ending.map f = .returned b ↔ ∃ a, ending = .returned a ∧ f a = b := by
  cases ending <;> simp [map]

theorem Ending.map_eq_panicked_iff {f : α → β} {ending : Ending α} {e : Panic} :
    ending.map f = .panicked e ↔ ending = .panicked e := by
  cases ending <;> simp [map]

def Ending.ofCaught : Except Panic α → Ending α
  | .ok a => .returned a
  | .error e => .panicked e

namespace Prog

-- ---------------------------------------------------------------------------
-- Sequences
-- ---------------------------------------------------------------------------

@[simp] theorem bind_eq (p : Prog σ α) (f : α → Prog σ β) : p >>= f = p.bind f := rfl

@[simp] theorem pure_eq (a : α) : (pure a : Prog σ α) = .done a := rfl

theorem map_eq (f : α → β) (p : Prog σ α) : f <$> p = p.bind fun a => .done (f a) := by
  rw [← bind_pure_comp]
  rfl

@[simp] theorem done_bind (a : α) (f : α → Prog σ β) : (Prog.done a).bind f = f a := rfl

theorem call_map (f : α → β) (c : Call σ α) : call (f <$> c) = f <$> call c := by
  rw [map_eq, ← bind_pure_comp]
  refine congrArg Prog.get (funext fun s => ?_)
  simp only [bind, pure, Call.bind]
  rcases c s with ⟨_ | _, _⟩ <;> rfl

section
variable (wait : (σ → Bool) → Scheduler σ → Scheduler σ)

@[simp] theorem run_done (a : α) (q : Scheduler σ) :
    (Prog.done a).run wait q = (.returned a, q) := rfl

@[simp] theorem run_get (k : σ → Prog σ α) (q : Scheduler σ) :
    (Prog.get k).run wait q = (k q.state).run wait q := rfl

theorem run_bind (p : Prog σ α) (f : α → Prog σ β) (q : Scheduler σ) :
    (p.bind f).run wait q = match p.run wait q with
      | (.returned a, q') => (f a).run wait q'
      | (.panicked e, q') => (.panicked e, q')
      | (.stalled, q') => (.stalled, q') := by
  induction p generalizing q with
  | done a => rfl
  | panic e => rfl
  | get k ih => exact ih q.state q
  | set s next ih => exact ih (q.put s)
  | spawn task next ih => exact ih (q.enqueue task)
  | pause ready next ih =>
    simp only [Prog.bind, run]
    split
    · exact ih (wait ready q)
    · rfl

theorem run_map (f : α → β) (p : Prog σ α) (q : Scheduler σ) :
    (f <$> p).run wait q = ((p.run wait q).1.map f, (p.run wait q).2) := by
  rw [map_eq, run_bind]
  rcases p.run wait q with ⟨_ | _ | _, _⟩ <;> rfl

-- ---------------------------------------------------------------------------
-- Caught panics
-- ---------------------------------------------------------------------------

theorem run_attempt (p : Prog σ α) (q : Scheduler σ) :
    p.attempt.run wait q = match p.run wait q with
      | (.returned a, q') => (.returned (.ok a), q')
      | (.panicked e, q') => (.returned (.error e), q')
      | (.stalled, q') => (.stalled, q') := by
  induction p generalizing q with
  | done a => rfl
  | panic e => rfl
  | get k ih => exact ih q.state q
  | set s next ih => exact ih (q.put s)
  | spawn task next ih => exact ih (q.enqueue task)
  | pause ready next ih =>
    simp only [attempt, run]
    split
    · exact ih (wait ready q)
    · rfl

end

theorem attempt_attempt_bind (p : Prog σ α) (f : Except Panic α → Prog σ β) :
    (p.attempt.bind f).attempt = p.attempt.bind fun r => (f r).attempt := by
  induction p with
  | done a => rfl
  | panic e => rfl
  | get k ih => exact congrArg Prog.get (funext ih)
  | set s next ih => exact congrArg (Prog.set s) ih
  | spawn task next ih => exact congrArg (Prog.spawn task) ih
  | pause ready next ih => exact congrArg (Prog.pause ready) ih

theorem attempt_bind_done (p : Prog σ α) (f : Except Panic α → β) :
    (p.attempt.bind fun r => .done (f r)).attempt
      = p.attempt.bind fun r => .done (.ok (f r)) :=
  attempt_attempt_bind p fun r => .done (f r)

-- ---------------------------------------------------------------------------
-- Programs that never give way
-- ---------------------------------------------------------------------------

def Prompt : Prog σ α → Prop
  | .done _ => True
  | .panic _ => True
  | .get k => ∀ s, (k s).Prompt
  | .set _ next => next.Prompt
  | .pause _ _ => False
  | .spawn _ next => next.Prompt

theorem Prompt.bind {p : Prog σ α} {f : α → Prog σ β} (hp : p.Prompt) (hf : ∀ a, (f a).Prompt) :
    (p.bind f).Prompt := by
  induction p with
  | done a => exact hf a
  | panic e => trivial
  | get k ih => exact fun s => ih s (hp s)
  | set s next ih => exact ih hp
  | pause ready next => exact hp.elim
  | spawn task next ih => exact ih hp

theorem prompt_call (c : Call σ α) : (call c).Prompt := by
  intro s
  dsimp only
  split <;> trivial

end Prog

-- ---------------------------------------------------------------------------
-- Reports
-- ---------------------------------------------------------------------------

@[simp] theorem Action.run_emit (wait : (World → Bool) → Scheduler World → Scheduler World)
    (spans : List Span) (e : Event) (q : Scheduler World) :
    (Action.emit spans e).run wait q = (.returned (), q.put (q.state.emit spans e)) := rfl

end Mediator
