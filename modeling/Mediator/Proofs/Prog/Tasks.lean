import Mediator.Proofs.Prog.Crew

/-!
# Detached tasks

The tasks that a crew has detached keep their places among one another. `Crew.Works` tells a run of
a crew together with the turns that tasks take in it. Whatever the others do in between, a task gets
just as far as a program alone would get that finds the same states at its turns (`Works.through`).
-/

namespace Mediator

variable {ι σ α β : Type}

-- ---------------------------------------------------------------------------
-- Turns of programs
-- ---------------------------------------------------------------------------

namespace Prog

theorem along_nil_turns (p : Prog σ α) (s : σ) : (p.along s []).turns = [] := by
  induction p generalizing s with
  | done a => rfl
  | panic e => rfl
  | get k ih => exact ih s s
  | set s' next ih => exact ih s'
  | spawn task next ih => exact ih s
  | pause ready next _ => rfl

theorem along_snoc {p : Prog σ α} {s : σ} {ss : List σ} {ready : σ → Bool} {next : Prog σ α}
    (h : (p.along s ss).progress = .paused ready next) (s' : σ) :
    p.along s (ss ++ [s']) = (next.along s' []).after (p.along s ss).tasks := by
  induction p generalizing s ss with
  | done a => cases h
  | panic e => cases h
  | get k ih => exact ih s h
  | set t p ih => exact ih h
  | spawn task p ih =>
    simp only [along, Course.after_progress] at h ⊢
    rw [ih h]
    rfl
  | pause r p ih =>
    cases ss with
    | nil =>
      cases h
      rfl
    | cons t ss => exact ih h

/-- A program ends at the same turn if its panic is caught and something is done at once after
it. -/
theorem along_attempt_bind {p : Prog σ α} {f : Except Panic α → Prog σ β}
    (hf : ∀ r s ss, ∃ b s', (f r).along s ss = ⟨.returned b, s', ss, []⟩) (s : σ) (ss : List σ) :
    (((p.attempt.bind f).along s ss).progress.ending = .stalled ↔
      (p.along s ss).progress.ending = .stalled) ∧
      ((p.attempt.bind f).along s ss).turns = (p.along s ss).turns := by
  rw [along_bind, along_attempt]
  rcases p.along s ss with ⟨a | e | ⟨ready, next⟩, s', ss', l⟩
  · obtain ⟨b, s'', hend⟩ := hf (.ok a) s' ss'
    simp [hend, Progress.ending]
  · obtain ⟨b, s'', hend⟩ := hf (.error e) s' ss'
    simp [hend, Progress.ending]
  · simp [Progress.ending]

end Prog

def Progress.detach : Progress σ α → Progress σ Unit
  | .returned _ => .returned ()
  | .panicked _ => .returned ()
  | .paused ready next => .paused ready next.detach.program

theorem Progress.ending_detach_eq_stalled_iff {x : Progress σ α} :
    x.detach.ending = .stalled ↔ x.ending = .stalled := by
  cases x <;> simp [detach, ending]

theorem Prog.along_detach (p : Prog σ α) (s : σ) (ss : List σ) :
    p.detach.program.along s ss =
      let c := p.along s ss
      ⟨c.progress.detach, c.state, c.turns, c.tasks⟩ := by
  induction p generalizing s ss with
  | done a => rfl
  | panic e => rfl
  | get k ih => exact ih s s ss
  | set s' next ih => exact ih s' ss
  | spawn task next ih =>
    simp only [detach, Task.program, along, ih]
    rfl
  | pause ready next ih =>
    cases ss with
    | nil => rfl
    | cons s' ss => exact ih s' ss

def Task.Through (t : Task σ) (x : Progress σ Unit) : List σ → Prop
  | [] => x = t.fresh
  | s :: ss => (t.program.along s ss).progress = x ∧ (t.program.along s ss).turns = []

theorem Task.Through.snoc {t : Task σ} {ready : σ → Bool} {next : Prog σ Unit} {ss : List σ}
    (h : t.Through (.paused ready next) ss) (s : σ) :
    t.Through (next.along s []).progress (ss ++ [s]) := by
  cases ss with
  | nil =>
    cases h
    exact ⟨rfl, Prog.along_nil_turns t.program s⟩
  | cons s₁ ss =>
    rw [List.cons_append, Through, Prog.along_snoc h.1 s]
    exact ⟨rfl, Prog.along_nil_turns next s⟩

-- ---------------------------------------------------------------------------
-- Turns of tasks
-- ---------------------------------------------------------------------------

/-- A task takes a turn. Tasks are numbered as they have been started. -/
structure TaskTurn (σ : Type) where
  task : Nat
  found : σ

def foundBy (i : Nat) (turns : List (TaskTurn σ)) : List σ :=
  (turns.filter (·.task == i)).map (·.found)

theorem foundBy_snoc (i : Nat) (turns : List (TaskTurn σ)) (turn : TaskTurn σ) :
    foundBy i (turns ++ [turn]) =
      foundBy i turns ++ if turn.task = i then [turn.found] else [] := by
  by_cases h : turn.task = i <;> simp [foundBy, h]

namespace Crew

variable [DecidableEq ι] {others : σ → σ → Prop} {c c' : Crew ι σ α} {turns : List (TaskTurn σ)}

inductive Works (others : σ → σ → Prop) (c : Crew ι σ α) : List (TaskTurn σ) → Crew ι σ α → Prop
  | refl : Works others c [] c
  | turn {turns : List (TaskTurn σ)} {c' : Crew ι σ α} {i : ι} {ready : σ → Bool}
      {next : Prog σ α} (h : Works others c turns c') (hi : c'.members i = .paused ready next)
      (hready : ready c'.state = true) : Works others c turns (c'.turn i next)
  | task {turns : List (TaskTurn σ)} {c' : Crew ι σ α} {before after : List (Progress σ Unit)}
      {ready : σ → Bool} {next : Prog σ Unit} (h : Works others c turns c')
      (hc : c'.tasks = before ++ .paused ready next :: after) (hready : ready c'.state = true) :
      Works others c (turns ++ [⟨before.length, c'.state⟩]) (c'.taskTurn before next after)
  | disturb {turns : List (TaskTurn σ)} {c' : Crew ι σ α} {s : σ} (h : Works others c turns c')
      (hs : others c'.state s) : Works others c turns (c'.disturb s)

theorem reaches_iff_works : Reaches others c c' ↔ ∃ turns, Works others c turns c' := by
  constructor
  · intro h
    induction h with
    | refl => exact ⟨[], .refl⟩
    | tail _ hstep ih =>
      obtain ⟨turns, hworks⟩ := ih
      cases hstep with
      | turn hi hready => exact ⟨turns, hworks.turn hi hready⟩
      | task hc hready => exact ⟨_, hworks.task hc hready⟩
      | disturb hs => exact ⟨turns, hworks.disturb hs⟩
  · rintro ⟨turns, h⟩
    induction h with
    | refl => exact .refl
    | turn _ hi hready ih => exact ih.tail (.turn hi hready)
    | task _ hc hready ih => exact ih.tail (.task hc hready)
    | disturb _ hs ih => exact ih.tail (.disturb hs)

omit [DecidableEq ι] in
theorem taskTurn_getElem? {before after : List (Progress σ Unit)} {x : Progress σ Unit}
    (hc : c.tasks = before ++ x :: after) (next : Prog σ Unit) {i : Nat}
    (hi : i < c.tasks.length) :
    (c.taskTurn before next after).tasks[i]? =
      if before.length = i then some (next.along c.state []).progress else c.tasks[i]? := by
  have hset : (c.taskTurn before next after).tasks =
      c.tasks.set before.length (next.along c.state []).progress ++
        (next.along c.state []).tasks.map Task.fresh := by
    simp [taskTurn, hc]
  rw [hset, List.getElem?_append_left (by simpa using hi), List.getElem?_set]
  split
  · next h => rw [if_pos (h ▸ hi)]
  · rfl

theorem Works.through {t : Task σ} {i : Nat} (h : Works others c turns c')
    (hfresh : c.tasks[i]? = some t.fresh) :
    ∃ x, c'.tasks[i]? = some x ∧ t.Through x (foundBy i turns) := by
  induction h with
  | refl => exact ⟨t.fresh, hfresh, rfl⟩
  | turn _ _ _ ih =>
    obtain ⟨x, hx, hthrough⟩ := ih
    exact ⟨x, (List.getElem?_append_left (List.getElem?_eq_some_iff.mp hx).1).trans hx, hthrough⟩
  | @task turns c' before after ready next _ hc _ ih =>
    obtain ⟨x, hx, hthrough⟩ := ih
    rw [taskTurn_getElem? hc next (List.getElem?_eq_some_iff.mp hx).1, foundBy_snoc]
    -- Only the task whose turn it is gets any further, and only its turns become more.
    by_cases hi : before.length = i
    · have hpaused : x = .paused ready next := by simpa [hc, ← hi] using hx.symm
      rw [if_pos hi, if_pos hi]
      exact ⟨_, rfl, (hpaused ▸ hthrough).snoc c'.state⟩
    · rw [if_neg hi, if_neg hi, List.append_nil]
      exact ⟨x, hx, hthrough⟩
  | disturb _ _ ih => exact ih

end Crew

end Mediator
