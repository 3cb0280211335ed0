import Mediator.Proofs.Prog.Run

/-!
# Programs through their turns

What others do while a program has given way is of no concern to the program but for the state that
it finds at its next turn. `Prog.along` runs a program through any list of such states, and gives
its course: how far it gets, and what it leaves. It follows the structure of a program like a run
(`along_bind`, `along_attempt`), and every run is such a course (`exists_along_eq_run`).
-/

namespace Mediator

variable {σ α β : Type}

inductive Progress (σ α : Type) where
  | returned (value : α)
  | panicked (payload : Panic)
  | paused (ready : σ → Bool) (next : Prog σ α)

/-- A program that is left where it has given way has stalled. -/
def Progress.ending : Progress σ α → Ending α
  | .returned a => .returned a
  | .panicked e => .panicked e
  | .paused _ _ => .stalled

structure Course (σ α : Type) where
  progress : Progress σ α
  state : σ
  /-- The turns that were not needed. -/
  turns : List σ
  /-- The tasks that were started. -/
  tasks : List (Task σ)

def Course.after (c : Course σ α) (tasks : List (Task σ)) : Course σ α :=
  { c with tasks := tasks ++ c.tasks }

section
variable (c : Course σ α) (l m : List (Task σ))

@[simp] theorem Course.after_mk (progress : Progress σ α) (s : σ) (ss : List σ) :
    (Course.mk progress s ss m).after l = ⟨progress, s, ss, l ++ m⟩ := rfl

@[simp] theorem Course.after_nil : c.after [] = c := rfl

@[simp] theorem Course.after_progress : (c.after l).progress = c.progress := rfl

end

namespace Prog

/-- The course of a program that finds the state `s` at its first turn and the states `ss` at those
after it, as far as they go. -/
def along : Prog σ α → σ → List σ → Course σ α
  | .done a, s, ss => ⟨.returned a, s, ss, []⟩
  | .panic e, s, ss => ⟨.panicked e, s, ss, []⟩
  | .get k, s, ss => (k s).along s ss
  | .set s next, _, ss => next.along s ss
  | .spawn task next, s, ss => (next.along s ss).after [task]
  | .pause ready next, s, [] => ⟨.paused ready next, s, [], []⟩
  | .pause _ next, _, s :: ss => next.along s ss

@[simp] theorem along_done (a : α) (s : σ) (ss : List σ) :
    (Prog.done a).along s ss = ⟨.returned a, s, ss, []⟩ := rfl

@[simp] theorem along_panic (e : Panic) (s : σ) (ss : List σ) :
    (Prog.panic e : Prog σ α).along s ss = ⟨.panicked e, s, ss, []⟩ := rfl

@[simp] theorem along_get (k : σ → Prog σ α) (s : σ) (ss : List σ) :
    (Prog.get k).along s ss = (k s).along s ss := rfl

@[simp] theorem along_set (s' : σ) (next : Prog σ α) (s : σ) (ss : List σ) :
    (Prog.set s' next).along s ss = next.along s' ss := rfl

@[simp] theorem along_read (s : σ) (ss : List σ) :
    (read : Prog σ σ).along s ss = ⟨.returned s, s, ss, []⟩ := rfl

@[simp] theorem along_modify (f : σ → σ) (s : σ) (ss : List σ) :
    (modify f).along s ss = ⟨.returned (), f s, ss, []⟩ := rfl

@[simp] theorem along_call (c : Call σ α) (s : σ) (ss : List σ) :
    (call c).along s ss = match c s with
      | (.ok a, s') => ⟨.returned a, s', ss, []⟩
      | (.error e, s') => ⟨.panicked e, s', ss, []⟩ := by
  rcases h : c s with ⟨_ | _, s'⟩ <;> simp [call, h]

theorem along_bind (p : Prog σ α) (f : α → Prog σ β) (s : σ) (ss : List σ) :
    (p.bind f).along s ss = match p.along s ss with
      | ⟨.returned a, s', ss', l⟩ => ((f a).along s' ss').after l
      | ⟨.panicked e, s', ss', l⟩ => ⟨.panicked e, s', ss', l⟩
      | ⟨.paused ready next, s', ss', l⟩ => ⟨.paused ready (next.bind f), s', ss', l⟩ := by
  induction p generalizing s ss with
  | done a => rfl
  | panic e => rfl
  | get k ih => exact ih s s ss
  | set s' next ih => exact ih s' ss
  | spawn task next ih =>
    simp only [Prog.bind, along, ih]
    rcases next.along s ss with ⟨_ | _ | _, s', ss', l⟩ <;> rfl
  | pause ready next ih =>
    cases ss with
    | nil => rfl
    | cons s' ss => exact ih s' ss

section
variable {p : Prog σ α} {f : α → Prog σ β} {s t : σ} {ss ts : List σ} {l : List (Task σ)}

theorem along_bind_eq_returned_iff {b : β} :
    (p.bind f).along s ss = ⟨.returned b, t, ts, l⟩ ↔ ∃ a s' ss' l₁ l₂,
      p.along s ss = ⟨.returned a, s', ss', l₁⟩ ∧
      (f a).along s' ss' = ⟨.returned b, t, ts, l₂⟩ ∧ l = l₁ ++ l₂ := by
  rw [along_bind]
  rcases p.along s ss with ⟨a | _ | _, s', ss', l₁⟩
  · dsimp only
    constructor
    · intro h
      rcases hrest : (f a).along s' ss' with ⟨progress, state, turns, l₂⟩
      rw [hrest] at h
      cases h
      exact ⟨a, s', ss', l₁, l₂, rfl, hrest, rfl⟩
    · rintro ⟨_, _, _, _, l₂, ⟨⟩, hrest, rfl⟩
      rw [hrest]
      rfl
  · dsimp only
    simp
  · dsimp only
    simp

theorem along_bind_eq_panicked_iff {e : Panic} :
    (p.bind f).along s ss = ⟨.panicked e, t, ts, l⟩ ↔
      p.along s ss = ⟨.panicked e, t, ts, l⟩ ∨ ∃ a s' ss' l₁ l₂,
        p.along s ss = ⟨.returned a, s', ss', l₁⟩ ∧
        (f a).along s' ss' = ⟨.panicked e, t, ts, l₂⟩ ∧ l = l₁ ++ l₂ := by
  rw [along_bind]
  rcases p.along s ss with ⟨a | _ | _, s', ss', l₁⟩
  · dsimp only
    constructor
    · intro h
      rcases hrest : (f a).along s' ss' with ⟨progress, state, turns, l₂⟩
      rw [hrest] at h
      cases h
      exact .inr ⟨a, s', ss', l₁, l₂, rfl, hrest, rfl⟩
    · rintro (⟨⟨⟩⟩ | ⟨_, _, _, _, l₂, ⟨⟩, hrest, rfl⟩)
      rw [hrest]
      rfl
  · dsimp only
    simp
  · dsimp only
    simp

end

theorem along_attempt (p : Prog σ α) (s : σ) (ss : List σ) :
    p.attempt.along s ss = match p.along s ss with
      | ⟨.returned a, s', ss', l⟩ => ⟨.returned (.ok a), s', ss', l⟩
      | ⟨.panicked e, s', ss', l⟩ => ⟨.returned (.error e), s', ss', l⟩
      | ⟨.paused ready next, s', ss', l⟩ => ⟨.paused ready next.attempt, s', ss', l⟩ := by
  induction p generalizing s ss with
  | done a => rfl
  | panic e => rfl
  | get k ih => exact ih s s ss
  | set s' next ih => exact ih s' ss
  | spawn task next ih =>
    simp only [attempt, along, ih]
    rcases next.along s ss with ⟨_ | _ | _, s', ss', l⟩ <;> rfl
  | pause ready next ih =>
    cases ss with
    | nil => rfl
    | cons s' ss => exact ih s' ss

theorem exists_along_eq_run (wait : (σ → Bool) → Scheduler σ → Scheduler σ) (p : Prog σ α)
    (q : Scheduler σ) :
    ∃ ss, (p.along q.state ss).progress.ending = (p.run wait q).1 ∧
      ((p.run wait q).1 = .stalled ∨ (p.along q.state ss).turns = [] ∧
        (p.along q.state ss).state = (p.run wait q).2.state) := by
  induction p generalizing q with
  | done a => exact ⟨[], rfl, .inr ⟨rfl, rfl⟩⟩
  | panic e => exact ⟨[], rfl, .inr ⟨rfl, rfl⟩⟩
  | get k ih => exact ih q.state q
  | set s next ih => exact ih (q.put s)
  | spawn task next ih => exact ih (q.enqueue task)
  | pause ready next ih =>
    simp only [run]
    split
    · obtain ⟨ss, hss⟩ := ih (wait ready q)
      exact ⟨(wait ready q).state :: ss, hss⟩
    · exact ⟨[], rfl, .inl rfl⟩

end Prog

-- ---------------------------------------------------------------------------
-- Reports
-- ---------------------------------------------------------------------------

@[simp] theorem Action.along_emit (spans : List Span) (e : Event) (w : World) (ws : List World) :
    (Action.emit spans e).along w ws = ⟨.returned (), w.emit spans e, ws, []⟩ := rfl

end Mediator
