import Mediator.Proofs.Outcome.Laws

/-!
# Failures pass through the combinators

Combinators one after the other are `Stages` between outcomes. A success goes from stage to stage
until one of them fails it, or is left by a panic. A failure goes through all the stages that
follow, and none of them does anything but tell it to its hook (`Stages.failure_passes`). For every
kind of stage the relations `Succeeds`, `Fails` and `Escapes` say what calls of its functions lead
there.
-/

namespace Mediator.Outcome

/-- A combinator with the functions that it is given. -/
inductive Stage (σ : Type) : Type → Type → Type 1
  | map {α β : Type} (f : α → Call σ β) : Stage σ α β
  | andThen {α β : Type} (f : α → Call σ (Outcome β)) : Stage σ α β
  | filter {α : Type} (accepts : α → Call σ Bool) (error : α → Call σ MediatorError) : Stage σ α α
  | onSuccess {α : Type} (action : α → Call σ Unit) : Stage σ α α
  | onFailure {α : Type} (action : MediatorError → Call σ Unit) : Stage σ α α
  | discard {α : Type} : Stage σ α Unit

inductive Stages (σ : Type) : Type → Type → Type 1
  | nil {α : Type} : Stages σ α α
  | cons {α β γ : Type} (first : Stage σ α β) (rest : Stages σ β γ) : Stages σ α γ

variable {σ α β γ δ : Type}

def Stage.apply : Stage σ α β → Outcome α → Call σ (Outcome β)
  | .map f, o => o.map f
  | .andThen f, o => o.andThen f
  | .filter accepts error, o => o.filter accepts error
  | .onSuccess action, o => o.onSuccess action
  | .onFailure action, o => o.onFailure action
  | .discard, o => pure o.discard

namespace Stages

def run : {α β : Type} → Stages σ α β → Outcome α → Call σ (Outcome β)
  | _, _, .nil, o => pure o
  | _, _, .cons first rest, o => first.apply o >>= rest.run

def hooks : {α β : Type} → Stages σ α β → List (MediatorError → Call σ Unit)
  | _, _, .nil => []
  | _, _, .cons (.onFailure action) rest => action :: rest.hooks
  | _, _, .cons _ rest => rest.hooks

end Stages

-- ---------------------------------------------------------------------------
-- What becomes of a success
-- ---------------------------------------------------------------------------

namespace Stage

/-- The success of one value becomes that of another one. A hook for failures is not called. -/
inductive Succeeds : {α β : Type} → Stage σ α β → α → σ → β → σ → Prop
  | map {α β : Type} {f : α → Call σ β} {v : α} {w : β} {s t : σ} (h : f v s = (.ok w, t)) :
      Succeeds (.map f) v s w t
  | andThen {α β : Type} {f : α → Call σ (Outcome β)} {v : α} {w : β} {s t : σ}
      (h : f v s = (.ok (.success w), t)) : Succeeds (.andThen f) v s w t
  | accepted {α : Type} {accepts : α → Call σ Bool} {error : α → Call σ MediatorError} {v : α}
      {s t : σ} (h : accepts v s = (.ok true, t)) : Succeeds (.filter accepts error) v s v t
  | told {α : Type} {action : α → Call σ Unit} {v : α} {s t : σ} (h : action v s = (.ok (), t)) :
      Succeeds (.onSuccess action) v s v t
  | untold {α : Type} {action : MediatorError → Call σ Unit} {v : α} {s : σ} :
      Succeeds (.onFailure action) v s v s
  | discarded {α : Type} {v : α} {s : σ} : Succeeds .discard v s () s

inductive Fails : {α β : Type} → Stage σ α β → α → σ → Shared MediatorError → σ → Prop
  | map {α β : Type} {f : α → Call σ β} {v : α} {p : Panic} {s t : σ} (h : f v s = (.error p, t)) :
      Fails (.map f) v s (.new (.panicked "Outcome::map" (.of p))) t
  | andThen {α β : Type} {f : α → Call σ (Outcome β)} {v : α} {p : Panic} {s t : σ}
      (h : f v s = (.error p, t)) :
      Fails (.andThen f) v s (.new (.panicked "Outcome::then" (.of p))) t
  | failed {α β : Type} {f : α → Call σ (Outcome β)} {v : α} {e : Shared MediatorError} {s t : σ}
      (h : f v s = (.ok (.failure e), t)) : Fails (.andThen f) v s e t
  | refused {α : Type} {accepts : α → Call σ Bool} {error : α → Call σ MediatorError} {v : α}
      {e : MediatorError} {s t u : σ} (h : accepts v s = (.ok false, t))
      (herror : error v t = (.ok e, u)) : Fails (.filter accepts error) v s (.new e) u

inductive Escapes : {α β : Type} → Stage σ α β → α → σ → Panic → σ → Prop
  | accepts {α : Type} {accepts : α → Call σ Bool} {error : α → Call σ MediatorError} {v : α}
      {p : Panic} {s t : σ} (h : accepts v s = (.error p, t)) :
      Escapes (.filter accepts error) v s p t
  | error {α : Type} {accepts : α → Call σ Bool} {error : α → Call σ MediatorError} {v : α}
      {p : Panic} {s t u : σ} (h : accepts v s = (.ok false, t))
      (herror : error v t = (.error p, u)) : Escapes (.filter accepts error) v s p u
  | action {α : Type} {action : α → Call σ Unit} {v : α} {p : Panic} {s t : σ}
      (h : action v s = (.error p, t)) : Escapes (.onSuccess action) v s p t

variable {c : Stage σ α β} {v : α} {w : β} {e : Shared MediatorError} {p : Panic} {s t : σ}

theorem Succeeds.apply (h : c.Succeeds v s w t) :
    c.apply (success v) s = (.ok (.success w), t) := by
  cases h with
  | map h => exact map_of_ok h
  | andThen h => exact andThen_of_ok h
  | accepted h => exact Call.bind_of_ok h
  | told h => exact Call.bind_of_ok h
  | untold => rfl
  | discarded => rfl

theorem Fails.apply (h : c.Fails v s e t) : c.apply (success v) s = (.ok (.failure e), t) := by
  cases h with
  | map h => exact map_of_error h
  | andThen h => exact andThen_of_error h
  | failed h => exact andThen_of_ok h
  | refused h herror => exact (Call.bind_of_ok h).trans (Call.bind_of_ok herror)

theorem Escapes.apply (h : c.Escapes v s p t) : c.apply (success v) s = (.error p, t) := by
  cases h with
  | accepts h => exact Call.bind_of_error h
  | error h herror => exact (Call.bind_of_ok h).trans (Call.bind_of_error herror)
  | action h => exact Call.bind_of_error h

theorem takes_success (c : Stage σ α β) (v : α) (s : σ) :
    (∃ w t, c.Succeeds v s w t) ∨ (∃ e t, c.Fails v s e t) ∨ ∃ p t, c.Escapes v s p t := by
  cases c with
  | map f =>
    rcases h : f v s with ⟨p | w, t⟩
    · exact .inr (.inl ⟨_, t, .map h⟩)
    · exact .inl ⟨w, t, .map h⟩
  | andThen f =>
    rcases h : f v s with ⟨p | w | e, t⟩
    · exact .inr (.inl ⟨_, t, .andThen h⟩)
    · exact .inl ⟨w, t, .andThen h⟩
    · exact .inr (.inl ⟨e, t, .failed h⟩)
  | filter accepts error =>
    rcases h : accepts v s with ⟨p | _ | _, t⟩
    · exact .inr (.inr ⟨p, t, .accepts h⟩)
    · rcases herror : error v t with ⟨p | e, u⟩
      · exact .inr (.inr ⟨p, u, .error h herror⟩)
      · exact .inr (.inl ⟨_, u, .refused h herror⟩)
    · exact .inl ⟨v, t, .accepted h⟩
  | onSuccess action =>
    rcases h : action v s with ⟨p | _, t⟩
    · exact .inr (.inr ⟨p, t, .action h⟩)
    · exact .inl ⟨v, t, .told h⟩
  | onFailure action => exact .inl ⟨v, s, .untold⟩
  | discard => exact .inl ⟨(), s, .discarded⟩

end Stage

-- ---------------------------------------------------------------------------
-- What becomes of a failure
-- ---------------------------------------------------------------------------

/-- The hooks are told of an error, each once and one after the other, up to the first that
panics. -/
inductive Told :
    List (MediatorError → Call σ Unit) → MediatorError → σ → Except Panic Unit → σ → Prop
  | nil {e : MediatorError} {s : σ} : Told [] e s (.ok ()) s
  | cons {hook : MediatorError → Call σ Unit} {hooks : List (MediatorError → Call σ Unit)}
      {e : MediatorError} {r : Except Panic Unit} {s t u : σ} (h : hook e s = (.ok (), t))
      (hrest : Told hooks e t r u) : Told (hook :: hooks) e s r u
  | panicked {hook : MediatorError → Call σ Unit} {hooks : List (MediatorError → Call σ Unit)}
      {e : MediatorError} {p : Panic} {s t : σ} (h : hook e s = (.error p, t)) :
      Told (hook :: hooks) e s (.error p) t

theorem Stage.tells_failure {action : MediatorError → Call σ Unit} {e : Shared MediatorError}
    {s t : σ} (h : action e.value s = (.ok (), t)) :
    (Stage.onFailure action : Stage σ α α).apply (.failure e) s = (.ok (.failure e), t) :=
  Call.bind_of_ok h

theorem exists_told (hooks : List (MediatorError → Call σ Unit)) (e : MediatorError) (s : σ) :
    ∃ r t, Told hooks e s r t := by
  induction hooks generalizing s with
  | nil => exact ⟨_, s, .nil⟩
  | cons hook hooks ih =>
    rcases h : hook e s with ⟨p | _, t⟩
    · exact ⟨_, t, .panicked h⟩
    · obtain ⟨r, u, hrest⟩ := ih t
      exact ⟨r, u, .cons h hrest⟩

namespace Stages

theorem run_failure {cs : Stages σ α β} {e : Shared MediatorError} {r : Except Panic Unit}
    {s t : σ} (h : Told cs.hooks e.value s r t) :
    cs.run (.failure e) s = (r.map fun _ => .failure e, t) := by
  induction cs generalizing s with
  | nil => cases h; rfl
  | cons c cs ih =>
    cases c with
    | onFailure action =>
      rw [hooks] at h
      cases h with
      | cons h hrest => exact (Call.bind_of_ok (Stage.tells_failure h)).trans (ih hrest)
      | panicked h => exact Call.bind_of_error (Call.bind_of_error h)
    | _ => exact ih h

-- ---------------------------------------------------------------------------
-- What becomes of a success, over all stages
-- ---------------------------------------------------------------------------

inductive Succeeds : {α β : Type} → Stages σ α β → α → σ → β → σ → Prop
  | nil {α : Type} {v : α} {s : σ} : Succeeds .nil v s v s
  | cons {α β γ : Type} {c : Stage σ α β} {cs : Stages σ β γ} {v : α} {w : β} {u : γ}
      {s₁ s₂ s₃ : σ} (h : c.Succeeds v s₁ w s₂) (hrest : cs.Succeeds w s₂ u s₃) :
      Succeeds (.cons c cs) v s₁ u s₃

/-- Some stage is the first to fail the success. The hooks are those of the stages after it. -/
inductive Fails : {α β : Type} → Stages σ α β → α → σ → Shared MediatorError → σ →
    List (MediatorError → Call σ Unit) → Prop
  | here {α β γ : Type} {c : Stage σ α β} {cs : Stages σ β γ} {v : α} {e : Shared MediatorError}
      {s t : σ} (h : c.Fails v s e t) : Fails (.cons c cs) v s e t cs.hooks
  | later {α β γ : Type} {c : Stage σ α β} {cs : Stages σ β γ} {v : α} {w : β}
      {e : Shared MediatorError} {s₁ s₂ s₃ : σ} {hooks : List (MediatorError → Call σ Unit)}
      (h : c.Succeeds v s₁ w s₂) (hrest : cs.Fails w s₂ e s₃ hooks) :
      Fails (.cons c cs) v s₁ e s₃ hooks

/-- A panic leaves some stage before any has failed the success. -/
inductive Escapes : {α β : Type} → Stages σ α β → α → σ → Panic → σ → Prop
  | here {α β γ : Type} {c : Stage σ α β} {cs : Stages σ β γ} {v : α} {p : Panic} {s t : σ}
      (h : c.Escapes v s p t) : Escapes (.cons c cs) v s p t
  | later {α β γ : Type} {c : Stage σ α β} {cs : Stages σ β γ} {v : α} {w : β} {p : Panic}
      {s₁ s₂ s₃ : σ} (h : c.Succeeds v s₁ w s₂) (hrest : cs.Escapes w s₂ p s₃) :
      Escapes (.cons c cs) v s₁ p s₃

variable {cs : Stages σ α β} {v : α} {u : β} {e : Shared MediatorError} {p : Panic} {s t s' : σ}
  {later : List (MediatorError → Call σ Unit)} {r : Except Panic Unit}

theorem Succeeds.run (h : cs.Succeeds v s u t) :
    cs.run (.success v) s = (.ok (.success u), t) := by
  induction h with
  | nil => rfl
  | cons h _ ih => exact (Call.bind_of_ok h.apply).trans ih

theorem Fails.run (h : cs.Fails v s e s' later) (htold : Told later e.value s' r t) :
    cs.run (.success v) s = (r.map fun _ => .failure e, t) := by
  induction h with
  | here h => exact (Call.bind_of_ok h.apply).trans (run_failure htold)
  | later h _ ih => exact (Call.bind_of_ok h.apply).trans (ih htold)

theorem Escapes.run (h : cs.Escapes v s p t) : cs.run (.success v) s = (.error p, t) := by
  induction h with
  | here h => exact Call.bind_of_error h.apply
  | later h _ ih => exact (Call.bind_of_ok h.apply).trans ih

theorem takes_success (cs : Stages σ α β) (v : α) (s : σ) :
    (∃ u t, cs.Succeeds v s u t) ∨ (∃ e t later, cs.Fails v s e t later) ∨
      ∃ p t, cs.Escapes v s p t := by
  induction cs generalizing s with
  | nil => exact .inl ⟨v, s, .nil⟩
  | cons c cs ih =>
    obtain ⟨w, s', h⟩ | ⟨e, s', h⟩ | ⟨p, s', h⟩ := c.takes_success v s
    · obtain ⟨u, t, hrest⟩ | ⟨e, t, later, hrest⟩ | ⟨p, t, hrest⟩ := ih w s'
      · exact .inl ⟨u, t, .cons h hrest⟩
      · exact .inr (.inl ⟨e, t, later, .later h hrest⟩)
      · exact .inr (.inr ⟨p, t, .later h hrest⟩)
    · exact .inr (.inl ⟨e, s', _, .here h⟩)
    · exact .inr (.inr ⟨p, s', .here h⟩)

theorem run_success_endings (cs : Stages σ α β) (v : α) (s : σ) :
    (∃ u t, cs.Succeeds v s u t ∧ cs.run (.success v) s = (.ok (.success u), t)) ∨
    (∃ e s' later r t, cs.Fails v s e s' later ∧ Told later e.value s' r t ∧
      cs.run (.success v) s = (r.map fun _ => .failure e, t)) ∨
    ∃ p t, cs.Escapes v s p t ∧ cs.run (.success v) s = (.error p, t) := by
  obtain ⟨u, t, h⟩ | ⟨e, s', later, h⟩ | ⟨p, t, h⟩ := cs.takes_success v s
  · exact .inl ⟨u, t, h, h.run⟩
  · obtain ⟨r, t, htold⟩ := exists_told later e.value s'
    exact .inr (.inl ⟨e, s', later, r, t, h, htold, h.run htold⟩)
  · exact .inr (.inr ⟨p, t, h, h.run⟩)

theorem run_success_iff : cs.run (.success v) s = (.ok (.success u), t) ↔ cs.Succeeds v s u t := by
  refine ⟨fun hrun => ?_, Succeeds.run⟩
  obtain ⟨u', t', h, hrun'⟩ | ⟨e', s', later, r | _, t', h, htold, hrun'⟩ | ⟨p', t', h, hrun'⟩ :=
    cs.run_success_endings v s
  all_goals cases hrun.symm.trans hrun'
  exact h

theorem run_failure_iff : cs.run (.success v) s = (.ok (.failure e), t) ↔
    ∃ s' later, cs.Fails v s e s' later ∧ Told later e.value s' (.ok ()) t := by
  refine ⟨fun hrun => ?_, fun ⟨s', later, h, htold⟩ => h.run htold⟩
  obtain ⟨u', t', h, hrun'⟩ | ⟨e', s', later, r | _, t', h, htold, hrun'⟩ | ⟨p', t', h, hrun'⟩ :=
    cs.run_success_endings v s
  all_goals cases hrun.symm.trans hrun'
  exact ⟨s', later, h, htold⟩

theorem run_panic_iff : cs.run (.success v) s = (.error p, t) ↔ cs.Escapes v s p t ∨
    ∃ e s' later, cs.Fails v s e s' later ∧ Told later e.value s' (.error p) t := by
  constructor
  · intro hrun
    obtain ⟨u', t', h, hrun'⟩ | ⟨e', s', later, r | _, t', h, htold, hrun'⟩ | ⟨p', t', h, hrun'⟩ :=
      cs.run_success_endings v s
    all_goals cases hrun.symm.trans hrun'
    · exact .inr ⟨e', s', later, h, htold⟩
    · exact .inl h
  · rintro (h | ⟨e, s', later, h, htold⟩)
    · exact h.run
    · exact h.run htold

theorem run_from_failure_iff {r : Except Panic (Outcome β)} : cs.run (.failure e) s = (r, t) ↔
    ∃ told, Told cs.hooks e.value s told t ∧ r = told.map fun _ => .failure e := by
  constructor
  · intro hrun
    obtain ⟨told, t', htold⟩ := exists_told cs.hooks e.value s
    cases hrun.symm.trans (run_failure htold)
    exact ⟨told, htold, rfl⟩
  · rintro ⟨told, htold, rfl⟩
    exact run_failure htold

/-- A success comes to the end, or to a panic, or to the first stage that fails it. However it was
made, the error of that failure is the very one at the end, and after that stage nothing is called
but the hooks for failures. Only if one of them panics, a failure does not get to the end. -/
theorem failure_passes (cs : Stages σ α β) (v : α) (u : β) (e : Shared MediatorError) (p : Panic)
    (s t : σ) :
    (cs.run (.success v) s = (.ok (.success u), t) ↔ cs.Succeeds v s u t) ∧
    (cs.run (.success v) s = (.ok (.failure e), t) ↔
      ∃ s' later, cs.Fails v s e s' later ∧ Told later e.value s' (.ok ()) t) ∧
    (cs.run (.success v) s = (.error p, t) ↔ cs.Escapes v s p t ∨
      ∃ e s' later, cs.Fails v s e s' later ∧ Told later e.value s' (.error p) t) ∧
    ∀ r, cs.run (.failure e) s = (r, t) ↔
      ∃ told, Told cs.hooks e.value s told t ∧ r = told.map fun _ => .failure e :=
  ⟨run_success_iff, run_failure_iff, run_panic_iff, fun _ => run_from_failure_iff⟩

end Stages

end Mediator.Outcome
