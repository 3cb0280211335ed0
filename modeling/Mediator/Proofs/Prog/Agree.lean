import Mediator.Proofs.Prog.Run

/-!
# Runs that cannot be told apart

`S` says which schedulers differ in nothing that matters. Two programs agree if their runs end in
the same way and leave schedulers that are related, whenever they start with such. What is composed
of programs that agree agrees.
-/

namespace Mediator.Prog

variable {σ α β : Type} {wait : (σ → Bool) → Scheduler σ → Scheduler σ}
  {S : Scheduler σ → Scheduler σ → Prop} {p' p : Prog σ α}

def Agree (wait : (σ → Bool) → Scheduler σ → Scheduler σ) (S : Scheduler σ → Scheduler σ → Prop)
    (p' p : Prog σ α) : Prop :=
  ∀ q' q, S q' q →
    (p'.run wait q').1 = (p.run wait q).1 ∧ S (p'.run wait q').2 (p.run wait q).2

theorem agree_done (a : α) : Agree wait S (.done a) (.done a) := fun _ _ hq => ⟨rfl, hq⟩

theorem agree_panic (e : Panic) : Agree wait S (.panic e : Prog σ α) (.panic e) :=
  fun _ _ hq => ⟨rfl, hq⟩

theorem Agree.bind {f' f : α → Prog σ β} (h : Agree wait S p' p)
    (hf : ∀ a, Agree wait S (f' a) (f a)) : Agree wait S (p'.bind f') (p.bind f) := by
  intro q' q hq
  obtain ⟨hending, hstate⟩ := h q' q hq
  rw [run_bind, run_bind]
  generalize p'.run wait q' = x' at hending hstate ⊢
  generalize p.run wait q = x at hending hstate ⊢
  obtain ⟨ending, t'⟩ := x'
  obtain ⟨_, t⟩ := x
  obtain rfl := hending
  cases ending with
  | returned a => exact hf a t' t hstate
  | panicked e => exact ⟨rfl, hstate⟩
  | stalled => exact ⟨rfl, hstate⟩

theorem Agree.attempt (h : Agree wait S p' p) : Agree wait S p'.attempt p.attempt := by
  intro q' q hq
  obtain ⟨hending, hstate⟩ := h q' q hq
  rw [run_attempt, run_attempt]
  generalize p'.run wait q' = x' at hending hstate ⊢
  generalize p.run wait q = x at hending hstate ⊢
  obtain ⟨ending, t'⟩ := x'
  obtain ⟨_, t⟩ := x
  obtain rfl := hending
  cases ending <;> exact ⟨rfl, hstate⟩

theorem agree_look {k : σ → Prog σ α} (h : ∀ s, Agree wait S (k s) p) : Agree wait S (.get k) p :=
  fun q' q hq => h q'.state q' q hq

theorem agree_aside {act : Prog σ β} {f : β → Prog σ α}
    (hact : ∀ q' q, S q' q → ∃ b t, act.run wait q' = (.returned b, t) ∧ S t q)
    (h : ∀ b, Agree wait S (f b) p) : Agree wait S (act.bind f) p := by
  intro q' q hq
  obtain ⟨b, t, hrun, ht⟩ := hact q' q hq
  rw [run_bind, hrun]
  exact h b t q ht

end Mediator.Prog
