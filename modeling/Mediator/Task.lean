/-!
# Tasks

A task is a detached program over a shared state: it reads and writes the state, pauses until a
condition on the state holds, and starts further tasks. Nobody sees how it ends.

Tasks are finite: every step leads to a smaller task, whatever state the step meets. The main
statement is `Bag.wellFounded`: a collection of tasks cannot be worked on forever if each piece of
work replaces one task by finitely many smaller ones.
-/

namespace Mediator

variable {σ : Type}

inductive Task (σ : Type) where
  | done
  | get (k : σ → Task σ)
  | set (s : σ) (next : Task σ)
  | pause (ready : σ → Bool) (next : Task σ)
  | spawn (task : Task σ) (next : Task σ)

namespace Task

instance : Inhabited (Task σ) := ⟨.done⟩

/-- One task is what remains of another after a single step, or is started by it. -/
inductive Step : Task σ → Task σ → Prop
  | get (k : σ → Task σ) (s : σ) : Step (k s) (.get k)
  | set (s : σ) (next : Task σ) : Step next (.set s next)
  | pause (ready : σ → Bool) (next : Task σ) : Step next (.pause ready next)
  | spawned (task next : Task σ) : Step task (.spawn task next)
  | spawn (task next : Task σ) : Step next (.spawn task next)

theorem Step.acc (t : Task σ) : Acc Step t := by
  induction t with
  | done => exact ⟨_, nofun⟩
  | get k ih => exact ⟨_, fun | _, .get _ s => ih s⟩
  | set s next ih => exact ⟨_, fun | _, .set _ _ => ih⟩
  | pause ready next ih => exact ⟨_, fun | _, .pause _ _ => ih⟩
  | spawn task next ih₁ ih₂ => exact ⟨_, fun
      | _, .spawned _ _ => ih₁
      | _, .spawn _ _ => ih₂⟩

def Smaller : Task σ → Task σ → Prop := Relation.TransGen Step

theorem Smaller.wellFounded : WellFounded (Smaller (σ := σ)) :=
  WellFounded.transGen ⟨Step.acc⟩

theorem Smaller.of_step {t u : Task σ} (h : Step t u) : Smaller t u := .single h

theorem Smaller.trans {t u v : Task σ} (h : Smaller t u) (h' : Smaller u v) : Smaller t v :=
  Relation.TransGen.trans h h'

end Task

/-! ## Collections that shrink -/

namespace Bag

variable {α : Type}

/-- The first list is, up to order, the second with one member replaced by smaller ones. -/
def Shrinks (r : α → α → Prop) (after before : List α) : Prop :=
  ∃ x rest new, before.Perm (x :: rest) ∧ after.Perm (new ++ rest) ∧ ∀ y ∈ new, r y x

variable {r : α → α → Prop}

theorem acc_of_perm {l m : List α} (h : Acc (Shrinks r) l) (p : l.Perm m) : Acc (Shrinks r) m :=
  ⟨_, fun _ ⟨x, rest, new, hm, ha, hn⟩ => h.inv ⟨x, rest, new, p.trans hm, ha, hn⟩⟩

theorem acc_append {new l : List α} (hl : Acc (Shrinks r) l)
    (h : ∀ y ∈ new, ∀ m, Acc (Shrinks r) m → Acc (Shrinks r) (y :: m)) :
    Acc (Shrinks r) (new ++ l) := by
  induction new with
  | nil => exact hl
  | cons y new ih =>
    exact h y (List.mem_cons_self ..) _ (ih fun z hz => h z (List.mem_cons_of_mem _ hz))

theorem acc_cons {x : α} (hx : Acc r x) : ∀ l, Acc (Shrinks r) l → Acc (Shrinks r) (x :: l) := by
  induction hx with
  | intro x _ ihx =>
    intro l hl
    induction hl with
    | intro l hl ihl =>
      refine ⟨_, fun m ⟨z, rest, new, hz, hm, hnew⟩ => ?_⟩
      have hmem : x ∈ z :: rest := hz.mem_iff.1 (List.mem_cons_self ..)
      by_cases hxz : x = z
      · subst hxz
        have hrest : l.Perm rest := hz.cons_inv
        exact acc_of_perm
          (acc_append ⟨_, fun m h => hl m h⟩ fun y hy => ihx y (hnew y hy))
          ((List.Perm.append_left new hrest).trans hm.symm)
      · obtain ⟨a, b, rfl⟩ := List.append_of_mem ((List.mem_cons.1 hmem).resolve_left hxz)
        have hl' : l.Perm (z :: (a ++ b)) :=
          (hz.trans ((List.perm_middle.cons z).trans (List.Perm.swap x z _))).cons_inv
        refine acc_of_perm (ihl (new ++ (a ++ b)) ⟨z, a ++ b, new, hl', .refl _, hnew⟩) ?_
        refine (List.perm_middle.symm.trans (List.Perm.append_left new ?_)).trans hm.symm
        exact List.perm_middle.symm

theorem wellFounded (h : WellFounded r) : WellFounded (Shrinks r) :=
  ⟨fun l => by
    induction l with
    | nil => exact ⟨_, fun _ ⟨_, _, _, hp, _⟩ => absurd hp.length_eq (by simp)⟩
    | cons x l ih => exact acc_cons (h.apply x) l ih⟩

end Bag

end Mediator
