import Mediator.Proofs.Prog.Run

/-!
# Programs that differ in their looks

A look at the state leaves no trace. Two programs are the same where `I` holds if they do the same
from every state in `I`, apart from looks; once a state is not in `I`, nothing is asked any more.
That is kept by all ways to compose programs, those that drop a program before its end included,
and a run that never leaves `I` cannot tell the two apart (`SameFrom.run_eq`).
-/

namespace Mediator.Prog

variable {σ α β : Type} {I : σ → Prop} {s t : σ}

inductive SameFrom (I : σ → Prop) : σ → Prog σ α → Prog σ α → Prop
  | done {s : σ} {a : α} : SameFrom I s (.done a) (.done a)
  | panic {s : σ} {e : Panic} : SameFrom I s (.panic e) (.panic e)
  | lookLeft {s : σ} {k : σ → Prog σ α} {p' : Prog σ α} (h : SameFrom I s (k s) p') :
      SameFrom I s (.get k) p'
  | lookRight {s : σ} {p : Prog σ α} {k' : σ → Prog σ α} (h : SameFrom I s p (k' s)) :
      SameFrom I s p (.get k')
  | set {s t : σ} {next next' : Prog σ α} (h : I t → SameFrom I t next next') :
      SameFrom I s (.set t next) (.set t next')
  | pause {s : σ} {ready : σ → Bool} {next next' : Prog σ α}
      (h : ∀ t, I t → SameFrom I t next next') :
      SameFrom I s (.pause ready next) (.pause ready next')
  | spawn {s : σ} {task : Task σ} {next next' : Prog σ α} (h : SameFrom I s next next') :
      SameFrom I s (.spawn task next) (.spawn task next')

def Same (I : σ → Prop) (p p' : Prog σ α) : Prop := ∀ s, I s → SameFrom I s p p'

-- ---------------------------------------------------------------------------
-- Composed programs
-- ---------------------------------------------------------------------------

theorem SameFrom.refl (s : σ) (p : Prog σ α) : SameFrom I s p p := by
  induction p generalizing s with
  | done a => exact .done
  | panic e => exact .panic
  | get k ih => exact .lookLeft (.lookRight (ih s s))
  | set t next ih => exact .set fun _ => ih t
  | pause ready next ih => exact .pause fun t _ => ih t
  | spawn task next ih => exact .spawn (ih s)

theorem Same.refl (p : Prog σ α) : Same I p p := fun s _ => .refl s p

theorem SameFrom.bind {p p' : Prog σ α} {f f' : α → Prog σ β} (h : SameFrom I s p p') (hs : I s)
    (hf : ∀ a, Same I (f a) (f' a)) : SameFrom I s (p.bind f) (p'.bind f') := by
  induction h with
  | done => exact hf _ _ hs
  | panic => exact .panic
  | lookLeft _ ih => exact .lookLeft (ih hs)
  | lookRight _ ih => exact .lookRight (ih hs)
  | set _ ih => exact .set fun ht => ih ht ht
  | pause _ ih => exact .pause fun t ht => ih t ht ht
  | spawn _ ih => exact .spawn (ih hs)

theorem Same.bind {p p' : Prog σ α} {f f' : α → Prog σ β} (h : Same I p p')
    (hf : ∀ a, Same I (f a) (f' a)) : Same I (p.bind f) (p'.bind f') :=
  fun s hs => (h s hs).bind hs hf

theorem SameFrom.attempt {p p' : Prog σ α} (h : SameFrom I s p p') :
    SameFrom I s p.attempt p'.attempt := by
  induction h with
  | done => exact .done
  | panic => exact .done
  | lookLeft _ ih => exact .lookLeft ih
  | lookRight _ ih => exact .lookRight ih
  | set _ ih => exact .set ih
  | pause _ ih => exact .pause ih
  | spawn _ ih => exact .spawn ih

theorem Same.attempt {p p' : Prog σ α} (h : Same I p p') : Same I p.attempt p'.attempt :=
  fun s hs => (h s hs).attempt

theorem SameFrom.guard {p p' : Prog σ α} (h : SameFrom I s p p') (flag : σ → Bool) :
    SameFrom I s (p.guard flag) (p'.guard flag) := by
  induction h with
  | done => exact .done
  | panic => exact .panic
  | lookLeft _ ih => exact .lookLeft ih
  | lookRight _ ih => exact .lookRight ih
  | set _ ih => exact .set ih
  | spawn _ ih => exact .spawn ih
  | @pause s ready _ _ _ ih =>
    refine .lookLeft (.lookRight ?_)
    split
    · exact .done
    · refine .pause fun t ht => .lookLeft (.lookRight ?_)
      split
      · exact ih t ht
      · exact .done

theorem Same.guard {p p' : Prog σ α} (h : Same I p p') (flag : σ → Bool) :
    Same I (p.guard flag) (p'.guard flag) := fun s hs => (h s hs).guard flag

-- ---------------------------------------------------------------------------
-- Runs
-- ---------------------------------------------------------------------------

variable {wait : (σ → Bool) → Scheduler σ → Scheduler σ} {q : Scheduler σ}

def Within (I : σ → Prop) (wait : (σ → Bool) → Scheduler σ → Scheduler σ) :
    Prog σ α → Scheduler σ → Prop
  | .done _, _ => True
  | .panic _, _ => True
  | .get k, q => (k q.state).Within I wait q
  | .set s next, q => I s ∧ next.Within I wait (q.put s)
  | .spawn task next, q => next.Within I wait (q.enqueue task)
  | .pause ready next, q =>
    ready (wait ready q).state = true → I (wait ready q).state ∧ next.Within I wait (wait ready q)

theorem within_true (p : Prog σ α) (q : Scheduler σ) : p.Within (fun _ => True) wait q := by
  induction p generalizing q with
  | done a => trivial
  | panic e => trivial
  | get k ih => exact ih q.state q
  | set s next ih => exact ⟨trivial, ih (q.put s)⟩
  | spawn task next ih => exact ih (q.enqueue task)
  | pause ready next ih => exact fun _ => ⟨trivial, ih (wait ready q)⟩

theorem SameFrom.run_eq {p p' : Prog σ α} (h : SameFrom I q.state p p') (hp : p.Within I wait q) :
    p.run wait q = p'.run wait q ∧ p'.Within I wait q := by
  generalize hs : q.state = s at h
  induction h generalizing q with
  | done => exact ⟨rfl, trivial⟩
  | panic => exact ⟨rfl, trivial⟩
  | lookLeft _ ih =>
    subst hs
    exact ih hp rfl
  | lookRight _ ih =>
    subst hs
    exact ih hp rfl
  | @set _ t _ _ _ ih =>
    obtain ⟨ht, hnext⟩ := hp
    obtain ⟨hrun, hnext'⟩ := ih ht hnext rfl
    exact ⟨hrun, ht, hnext'⟩
  | spawn _ ih => exact ih hp hs
  | @pause _ ready _ _ _ ih =>
    rw [run, run]
    by_cases hready : ready (wait ready q).state = true
    · obtain ⟨ht, hnext⟩ := hp hready
      obtain ⟨hrun, hnext'⟩ := ih _ ht hnext rfl
      rw [if_pos hready, if_pos hready]
      exact ⟨hrun, fun _ => ⟨ht, hnext'⟩⟩
    · rw [if_neg hready, if_neg hready]
      exact ⟨rfl, fun h => absurd h hready⟩

end Mediator.Prog
