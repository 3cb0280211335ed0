import Mediator.Proofs.Prog.Run

/-!
# Programs inside of programs

The run of a program goes in steps. A program *leads* to another one if that is what some steps
leave of it; it *enters* a program if what they leave is that program with its panic caught, and
something to go on with. So what is entered is run, once and from the state found there, as a part
of what has entered it (`Enters.trans`), and nothing but its ending decides how the latter goes on
(`Leads.ending`).
-/

namespace Mediator

variable {σ α β γ : Type}

namespace Prog

/-- Some steps of the run of `p` from `q` leave `p'` to be run from `q'`. -/
inductive Leads (wait : (σ → Bool) → Scheduler σ → Scheduler σ) :
    Prog σ α → Scheduler σ → Prog σ α → Scheduler σ → Prop
  | refl {p : Prog σ α} {q : Scheduler σ} : Leads wait p q p q
  | get {k : σ → Prog σ α} {p' : Prog σ α} {q q' : Scheduler σ}
      (h : Leads wait (k q.state) q p' q') : Leads wait (.get k) q p' q'
  | set {s : σ} {next p' : Prog σ α} {q q' : Scheduler σ} (h : Leads wait next (q.put s) p' q') :
      Leads wait (.set s next) q p' q'
  | spawn {task : Task σ} {next p' : Prog σ α} {q q' : Scheduler σ}
      (h : Leads wait next (q.enqueue task) p' q') : Leads wait (.spawn task next) q p' q'
  | pause {ready : σ → Bool} {next p' : Prog σ α} {q q' : Scheduler σ}
      (hready : ready (wait ready q).state = true) (h : Leads wait next (wait ready q) p' q') :
      Leads wait (.pause ready next) q p' q'

variable {wait : (σ → Bool) → Scheduler σ → Scheduler σ} {q q' q'' : Scheduler σ}

-- ---------------------------------------------------------------------------
-- Steps
-- ---------------------------------------------------------------------------

theorem Leads.trans {p p' p'' : Prog σ α} (h : p.Leads wait q p' q')
    (h' : p'.Leads wait q' p'' q'') : p.Leads wait q p'' q'' := by
  induction h with
  | refl => exact h'
  | get _ ih => exact .get (ih h')
  | set _ ih => exact .set (ih h')
  | spawn _ ih => exact .spawn (ih h')
  | pause hready _ ih => exact .pause hready (ih h')

theorem Leads.run_eq {p p' : Prog σ α} (h : p.Leads wait q p' q') :
    p.run wait q = p'.run wait q' := by
  induction h with
  | refl => rfl
  | get _ ih => exact ih
  | set _ ih => exact ih
  | spawn _ ih => exact ih
  | pause hready _ ih => exact (if_pos hready).trans ih

theorem Leads.bind {p p' : Prog σ α} (h : p.Leads wait q p' q') (f : α → Prog σ β) :
    (p.bind f).Leads wait q (p'.bind f) q' := by
  induction h with
  | refl => exact .refl
  | get _ ih => exact .get ih
  | set _ ih => exact .set ih
  | spawn _ ih => exact .spawn ih
  | pause hready _ ih => exact .pause hready ih

theorem Leads.attempt {p p' : Prog σ α} (h : p.Leads wait q p' q') :
    p.attempt.Leads wait q p'.attempt q' := by
  induction h with
  | refl => exact .refl
  | get _ ih => exact .get ih
  | set _ ih => exact .set ih
  | spawn _ ih => exact .spawn ih
  | pause hready _ ih => exact .pause hready ih

theorem leads_of_run {p : Prog σ α} {a : α} (h : p.run wait q = (.returned a, q')) :
    p.Leads wait q (.done a) q' := by
  induction p generalizing q with
  | done a' =>
    cases h
    exact .refl
  | panic e => cases h
  | get k ih => exact .get (ih q.state h)
  | set s next ih => exact .set (ih h)
  | spawn task next ih => exact .spawn (ih h)
  | pause ready next ih =>
    rw [run] at h
    split at h
    · next hready => exact .pause hready (ih h)
    · cases h

theorem leads_bind_of_run {p : Prog σ α} {a : α} (h : p.run wait q = (.returned a, q'))
    (f : α → Prog σ β) : (p.bind f).Leads wait q (f a) q' :=
  (leads_of_run h).bind f

theorem leads_call_of_ok {c : Call σ α} {a : α} {s : σ} (h : c q.state = (.ok a, s)) :
    (call c).Leads wait q (.done a) (q.put s) := by
  refine .get ?_
  rw [h]
  exact .set .refl

theorem leads_call_of_error {c : Call σ α} {e : Panic} {s : σ} (h : c q.state = (.error e, s)) :
    (call c).Leads wait q (.panic e) (q.put s) := by
  refine .get ?_
  rw [h]
  exact .set .refl

-- ---------------------------------------------------------------------------
-- Entering
-- ---------------------------------------------------------------------------

def onReturn (f : α → Prog σ β) : Except Panic α → Prog σ β
  | .ok a => f a
  | .error e => .panic e

theorem bind_eq_attempt_bind (p : Prog σ α) (f : α → Prog σ β) :
    p.bind f = p.attempt.bind (onReturn f) := by
  induction p with
  | done a => rfl
  | panic e => rfl
  | get k ih => exact congrArg Prog.get (funext ih)
  | set s next ih => exact congrArg (Prog.set s) ih
  | spawn task next ih => exact congrArg (Prog.spawn task) ih
  | pause ready next ih => exact congrArg (Prog.pause ready) ih

theorem eq_attempt_bind (p : Prog σ α) : p = p.attempt.bind (onReturn .done) := by
  rw [← bind_eq_attempt_bind, bind_done]

theorem attempt_bind_attempt (p : Prog σ α) (f : Except Panic α → Prog σ β) :
    (p.attempt.bind f).attempt = p.attempt.bind fun r => (f r).attempt := by
  induction p with
  | done a => rfl
  | panic e => rfl
  | get k ih => exact congrArg Prog.get (funext ih)
  | set s next ih => exact congrArg (Prog.set s) ih
  | spawn task next ih => exact congrArg (Prog.spawn task) ih
  | pause ready next ih => exact congrArg (Prog.pause ready) ih

/-- The run of `p` from `q` comes to run `b` from `q'`, and goes on as it likes after that. -/
def Enters (wait : (σ → Bool) → Scheduler σ → Scheduler σ) (p : Prog σ α) (q : Scheduler σ)
    (b : Prog σ β) (q' : Scheduler σ) : Prop :=
  ∃ post, p.Leads wait q (b.attempt.bind post) q'

theorem Enters.self (p : Prog σ α) (q : Scheduler σ) : p.Enters wait q p q := by
  refine ⟨onReturn .done, ?_⟩
  rw [← eq_attempt_bind]
  exact .refl

theorem Leads.enters {p p' : Prog σ α} {b : Prog σ β} (h : p.Leads wait q p' q')
    (h' : p'.Enters wait q' b q'') : p.Enters wait q b q'' := by
  obtain ⟨post, hpost⟩ := h'
  exact ⟨post, h.trans hpost⟩

theorem Enters.trans {p : Prog σ α} {b : Prog σ β} {c : Prog σ γ} (h : p.Enters wait q b q')
    (h' : b.Enters wait q' c q'') : p.Enters wait q c q'' := by
  obtain ⟨f, hf⟩ := h
  obtain ⟨g, hg⟩ := h'
  refine ⟨fun r => (g r).attempt.bind f, hf.trans ?_⟩
  have hrest := hg.attempt.bind f
  rwa [attempt_bind_attempt, bind_assoc] at hrest

theorem Leads.ending {p : Prog σ α} {b : Prog σ β} {post : Except Panic β → Prog σ α}
    {R : Ending β → Ending α → Prop} (h : p.Leads wait q (b.attempt.bind post) q')
    (hpost : ∀ r q, R (.ofCaught r) ((post r).run wait q).1) (hstalled : R .stalled .stalled) :
    R (b.run wait q').1 (p.run wait q).1 := by
  rw [h.run_eq, run_bind, run_attempt]
  rcases b.run wait q' with ⟨a | e | _, q''⟩
  · exact hpost (.ok a) q''
  · exact hpost (.error e) q''
  · exact hstalled

end Prog

end Mediator
