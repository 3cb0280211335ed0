import Mediator.Proofs.Prog.Run

/-!
# What a program may end in

`EndsIn P Q` bounds the endings of a program, whatever states it meets: it panics with what is in
`P` and returns what is in `Q`. There is a rule for each way to compose programs; a caught panic
leaves none. `EndsIn.run_returned` and `EndsIn.run_panicked` read the bound off a run.
-/

namespace Mediator.Prog

variable {σ α β : Type} {P P' : Panic → Prop} {Q Q' : α → Prop} {R : β → Prop}

/-- Whenever the program panics the payload is in `P`, and what it returns is in `Q`. -/
def EndsIn (P : Panic → Prop) (Q : α → Prop) : Prog σ α → Prop
  | .done a => Q a
  | .panic payload => P payload
  | .get k => ∀ s, (k s).EndsIn P Q
  | .set _ next => next.EndsIn P Q
  | .pause _ next => next.EndsIn P Q
  | .spawn _ next => next.EndsIn P Q

theorem EndsIn.mono {p : Prog σ α} (h : p.EndsIn P Q) (hP : ∀ e, P e → P' e)
    (hQ : ∀ a, Q a → Q' a) : p.EndsIn P' Q' := by
  induction p with
  | done a => exact hQ a h
  | panic e => exact hP e h
  | get k ih => exact fun s => ih s (h s)
  | set s next ih => exact ih h
  | pause ready next ih => exact ih h
  | spawn task next ih => exact ih h

-- ---------------------------------------------------------------------------
-- Composed programs
-- ---------------------------------------------------------------------------

theorem EndsIn.bind {p : Prog σ α} {f : α → Prog σ β} (hp : p.EndsIn P Q)
    (hf : ∀ a, Q a → (f a).EndsIn P R) : (p.bind f).EndsIn P R := by
  induction p with
  | done a => exact hf a hp
  | panic e => exact hp
  | get k ih => exact fun s => ih s (hp s)
  | set s next ih => exact ih hp
  | pause ready next ih => exact ih hp
  | spawn task next ih => exact ih hp

theorem endsIn_call {c : Call σ α} (herror : ∀ s e, (c s).1 = .error e → P e)
    (hok : ∀ s a, (c s).1 = .ok a → Q a) : (call c).EndsIn P Q := by
  intro s
  rcases hc : c s with ⟨_ | _, s'⟩
  · simpa [EndsIn, hc] using herror s _ (by rw [hc])
  · simpa [EndsIn, hc] using hok s _ (by rw [hc])

theorem endsIn_attempt (p : Prog σ α) : p.attempt.EndsIn P fun _ => True := by
  induction p with
  | done a => trivial
  | panic e => trivial
  | get k ih => exact ih
  | set s next ih => exact ih
  | pause ready next ih => exact ih
  | spawn task next ih => exact ih

-- ---------------------------------------------------------------------------
-- Joins
-- ---------------------------------------------------------------------------

theorem EndsIn.resume {next : Prog σ α} (h : next.EndsIn P Q) (ready : σ → Bool) :
    (next.resume ready).EndsIn P Q := by
  intro s
  show (if ready s then next else .pause ready next).EndsIn P Q
  split <;> exact h

theorem EndsIn.both {p : Prog σ α} {q : Prog σ β} (hp : p.EndsIn P Q) (hq : q.EndsIn P R) :
    (p.both q).EndsIn P fun ab => Q ab.1 ∧ R ab.2 := by
  induction p generalizing q with
  | done a => exact hq.bind fun b hb => ⟨hp, hb⟩
  | panic e => exact hp
  | get k ih => exact fun s => ih s (hp s) hq
  | set s next ih => exact ih hp hq
  | spawn task next ih => exact ih hp hq
  | pause ready next ih =>
    -- The left program has given way, and the right one has its turn.
    unfold Prog.both
    induction q with
    | done b => exact EndsIn.bind (p := next) hp fun a ha => ⟨ha, hq⟩
    | panic e => exact hq
    | get k ihq => exact fun s => ihq s (hq s)
    | set s next' ihq => exact ihq hq
    | spawn task next' ihq => exact ihq hq
    | pause ready' next' ihq =>
      intro s
      cases hready : ready s with
      | true =>
        have hnext : next'.EndsIn P R := hq
        simpa [hready] using ih hp (hnext.resume ready')
      | false => simpa [hready] using ihq hq

theorem endsIn_joinAll {ps : List (Prog σ α)} (h : ∀ p ∈ ps, p.EndsIn P Q) :
    (joinAll ps).EndsIn P fun as => as.length = ps.length ∧ ∀ a ∈ as, Q a := by
  induction ps with
  | nil => exact ⟨rfl, nofun⟩
  | cons p ps ih =>
    have hps := ih fun p hp => h p (List.mem_cons_of_mem _ hp)
    refine ((h p List.mem_cons_self).both hps).bind ?_
    rintro ⟨a, as⟩ ⟨ha, hlength, has⟩
    exact ⟨congrArg (· + 1) hlength, List.forall_mem_cons.mpr ⟨ha, has⟩⟩

-- ---------------------------------------------------------------------------
-- Runs
-- ---------------------------------------------------------------------------

theorem EndsIn.run {p : Prog σ α} (h : p.EndsIn P Q)
    (wait : (σ → Bool) → Scheduler σ → Scheduler σ) (q : Scheduler σ) :
    match (p.run wait q).1 with
    | .returned a => Q a
    | .panicked e => P e
    | .stalled => True := by
  induction p generalizing q with
  | done a => exact h
  | panic e => exact h
  | get k ih => exact ih _ (h _) q
  | set s next ih => exact ih h (q.put s)
  | spawn task next ih => exact ih h (q.enqueue task)
  | pause ready next ih =>
    simp only [Prog.run]
    cases ready (wait ready q).state with
    | true => exact ih h _
    | false => trivial

variable {wait : (σ → Bool) → Scheduler σ → Scheduler σ} {p : Prog σ α} {q : Scheduler σ}

theorem EndsIn.run_panicked {e : Panic} (h : p.EndsIn P Q)
    (he : (p.run wait q).1 = .panicked e) : P e := by
  have hrun := h.run wait q
  rwa [he] at hrun

theorem EndsIn.run_returned {a : α} (h : p.EndsIn P Q) (ha : (p.run wait q).1 = .returned a) :
    Q a := by
  have hrun := h.run wait q
  rwa [ha] at hrun

end Mediator.Prog
