import Mediator.Proofs.Prog.Run

/-!
# Programs among others

While a program has given way, others act. `Prog.Meets` says what a program does on the terms on
which it runs: it relies on what the others leave as it is, guarantees something in return, waits
only for what will come to pass, and then returns a value that satisfies a postcondition. The
others are a parameter: a program that meets its terms ends, whoever they are, as long as they keep
to theirs (`Meets.run`).
-/

namespace Mediator

variable {σ α β : Type}

/-- What programs that run together have to know of each other. -/
structure Setting (σ : Type) where
  /-- A change of the state that may happen at all. -/
  steps : σ → σ → Prop
  /-- Whoever waits for this condition in this state will see it hold. -/
  grants : (σ → Bool) → σ → Prop
  /-- A task that may be started. -/
  starts : Task σ → Prop
  steps_refl : ∀ s, steps s s
  steps_trans : ∀ {s s' s''}, steps s s' → steps s' s'' → steps s s''
  grants_mono : ∀ {ready ready' s}, (∀ s, ready s = true → ready' s = true) → grants ready s →
    grants ready' s
  grants_steps : ∀ {ready s s'}, steps s s' → grants ready s → grants ready s'

/-- What happens while a program waits changes the state as `rely` says, fulfils what is granted,
and leaves no task that could not have been started. -/
def Setting.Serves (env : Setting σ) (rely : σ → σ → Prop)
    (wait : (σ → Bool) → Scheduler σ → Scheduler σ) : Prop :=
  ∀ ready q, (∀ t ∈ q.tasks, env.starts t) →
    rely q.state (wait ready q).state ∧
    (env.grants ready q.state → ready (wait ready q).state = true) ∧
    ∀ t ∈ (wait ready q).tasks, env.starts t

-- ---------------------------------------------------------------------------
-- Taking turns
-- ---------------------------------------------------------------------------

def Setting.turns (σ : Type) : Setting σ where
  steps _ _ := True
  grants ready _ := ∀ s, ready s = true
  starts _ := False
  steps_refl _ := trivial
  steps_trans _ _ := trivial
  grants_mono hmono h s := hmono s (h s)
  grants_steps _ h := h

theorem Scheduler.putAll_state_mem (q : Scheduler σ) (ss : List σ) :
    (q.putAll ss).state ∈ q.state :: ss := by
  unfold putAll
  induction ss generalizing q with
  | nil => exact List.mem_singleton.mpr rfl
  | cons s ss ih => exact List.mem_cons_of_mem _ (ih (q.put s))

theorem Scheduler.slices_of_queue_eq_nil (n : Nat) {q : Scheduler σ} (h : q.queue = []) :
    slices n q = q := by
  cases n with
  | zero => rfl
  | succ n => simp [slices, h]

theorem Scheduler.attend_of_tasks_eq_nil {idle : (σ → Bool) → σ → List σ} (ready : σ → Bool)
    {q : Scheduler σ} (h : q.tasks = []) :
    q.attend idle ready = q.putAll (idle (q.busy ready) q.state) := by
  have hqueue : ∀ q : Scheduler σ, q.tasks = [] → q.queue = [] :=
    fun q h => (List.append_eq_nil_iff.mp h).1
  have hlater : (q.putAll (idle (q.busy ready) q.state)).queue = [] :=
    hqueue _ (List.Perm.eq_nil (h ▸ q.tasks_putAll _))
  rw [attend, slices_of_queue_eq_nil _ (hqueue q h), await]
  simp [hlater]

/-- The scheduler serves programs that take turns as long as time alone changes nothing that they
rely on. -/
theorem Setting.turns_serves_attend {idle : (σ → Bool) → σ → List σ} {rely : σ → σ → Prop}
    (hrefl : ∀ s, rely s s) (hidle : ∀ ready s, ∀ s' ∈ idle ready s, rely s s') :
    (turns σ).Serves rely fun ready q => q.attend idle ready := by
  intro ready q htasks
  have hnil : q.tasks = [] := List.eq_nil_iff_forall_not_mem.mpr htasks
  simp only [Scheduler.attend_of_tasks_eq_nil ready hnil]
  refine ⟨?_, fun h => h _, fun t ht => ?_⟩
  · obtain h | h := List.mem_cons.mp (q.putAll_state_mem (idle (q.busy ready) q.state))
    · rw [h]
      exact hrefl _
    · exact hidle _ _ _ h
  · exact htasks t ((q.tasks_putAll _).mem_iff.mp ht)

namespace Prog

/-- From a state on, the program returns what satisfies `post` if, while it has given way, the state
changes by `rely` only. It changes the state by `guar` only, waits for granted conditions, and does
not panic. -/
def Meets (env : Setting σ) (rely guar : σ → σ → Prop) (post : α → σ → Prop) :
    Prog σ α → σ → Prop
  | .done a, s => post a s
  | .panic _, _ => False
  | .get k, s => (k s).Meets env rely guar post s
  | .set s' next, s => guar s s' ∧ next.Meets env rely guar post s'
  | .pause ready next, s =>
    env.grants ready s ∧
      ∀ s', rely s s' → ready s' = true → next.Meets env rely guar post s'
  | .spawn task next, s => env.starts task ∧ next.Meets env rely guar post s

variable {env : Setting σ} {rely rely' guar guar' : σ → σ → Prop} {post post' : α → σ → Prop}

-- ---------------------------------------------------------------------------
-- Composed programs
-- ---------------------------------------------------------------------------

/-- A program that knows more of the others and may do more itself still leaves alone what neither
it nor the others touch. -/
theorem Meets.frame {p : Prog σ α} {s : σ} (keeps : σ → Prop) (h : p.Meets env rely guar post s)
    (hrely : ∀ s s', rely' s s' → rely s s') (hguar : ∀ s s', guar s s' → guar' s s')
    (hkeeps : keeps s) (hkeepsGuar : ∀ s s', guar s s' → keeps s → keeps s')
    (hkeepsRely : ∀ s s', rely' s s' → keeps s → keeps s')
    (hpost : ∀ a s, post a s → keeps s → post' a s) : p.Meets env rely' guar' post' s := by
  induction p generalizing s with
  | done a => exact hpost a s h hkeeps
  | panic e => exact h
  | get k ih => exact ih s h hkeeps
  | set s' next ih => exact ⟨hguar s s' h.1, ih h.2 (hkeepsGuar s s' h.1 hkeeps)⟩
  | spawn task next ih => exact ⟨h.1, ih h.2 hkeeps⟩
  | pause ready next ih =>
    refine ⟨h.1, fun s' hs hready => ?_⟩
    exact ih (h.2 s' (hrely s s' hs) hready) (hkeepsRely s s' hs hkeeps)

theorem Meets.mono {p : Prog σ α} {s : σ} (h : p.Meets env rely guar post s)
    (hrely : ∀ s s', rely' s s' → rely s s') (hguar : ∀ s s', guar s s' → guar' s s')
    (hpost : ∀ a s, post a s → post' a s) : p.Meets env rely' guar' post' s :=
  h.frame (fun _ => True) hrely hguar trivial (fun _ _ _ h => h) (fun _ _ _ h => h)
    fun a s hp _ => hpost a s hp

theorem Meets.bind {p : Prog σ α} {f : α → Prog σ β} {s : σ} {post' : β → σ → Prop}
    (hp : p.Meets env rely guar post s)
    (hf : ∀ a s, post a s → (f a).Meets env rely guar post' s) :
    (p.bind f).Meets env rely guar post' s := by
  induction p generalizing s with
  | done a => exact hf a s hp
  | panic e => exact hp.elim
  | get k ih => exact ih s hp
  | set s' next ih => exact ⟨hp.1, ih hp.2⟩
  | spawn task next ih => exact ⟨hp.1, ih hp.2⟩
  | pause ready next ih => exact ⟨hp.1, fun s' hs hready => ih (hp.2 s' hs hready)⟩

-- ---------------------------------------------------------------------------
-- Runs
-- ---------------------------------------------------------------------------

theorem Meets.run {p : Prog σ α} {wait : (σ → Bool) → Scheduler σ → Scheduler σ}
    {q : Scheduler σ} (h : p.Meets env rely guar post q.state) (hwait : env.Serves rely wait)
    (htasks : ∀ t ∈ q.tasks, env.starts t) :
    ∃ a q', p.run wait q = (.returned a, q') ∧ post a q'.state := by
  induction p generalizing q with
  | done a => exact ⟨a, q, rfl, h⟩
  | panic e => exact h.elim
  | get k ih => exact ih q.state h htasks
  | set s' next ih =>
    exact ih (q := q.put s') h.2 fun t ht => htasks t ((q.tasks_put s').mem_iff.mp ht)
  | spawn task next ih =>
    refine ih (q := q.enqueue task) h.2 fun t ht => ?_
    obtain rfl | ht := List.mem_cons.mp ((q.tasks_enqueue task).mem_iff.mp ht)
    · exact h.1
    · exact htasks t ht
  | pause ready next ih =>
    obtain ⟨hrely, hready, htasks'⟩ := hwait ready q htasks
    have hready := hready h.1
    obtain ⟨a, q', hrun, hpost⟩ := ih (h.2 _ hrely hready) htasks'
    exact ⟨a, q', by simp [Prog.run, hready, hrun], hpost⟩

end Prog

end Mediator
