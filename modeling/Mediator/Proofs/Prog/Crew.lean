import Mediator.Proofs.Prog.Accountable
import Mathlib.Logic.Function.Basic

/-!
# Crews

A crew is a collection of programs under way, with the tasks that they have detached, each of which
has given way or has ended. One of those that can go on takes a turn, whichever it may be, or others
change the state: so a crew runs its programs one after the other, or interleaved where they give
way, in every possible order. If all members are accountable, then one book accounts for all that a
crew has come to (`Reaches.accountable`).
-/

namespace Mediator

variable {γ ι σ α : Type}

/-- The states that a program leaves behind, one for each change that it makes in a turn. -/
def Prog.trail : Prog σ α → σ → List σ
  | .done _, _ => []
  | .panic _, _ => []
  | .get k, s => (k s).trail s
  | .set s' next, s => s :: next.trail s'
  | .spawn _ next, s => next.trail s
  | .pause _ _, _ => []

def Task.program : Task σ → Prog σ Unit
  | .done => .done ()
  | .get k => .get fun s => (k s).program
  | .set s next => .set s next.program
  | .spawn task next => .spawn task next.program
  | .pause ready next => .pause ready next.program

def Task.fresh (t : Task σ) : Progress σ Unit := .paused (fun _ => true) t.program

structure Crew (ι σ α : Type) where
  /-- The states that are left behind, the oldest first. -/
  past : List σ
  state : σ
  members : ι → Progress σ α
  tasks : List (Progress σ Unit)

namespace Crew

def start (programs : ι → Prog σ α) (s : σ) : Crew ι σ α :=
  ⟨[], s, fun i => .paused (fun _ => true) (programs i), []⟩

def passed (c : Crew ι σ α) : List σ := c.past ++ [c.state]

def turn [DecidableEq ι] (c : Crew ι σ α) (i : ι) (next : Prog σ α) : Crew ι σ α where
  past := c.past ++ next.trail c.state
  state := (next.along c.state []).state
  members := Function.update c.members i (next.along c.state []).progress
  tasks := c.tasks ++ (next.along c.state []).tasks.map Task.fresh

def taskTurn (c : Crew ι σ α) (before : List (Progress σ Unit)) (next : Prog σ Unit)
    (after : List (Progress σ Unit)) : Crew ι σ α where
  past := c.past ++ next.trail c.state
  state := (next.along c.state []).state
  members := c.members
  tasks := before ++ (next.along c.state []).progress :: after ++
    (next.along c.state []).tasks.map Task.fresh

@[simp] theorem turn_members_self [DecidableEq ι] (c : Crew ι σ α) (i : ι) (next : Prog σ α) :
    (c.turn i next).members i = (next.along c.state []).progress :=
  Function.update_self ..

theorem turn_members_of_ne [DecidableEq ι] (c : Crew ι σ α) {i j : ι} (next : Prog σ α)
    (h : j ≠ i) : (c.turn i next).members j = c.members j :=
  Function.update_of_ne h ..

def disturb (c : Crew ι σ α) (s : σ) : Crew ι σ α := { c with past := c.passed, state := s }

inductive Step [DecidableEq ι] (others : σ → σ → Prop) : Crew ι σ α → Crew ι σ α → Prop
  | turn {c : Crew ι σ α} {i : ι} {ready : σ → Bool} {next : Prog σ α}
      (hi : c.members i = .paused ready next) (hready : ready c.state = true) :
      Step others c (c.turn i next)
  | task {c : Crew ι σ α} {before after : List (Progress σ Unit)} {ready : σ → Bool}
      {next : Prog σ Unit} (hc : c.tasks = before ++ .paused ready next :: after)
      (hready : ready c.state = true) : Step others c (c.taskTurn before next after)
  | disturb {c : Crew ι σ α} {s : σ} (h : others c.state s) : Step others c (c.disturb s)

def Reaches [DecidableEq ι] (others : σ → σ → Prop) : Crew ι σ α → Crew ι σ α → Prop :=
  Relation.ReflTransGen (Step others)

end Crew

-- ---------------------------------------------------------------------------
-- One turn
-- ---------------------------------------------------------------------------

def Progress.Accountable (step : γ × σ → γ × σ → Prop) : Progress σ α → γ × σ → Prop
  | .returned _, _ => True
  | .panicked _, _ => True
  | .paused ready next, x => (Prog.pause ready next).Accountable step (fun _ _ => True) x

variable {step : γ × σ → γ × σ → Prop} {past : γ → List σ}

theorem Progress.Accountable.later {p : Progress σ α} {x y : γ × σ} (h : p.Accountable step x)
    (hxy : Relation.ReflTransGen step x y) : p.Accountable step y := by
  cases p with
  | returned a => trivial
  | panicked e => trivial
  | paused ready next => exact Prog.Accountable.paused h hxy

theorem Task.Accountable.program {t : Task σ} {x : γ × σ} (h : t.Accountable step x) :
    t.program.Accountable step (fun _ _ => True) x := by
  induction t generalizing x with
  | done => trivial
  | get k ih => exact ih x.2 h
  | set s next ih =>
    obtain ⟨g, hstep, hnext⟩ := h
    exact ⟨g, hstep, ih hnext⟩
  | spawn task next _ ih => exact ⟨h.1, ih h.2⟩
  | pause ready next ih => exact fun y hy hready => ih (h y hy hready)

theorem Prog.Accountable.turn (hpast : ∀ x y, step x y → past y.1 = past x.1 ++ [x.2])
    {p : Prog σ α} {x : γ × σ} (h : p.Accountable step (fun _ _ => True) x) :
    ∃ g, Relation.ReflTransGen step x (g, (p.along x.2 []).state) ∧
      past g = past x.1 ++ p.trail x.2 ∧
      (p.along x.2 []).progress.Accountable step (g, (p.along x.2 []).state) ∧
      ∀ t ∈ (p.along x.2 []).tasks.map Task.fresh,
        t.Accountable step (g, (p.along x.2 []).state) := by
  induction p generalizing x with
  | done a => exact ⟨x.1, .refl, (List.append_nil _).symm, trivial, nofun⟩
  | panic e => exact ⟨x.1, .refl, (List.append_nil _).symm, trivial, nofun⟩
  | get k ih => exact ih x.2 h
  | set s next ih =>
    obtain ⟨g, hstep, hnext⟩ := h
    obtain ⟨g', hsteps, hg', hrest⟩ := ih hnext
    refine ⟨g', .head hstep hsteps, ?_, hrest⟩
    rw [hg', hpast x (g, s) hstep, List.append_assoc]
    rfl
  | spawn task next ih =>
    obtain ⟨g, hsteps, hg, hrest, hstarted⟩ := ih h.2
    refine ⟨g, hsteps, hg, hrest, List.forall_mem_cons.mpr ⟨?_, hstarted⟩⟩
    exact fun y hy _ => (h.1 y (hsteps.trans hy)).program
  | pause ready next _ => exact ⟨x.1, .refl, (List.append_nil _).symm, h, nofun⟩

-- ---------------------------------------------------------------------------
-- Whole courses
-- ---------------------------------------------------------------------------

namespace Crew

def Accountable (step : γ × σ → γ × σ → Prop) (c : Crew ι σ α) (g : γ) : Prop :=
  (∀ i, (c.members i).Accountable step (g, c.state)) ∧
    ∀ t ∈ c.tasks, t.Accountable step (g, c.state)

variable [DecidableEq ι] {others : σ → σ → Prop} {c c' : Crew ι σ α}

/-- A book that accounts for a crew goes on to account for what the crew does next. -/
theorem Step.accountable (hpast : ∀ x y, step x y → past y.1 = past x.1 ++ [x.2])
    (hothers : ∀ x s, others x.2 s → ∃ g, step x (g, s)) (h : Step others c c') {g : γ}
    (hg : past g = c.past) (hc : c.Accountable step g) :
    ∃ g', Relation.ReflTransGen step (g, c.state) (g', c'.state) ∧ past g' = c'.past ∧
      c'.Accountable step g' := by
  obtain ⟨hmembers, htasks⟩ := hc
  cases h with
  | @turn i ready next hi hready =>
    -- The others have given way all the while, so they stay accountable.
    have hi' : (Progress.paused ready next).Accountable step (g, c.state) := hi ▸ hmembers i
    obtain ⟨g', hsteps, hg', hrest, hstarted⟩ := (hi' (g, c.state) .refl hready).turn hpast
    refine ⟨g', hsteps, by rw [hg', hg]; rfl, fun j => ?_,
      List.forall_mem_append.mpr ⟨?_, hstarted⟩⟩
    · by_cases hj : j = i
      · subst hj
        rw [turn_members_self]
        exact hrest
      · rw [turn_members_of_ne c next hj]
        exact (hmembers j).later hsteps
    · exact fun t ht => (htasks t ht).later hsteps
  | @task before after ready next hc hready =>
    rw [hc, List.forall_mem_append, List.forall_mem_cons] at htasks
    obtain ⟨hbefore, hnext, hafter⟩ := htasks
    obtain ⟨g', hsteps, hg', hrest, hstarted⟩ := (hnext (g, c.state) .refl hready).turn hpast
    refine ⟨g', hsteps, by rw [hg', hg]; rfl, fun j => (hmembers j).later hsteps, ?_⟩
    refine List.forall_mem_append.mpr ⟨List.forall_mem_append.mpr ⟨?_, ?_⟩, hstarted⟩
    · exact fun t ht => (hbefore t ht).later hsteps
    · exact List.forall_mem_cons.mpr ⟨hrest, fun t ht => (hafter t ht).later hsteps⟩
  | @disturb s h =>
    obtain ⟨g', hstep⟩ := hothers (g, c.state) s h
    refine ⟨g', .single hstep, by rw [hpast _ _ hstep, hg]; rfl, fun i => ?_, fun t ht => ?_⟩
    · exact (hmembers i).later (.single hstep)
    · exact (htasks t ht).later (.single hstep)

/-- If a crew of accountable programs starts with an empty book, there is a book for all that it
reaches, and the book tells the very states that have been left behind. -/
theorem Reaches.accountable {programs : ι → Prog σ α} {s : σ} {g : γ}
    (hpast : ∀ x y, step x y → past y.1 = past x.1 ++ [x.2])
    (hothers : ∀ x s, others x.2 s → ∃ g, step x (g, s))
    (hprograms : ∀ i x, (programs i).Accountable step (fun _ _ => True) x)
    (h : Reaches others (start programs s) c) (hg : past g = []) :
    ∃ g', Relation.ReflTransGen step (g, s) (g', c.state) ∧ past g' = c.past := by
  suffices ∃ g', Relation.ReflTransGen step (g, s) (g', c.state) ∧ past g' = c.past ∧
      c.Accountable step g' by
    obtain ⟨g', hsteps, hg', -⟩ := this
    exact ⟨g', hsteps, hg'⟩
  induction h with
  | refl => exact ⟨g, .refl, hg, fun i y _ _ => hprograms i y, nofun⟩
  | tail _ hstep ih =>
    obtain ⟨g₁, hsteps, hg₁, hc⟩ := ih
    obtain ⟨g₂, hsteps', hg₂, hc'⟩ := hstep.accountable hpast hothers hg₁ hc
    exact ⟨g₂, hsteps.trans hsteps', hg₂, hc'⟩

end Crew

end Mediator
