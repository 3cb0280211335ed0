import Mediator.Prog

/-!
# The scheduler

The scheduler holds the shared state and the detached tasks. Those that can go on form a queue,
first in and first out; the others are parked with the condition that they wait for. Whenever the
state changes, the parked tasks whose condition now holds move to the end of the queue, in the order
in which they began to wait.

`Scheduler.drain` runs the tasks until none can go on. `Prog.run` runs one program to its end; what
happens while it has given way is a parameter. With `Scheduler.attend` the tasks get their turn
then, and nothing happens if a program runs `alone`.
-/

namespace Mediator

variable {σ α : Type}

structure Parked (σ : Type) where
  ready : σ → Bool
  task : Task σ

structure Scheduler (σ : Type) where
  state : σ
  queue : List (Task σ)
  parked : List (Parked σ)

namespace Scheduler

def start (s : σ) : Scheduler σ := ⟨s, [], []⟩

def tasks (q : Scheduler σ) : List (Task σ) := q.queue ++ q.parked.map Parked.task

/-- Change the state, and queue the tasks that waited for the change. -/
def put (q : Scheduler σ) (s : σ) : Scheduler σ where
  state := s
  queue := q.queue ++ (q.parked.filter (·.ready s)).map Parked.task
  parked := q.parked.filter fun p => !p.ready s

def putAll (q : Scheduler σ) (ss : List σ) : Scheduler σ := ss.foldl put q

def enqueue (q : Scheduler σ) (t : Task σ) : Scheduler σ := { q with queue := q.queue ++ [t] }

/-- A task that gave way goes to the end of the queue if it could go on at once. -/
def park (q : Scheduler σ) (p : Parked σ) : Scheduler σ :=
  if p.ready q.state then q.enqueue p.task else { q with parked := q.parked ++ [p] }

theorem tasks_put (q : Scheduler σ) (s : σ) : (q.put s).tasks.Perm q.tasks := by
  unfold tasks put
  simp only [List.append_assoc, ← List.map_append]
  exact List.Perm.append_left _ ((List.filter_append_perm (·.ready s) q.parked).map _)

theorem tasks_putAll (q : Scheduler σ) (ss : List σ) : (q.putAll ss).tasks.Perm q.tasks := by
  unfold putAll
  induction ss generalizing q with
  | nil => exact .refl _
  | cons s ss ih => exact (ih (q.put s)).trans (q.tasks_put s)

theorem tasks_enqueue (q : Scheduler σ) (t : Task σ) : (q.enqueue t).tasks.Perm (t :: q.tasks) := by
  unfold tasks enqueue
  simp [List.perm_middle]

theorem tasks_park (q : Scheduler σ) (p : Parked σ) :
    (q.park p).tasks.Perm (p.task :: q.tasks) := by
  unfold park
  split
  · exact tasks_enqueue q p.task
  · have h : ({ q with parked := q.parked ++ [p] } : Scheduler σ).tasks = q.tasks ++ [p.task] := by
      simp [tasks]
    rw [h]
    exact List.perm_append_singleton _ _

end Scheduler

/-! ## Detached tasks -/

namespace Task

/-- Run a task until it ends or gives way. -/
def slice : Task σ → Scheduler σ → Scheduler σ
  | .done, q => q
  | .get k, q => (k q.state).slice q
  | .set s next, q => next.slice (q.put s)
  | .spawn task next, q => next.slice (q.enqueue task)
  | .pause ready next, q => q.park ⟨ready, next⟩

theorem tasks_slice (t : Task σ) (q : Scheduler σ) :
    ∃ new, (t.slice q).tasks.Perm (new ++ q.tasks) ∧ ∀ u ∈ new, Smaller u t := by
  induction t generalizing q with
  | done => exact ⟨[], .refl _, nofun⟩
  | get k ih =>
    obtain ⟨new, hp, hs⟩ := ih q.state q
    exact ⟨new, hp, fun u hu => (hs u hu).trans (.of_step (.get k q.state))⟩
  | set s next ih =>
    obtain ⟨new, hp, hs⟩ := ih (q.put s)
    exact ⟨new, hp.trans (List.Perm.append_left new (q.tasks_put s)),
      fun u hu => (hs u hu).trans (.of_step (.set s next))⟩
  | pause ready next _ =>
    exact ⟨[next], q.tasks_park ⟨ready, next⟩, fun u hu => by
      obtain rfl := List.mem_singleton.1 hu
      exact .of_step (.pause ready u)⟩
  | spawn task next _ ih =>
    obtain ⟨new, hp, hs⟩ := ih (q.enqueue task)
    refine ⟨new ++ [task], hp.trans ?_, fun u hu => ?_⟩
    · simpa using List.Perm.append_left new (q.tasks_enqueue task)
    · rcases List.mem_append.1 hu with h | h
      · exact (hs u h).trans (.of_step (.spawn task next))
      · obtain rfl := List.mem_singleton.1 h
        exact .of_step (.spawned u next)

end Task

namespace Scheduler

/-- Run so many slices, always of the first task of the queue, as far as there is one. -/
def slices : Nat → Scheduler σ → Scheduler σ
  | 0, q => q
  | n + 1, q =>
    match q.queue with
    | [] => q
    | t :: rest => slices n (t.slice { q with queue := rest })

instance : WellFoundedRelation (Scheduler σ) :=
  invImage tasks ⟨Relation.TransGen (Bag.Shrinks Task.Smaller),
    (Bag.wellFounded Task.Smaller.wellFounded).transGen⟩

theorem slice_shrinks {q : Scheduler σ} {l : List (Task σ)} {t : Task σ} {rest : List (Task σ)}
    (hl : q.tasks.Perm l) (h : q.queue = t :: rest) :
    Bag.Shrinks Task.Smaller (t.slice { q with queue := rest }).tasks l := by
  obtain ⟨new, hp, hs⟩ := t.tasks_slice { q with queue := rest }
  exact ⟨t, _, new, hl.symm.trans (by simp [tasks, h]), hp, hs⟩

theorem slices_shrinks (n : Nat) {q : Scheduler σ} {l : List (Task σ)}
    (hl : q.tasks.Perm l) (h : q.queue ≠ []) :
    Relation.TransGen (Bag.Shrinks Task.Smaller) (slices (n + 1) q).tasks l := by
  induction n generalizing q l with
  | zero =>
    obtain ⟨t, rest, hq⟩ := List.exists_cons_of_ne_nil h
    simp only [slices, hq]
    exact .single (slice_shrinks hl hq)
  | succ n ih =>
    obtain ⟨t, rest, hq⟩ := List.exists_cons_of_ne_nil h
    have first := Relation.TransGen.single (slice_shrinks hl hq)
    rw [slices, hq]
    by_cases he : (t.slice { q with queue := rest }).queue = []
    · simpa [slices, he] using first
    · exact (ih (.refl _) he).trans first

/-- After so many slices, somebody who waits looks again whether the wait is over. -/
def batch : Nat := 61

/-- Whether there is no need to let time pass in a state: a task is queued or could be, or the
condition holds. -/
def busy (q : Scheduler σ) (ready : σ → Bool) (s : σ) : Bool :=
  !q.queue.isEmpty || ready s || q.parked.any (·.ready s)

/-- Let the tasks work until the condition holds or none can go on. `idle` tells the states that
follow, in their order, while everybody waits until a condition holds. -/
def await (idle : (σ → Bool) → σ → List σ) (ready : σ → Bool) (q : Scheduler σ) : Scheduler σ :=
  let q' := q.putAll (idle (q.busy ready) q.state)
  if ready q'.state then q'
  else if _h : q'.queue = [] then q'
  else await idle ready (slices batch q')
termination_by q
decreasing_by exact slices_shrinks 60 (q.tasks_putAll _) _h

/-- What happens while a program waits: the tasks get their turn, and as often as it takes. -/
def attend (idle : (σ → Bool) → σ → List σ) (ready : σ → Bool) (q : Scheduler σ) : Scheduler σ :=
  (slices batch q).await idle ready

/-- Run the queued tasks in turn until the queue is empty and letting time pass queues no more. -/
def drain (idle : (σ → Bool) → σ → List σ) (q : Scheduler σ) : Scheduler σ :=
  q.await idle fun _ => false

/-- Nothing happens while a program waits that runs alone. -/
def alone (_ : σ → Bool) (q : Scheduler σ) : Scheduler σ := q

end Scheduler

/-! ## One program -/

/-- How a program ended. It stalls when it waits for something that nobody will do. -/
inductive Ending (α : Type) where
  | returned (value : α)
  | panicked (payload : Panic)
  | stalled
deriving Inhabited

/-- Run a program to its end. Whenever it has given way, `wait` happens until it looks again whether
its condition holds. -/
def Prog.run (wait : (σ → Bool) → Scheduler σ → Scheduler σ) :
    Prog σ α → Scheduler σ → Ending α × Scheduler σ
  | .done a, q => (.returned a, q)
  | .panic p, q => (.panicked p, q)
  | .get k, q => (k q.state).run wait q
  | .set s next, q => next.run wait (q.put s)
  | .spawn task next, q => next.run wait (q.enqueue task)
  | .pause ready next, q =>
    let q := wait ready q
    if ready q.state then next.run wait q else (.stalled, q)

end Mediator
