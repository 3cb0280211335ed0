import Mediator.Proofs.Cancellation.Steps
import Mediator.Proofs.Prog.Polls

/-!
# Guarded by a token

To guard a program by a token is a single action, `Action.guarded`. On several threads it is a race
between the program and a task that waits for the token to be canceled, in small steps: with every
poll the program is polled first, and only if it is left pending the task goes on as far as it gets.
Both decide in the same way, poll by poll (`Action.guarded_decided_by_polls`).
-/

namespace Mediator

variable {κ τ α : Type}

namespace Cancellation

namespace Stage

def moves : Stage → List Move
  | .asking => [.ask, .look]
  | .looking _ => [.look]
  | .waiting true => [.wake, .ask, .look]
  | _ => []

/-- How far a task gets when it is polled. -/
def polled (raised : Bool) (s : Stage) : Stage :=
  (s.moves.foldlM (fun s m => after raised m s) s).getD s

/-- Whoever raises the flag gives notice. -/
def hear (t : Token) (before after : World) (s : Stage) : Stage :=
  if !before.canceled t && after.canceled t then s.notified else s

/-- The task will find out at its next poll if the flag is up. -/
def Alert (t : Token) (w : World) (s : Stage) : Prop :=
  s = .asking ∨ ∃ noticed, s = .waiting noticed ∧ (w.canceled t = true → noticed = true)

variable {t : Token} {w : World} {s : Stage}

theorem Alert.hear (h : s.Alert t w) (w' : World) : (s.hear t w w').Alert t w' := by
  unfold Stage.hear
  obtain rfl | ⟨noticed, rfl, hnoticed⟩ := h
  · exact .inl (by split <;> rfl)
  · right
    split
    · exact ⟨true, rfl, fun _ => rfl⟩
    · next hraised =>
      refine ⟨noticed, rfl, fun hw' => hnoticed ?_⟩
      simpa [hw'] using hraised

theorem Alert.polled (h : s.Alert t w) :
    s.polled (w.canceled t) = if w.canceled t then .returned else .waiting false := by
  obtain rfl | ⟨noticed, rfl, hnoticed⟩ := h
  · cases w.canceled t <;> simp [Stage.polled, moves, after]
  · cases hw : w.canceled t with
    | true => simp [Stage.polled, moves, after, hnoticed hw]
    | false => cases noticed <;> simp [Stage.polled, moves, after]

end Stage

/-- The race of a future with a task that waits for the token to be canceled. -/
def race (t : Token) (f : Future κ World τ α) : Future κ (World × Stage) τ (Option α) :=
  fun k (w, s) =>
    let c := f k w
    let s := s.hear t w c.state
    match c.poll with
    | .ready a => ⟨.ready (some a), (c.state, s), c.started⟩
    | .panicked e => ⟨.panicked e, (c.state, s), c.started⟩
    | .pending k' =>
      let s := s.polled (c.state.canceled t)
      ⟨if s = .returned then .ready none else .pending k', (c.state, s), c.started⟩

/-- The task is on the alert, and what is left of the future is left of it in the race. -/
def Racing (t : Token) (k k' : κ) (x : World × Stage) : Prop := k' = k ∧ x.2.Alert t x.1

theorem guardedBy_race {t : Token} (f : Future κ World τ α) {k k' : κ} {x : World × Stage}
    (h : Racing t k k' x) :
    (f k x.1).GuardedBy (·.canceled t) Prod.fst (Racing t) (race t f k' x) := by
  obtain ⟨w, s⟩ := x
  obtain ⟨rfl, halert⟩ := h
  have hpolled := (halert.hear (f k' w).state).polled
  rcases hc : f k' w with ⟨a | e | k, w', l⟩
  · simp only [race, hc]
    exact ⟨rfl, rfl, .ready⟩
  · simp only [race, hc]
    exact ⟨rfl, rfl, .panicked⟩
  · simp only [hc] at hpolled
    simp only [race, hc, hpolled]
    cases hraised : w'.canceled t with
    | true => exact ⟨rfl, rfl, .raised hraised⟩
    | false => exact ⟨rfl, rfl, .pending hraised ⟨rfl, .inr ⟨false, rfl, by simp [hraised]⟩⟩⟩

end Cancellation

open Cancellation

/-- A future that is polled in a race with a fresh task, which hears of what others do. -/
def Polling.race (t : Token) (P : Polling κ World τ α) : Polling κ (World × Stage) τ (Option α) where
  future := Cancellation.race t P.future
  start := P.start
  state := (P.state, .asking)
  others n x := (P.others n x.1, x.2.hear t x.1 (P.others n x.1))

theorem Polling.guardedBy_race (t : Token) (P : Polling κ World τ α) :
    P.GuardedBy (·.canceled t) Prod.fst (Racing t) (P.race t) where
  start := ⟨rfl, .inl rfl⟩
  state := rfl
  others _ _ := rfl
  keep n _ _ x h := ⟨h.1, h.2.hear (P.others n x.1)⟩
  poll h := Cancellation.guardedBy_race P.future h

/-- A guarded program, and any future in the race, is decided poll by poll, whatever it does at its
polls but cancel the token, and whatever others do before them. -/
theorem Action.guarded_decided_by_polls (t : Token) (others : Nat → World → World) (w : World) :
    (∀ {α : Type} (p : Action α), (p.polling w others).Keeps (·.canceled t) →
      Polling.Decided (·.canceled t) id (p.polling w others)
        ((Action.guarded t p).polling w others)) ∧
    ∀ {κ τ α : Type} (f : Future κ World τ α) (k : κ),
      let P : Polling κ World τ α := ⟨f, k, w, others⟩
      P.Keeps (·.canceled t) → Polling.Decided (·.canceled t) Prod.fst P (P.race t) :=
  ⟨fun p hkeeps => (p.polling_guard (·.canceled t) w others).decided hkeeps,
    fun f k hkeeps => (Polling.guardedBy_race t ⟨f, k, w, others⟩).decided hkeeps⟩

/-- A program that counts its two polls is guarded by a token that is canceled before the first of
them, or before the second, when the program is ready. -/
theorem Action.guarded_first_or_second_poll :
    let t : Token := ⟨0⟩
    let p : Action Nat := do
      .modify (·.count 0)
      .turn
      .modify (·.count 0)
      return 7
    let cancelBefore (n m : Nat) (w : World) : World := if m = n then w.cancel t else w
    let guarded (n : Nat) := (Action.guarded t p).polling .empty (cancelBefore n)
    (guarded 0).ReturnsAt 0 none ∧ ((guarded 0).nth 0).state.tally 0 = 1 ∧
      (guarded 1).ReturnsAt 1 (some 7) ∧ ((guarded 1).nth 1).state.tally 0 = 2 := by
  intro t p cancelBefore guarded
  have hkeeps (n : Nat) : (p.polling .empty (cancelBefore n)).Keeps (·.canceled t) := by
    refine Polling.keeps_of_not_open (n := 2) (fun ⟨_, h⟩ => nomatch h) fun m hm => ?_
    match m, hm with
    | 0, _ => rfl
    | 1, _ => rfl
  have hfirst := (guarded_decided_by_polls t (cancelBefore 0) .empty).1 p (hkeeps 0)
  have hsecond := (guarded_decided_by_polls t (cancelBefore 1) .empty).1 p (hkeeps 1)
  have hnone : (guarded 0).ReturnsAt 0 none :=
    (hfirst.cancels 0).mpr ⟨⟨_, rfl⟩, Polling.downBefore_zero, rfl⟩
  have hsome : (guarded 1).ReturnsAt 1 (some 7) := by
    refine (hsecond.returns 1 7).mpr ⟨⟨⟨_, rfl⟩, rfl⟩, ?_⟩
    exact Polling.downBefore_succ_iff.mpr ⟨Polling.downBefore_zero, rfl⟩
  obtain ⟨-, hstate, -⟩ := hfirst.polls 0 hnone.1
  obtain ⟨-, hstate', -⟩ := hsecond.polls 1 hsome.1
  refine ⟨hnone, ?_, hsome, ?_⟩
  · exact congrArg (·.tally 0) hstate
  · exact congrArg (·.tally 0) hstate'

end Mediator
