import Mediator.Proofs.Prog.Along

/-!
# Polls

What has given way goes on only if it is polled. A `Future` is told by what a poll of it comes to,
and unlike a program it need not be finite. In a `Polling` a future is polled again and again, and
others have their turn before each poll. A program that has given way is a future as well.

A future is guarded by a flag if whoever polls it gives up as soon as a poll leaves it pending with
the flag up: `Polled.GuardedBy` says so of a single poll. What all polls come to then depends on two
things only, which are at which poll the future ends, and at which one the flag is first found up
(`Polling.GuardedBy.decided`). `Prog.guard` guards programs in this way (`Prog.polling_guard`).
-/

namespace Mediator

variable {κ κ' σ σ' τ α : Type}

/-- What is left after a poll. -/
inductive Poll (κ α : Type) where
  | ready (value : α)
  | panicked (payload : Panic)
  | pending (rest : κ)

structure Polled (κ σ τ α : Type) where
  poll : Poll κ α
  state : σ
  started : List τ

abbrev Future (κ σ τ α : Type) : Type := κ → σ → Polled κ σ τ α

/-- Nobody polls what has ended. -/
def Future.resume (f : Future κ σ τ α) : Poll κ α → σ → Polled κ σ τ α
  | .pending k, s => f k s
  | p, s => ⟨p, s, []⟩

-- ---------------------------------------------------------------------------
-- Pollings
-- ---------------------------------------------------------------------------

structure Polling (κ σ τ α : Type) where
  future : Future κ σ τ α
  start : κ
  state : σ
  others : Nat → σ → σ

namespace Polling

/-- What is left when it comes to the poll of this number, and the state that the poll finds. -/
def before (P : Polling κ σ τ α) : Nat → Poll κ α × σ
  | 0 => (.pending P.start, P.others 0 P.state)
  | n + 1 =>
    let c := P.future.resume (P.before n).1 (P.before n).2
    (c.poll, P.others (n + 1) c.state)

section
variable (P : Polling κ σ τ α) (n : Nat)

def left : Poll κ α := (P.before n).1

def found : σ := (P.before n).2

def nth : Polled κ σ τ α := P.future.resume (P.left n) (P.found n)

theorem left_succ : P.left (n + 1) = (P.nth n).poll := rfl

theorem found_succ : P.found (n + 1) = P.others (n + 1) (P.nth n).state := rfl

def Open : Prop := ∃ k, P.left n = .pending k

def ReturnsAt (a : α) : Prop := P.Open n ∧ (P.nth n).poll = .ready a

def PanicsAt (e : Panic) : Prop := P.Open n ∧ (P.nth n).poll = .panicked e

/-- The polls leave the flag as they find it. -/
def Keeps (flag : σ → Bool) : Prop := ∀ n, flag (P.nth n).state = flag (P.found n)

def DownBefore (flag : σ → Bool) : Prop := ∀ m < n, flag (P.found m) = false

end

variable {P : Polling κ σ τ α} {n : Nat} {flag : σ → Bool}

theorem nth_of_left {k : κ} (h : P.left n = .pending k) : P.nth n = P.future k (P.found n) := by
  rw [nth, h, Future.resume]

theorem nth_of_not_open (h : ¬P.Open n) : P.nth n = ⟨P.left n, P.found n, []⟩ := by
  unfold nth
  rcases hleft : P.left n with a | e | k
  · rfl
  · rfl
  · exact (h ⟨k, hleft⟩).elim

theorem Open.pred (h : P.Open (n + 1)) : P.Open n := by
  refine Classical.byContradiction fun hn => ?_
  obtain ⟨k, hk⟩ := h
  rw [left_succ, nth_of_not_open hn] at hk
  exact hn ⟨k, hk⟩

theorem Open.of_le {m : Nat} (h : P.Open n) (hmn : m ≤ n) : P.Open m := by
  induction hmn with
  | refl => exact h
  | step _ ih => exact ih h.pred

theorem keeps_of_not_open (h : ¬P.Open n)
    (hbefore : ∀ m < n, flag (P.nth m).state = flag (P.found m)) : P.Keeps flag := by
  intro m
  by_cases hm : P.Open m
  · exact hbefore m (Nat.lt_of_not_le fun hnm => h (hm.of_le hnm))
  · rw [nth_of_not_open hm]

theorem downBefore_zero : P.DownBefore 0 flag := nofun

theorem downBefore_succ_iff :
    P.DownBefore (n + 1) flag ↔ P.DownBefore n flag ∧ flag (P.found n) = false :=
  Nat.forall_lt_succ_right

end Polling

-- ---------------------------------------------------------------------------
-- Guarded futures
-- ---------------------------------------------------------------------------

/-- How a poll under guard ends, next to how it ends without. The flag is looked at only after a
poll that has ended nothing, and `rel` relates what is left if it is down. -/
inductive Poll.GuardedBy (raised : Bool) (rel : κ → κ' → Prop) :
    Poll κ α → Poll κ' (Option α) → Prop
  | ready {a : α} : GuardedBy raised rel (.ready a) (.ready (some a))
  | panicked {e : Panic} : GuardedBy raised rel (.panicked e) (.panicked e)
  | raised {k : κ} (h : raised = true) : GuardedBy raised rel (.pending k) (.ready none)
  | pending {k : κ} {k' : κ'} (h : raised = false) (hrel : rel k k') :
      GuardedBy raised rel (.pending k) (.pending k')

namespace Poll.GuardedBy

variable {raised : Bool} {rel : κ → κ' → Prop} {p : Poll κ α} {q : Poll κ' (Option α)}

theorem eq_ready_some_iff (h : GuardedBy raised rel p q) {a : α} :
    q = .ready (some a) ↔ p = .ready a := by
  cases h <;> simp

theorem eq_panicked_iff (h : GuardedBy raised rel p q) {e : Panic} :
    q = .panicked e ↔ p = .panicked e := by
  cases h <;> simp

theorem eq_ready_none_iff (h : GuardedBy raised rel p q) :
    q = .ready none ↔ (∃ k, p = .pending k) ∧ raised = true := by
  cases h <;> simp [*]

theorem exists_eq_pending_iff (h : GuardedBy raised rel p q) :
    (∃ k', q = .pending k') ↔ (∃ k, p = .pending k) ∧ raised = false := by
  cases h <;> simp [*]

theorem exists_rel (h : GuardedBy raised rel p q) {k : κ} (hp : p = .pending k)
    (hraised : raised = false) : ∃ k', q = .pending k' ∧ rel k k' := by
  cases h with
  | ready | panicked => cases hp
  | raised htrue => cases hraised.symm.trans htrue
  | pending _ hrel =>
    cases hp
    exact ⟨_, rfl, hrel⟩

end Poll.GuardedBy

/-- A poll under guard does what it does without. Whoever guards may keep a state of its own
besides. -/
structure Polled.GuardedBy (flag : σ → Bool) (view : σ' → σ) (rel : κ → κ' → σ' → Prop)
    (c : Polled κ σ τ α) (d : Polled κ' σ' τ (Option α)) : Prop where
  state : view d.state = c.state
  started : d.started = c.started
  poll : c.poll.GuardedBy (flag c.state) (rel · · d.state) d.poll

structure Polling.Decided (flag : σ → Bool) (view : σ' → σ) (P : Polling κ σ τ α)
    (Q : Polling κ' σ' τ (Option α)) : Prop where
  isOpen (n : Nat) : Q.Open n ↔ P.Open n ∧ P.DownBefore n flag
  /-- As long as nothing is decided, each poll is one poll of the future. -/
  polls (n : Nat) (h : Q.Open n) : view (Q.found n) = P.found n ∧
    view (Q.nth n).state = (P.nth n).state ∧ (Q.nth n).started = (P.nth n).started
  /-- After that nothing is polled. -/
  rests (n : Nat) (h : ¬Q.Open n) : (Q.nth n).state = Q.found n ∧ (Q.nth n).started = []
  returns (n : Nat) (a : α) : Q.ReturnsAt n (some a) ↔ P.ReturnsAt n a ∧ P.DownBefore n flag
  panics (n : Nat) (e : Panic) : Q.PanicsAt n e ↔ P.PanicsAt n e ∧ P.DownBefore n flag
  /-- The flag is found up for the first time, and the poll leaves the future pending. -/
  cancels (n : Nat) : Q.ReturnsAt n none ↔
    P.Open (n + 1) ∧ P.DownBefore n flag ∧ flag (P.found n) = true

namespace Polling

/-- One future is guarded by what polls the other: so it is at the start, at each poll, and whatever
others do. -/
structure GuardedBy (flag : σ → Bool) (view : σ' → σ) (rel : κ → κ' → σ' → Prop)
    (P : Polling κ σ τ α) (Q : Polling κ' σ' τ (Option α)) : Prop where
  start : rel P.start Q.start Q.state
  state : view Q.state = P.state
  others (n : Nat) (t : σ') : view (Q.others n t) = P.others n (view t)
  keep (n : Nat) {k : κ} {k' : κ'} {t : σ'} (h : rel k k' t) : rel k k' (Q.others n t)
  poll {k : κ} {k' : κ'} {t : σ'} (h : rel k k' t) :
    (P.future k (view t)).GuardedBy flag view rel (Q.future k' t)

variable {flag : σ → Bool} {view : σ' → σ} {rel : κ → κ' → σ' → Prop} {P : Polling κ σ τ α}
  {Q : Polling κ' σ' τ (Option α)} {n : Nat}

def Related (view : σ' → σ) (rel : κ → κ' → σ' → Prop) (P : Polling κ σ τ α)
    (Q : Polling κ' σ' τ (Option α)) (n : Nat) : Prop :=
  ∃ k k', P.left n = .pending k ∧ Q.left n = .pending k' ∧ rel k k' (Q.found n) ∧
    view (Q.found n) = P.found n

theorem GuardedBy.nth (h : GuardedBy flag view rel P Q) (hn : Related view rel P Q n) :
    (P.nth n).GuardedBy flag view rel (Q.nth n) := by
  obtain ⟨k, k', hk, hk', hrel, hview⟩ := hn
  rw [nth_of_left hk, nth_of_left hk', ← hview]
  exact h.poll hrel

/-- Both go on together as long as the future is open and the flag has not been found up, and not a
poll longer. -/
theorem GuardedBy.related (h : GuardedBy flag view rel P Q) (hkeeps : P.Keeps flag) (n : Nat) :
    (P.Open n ∧ P.DownBefore n flag → Related view rel P Q n) ∧
      (Q.Open n → P.Open n ∧ P.DownBefore n flag) := by
  induction n with
  | zero =>
    refine ⟨fun _ => ⟨P.start, Q.start, rfl, rfl, h.keep 0 h.start, ?_⟩, fun _ =>
      ⟨⟨P.start, rfl⟩, downBefore_zero⟩⟩
    exact (h.others 0 Q.state).trans (congrArg _ h.state)
  | succ n ih =>
    obtain ⟨hrelated, hopen⟩ := ih
    constructor
    · rintro ⟨hP, hdown⟩
      -- The polls keep the flag, so the guard sees it down after this poll as well.
      obtain ⟨hdown, hflag⟩ := downBefore_succ_iff.mp hdown
      have hnth := h.nth (hrelated ⟨hP.pred, hdown⟩)
      obtain ⟨k, hk⟩ := hP
      obtain ⟨k', hk', hrel⟩ := hnth.poll.exists_rel hk ((hkeeps n).trans hflag)
      refine ⟨k, k', hk, hk', h.keep (n + 1) hrel, ?_⟩
      rw [found_succ, found_succ, h.others, hnth.state]
    · intro hQ
      obtain ⟨hP, hdown⟩ := hopen hQ.pred
      have hnth := h.nth (hrelated ⟨hP, hdown⟩)
      obtain ⟨hpending, hflag⟩ := hnth.poll.exists_eq_pending_iff.mp hQ
      exact ⟨hpending, downBefore_succ_iff.mpr ⟨hdown, (hkeeps n).symm.trans hflag⟩⟩

theorem GuardedBy.decided (h : GuardedBy flag view rel P Q) (hkeeps : P.Keeps flag) :
    Decided flag view P Q := by
  have hopen (n : Nat) : Q.Open n ↔ P.Open n ∧ P.DownBefore n flag := by
    refine ⟨(h.related hkeeps n).2, fun hn => ?_⟩
    obtain ⟨-, k', -, hk', -⟩ := (h.related hkeeps n).1 hn
    exact ⟨k', hk'⟩
  have hnth {n : Nat} (hn : Q.Open n) : (P.nth n).GuardedBy flag view rel (Q.nth n) :=
    h.nth ((h.related hkeeps n).1 ((hopen n).mp hn))
  have hends {n : Nat} {p : Poll κ α} {q : Poll κ' (Option α)}
      (hiff : Q.Open n → ((Q.nth n).poll = q ↔ (P.nth n).poll = p)) :
      Q.Open n ∧ (Q.nth n).poll = q ↔
        (P.Open n ∧ (P.nth n).poll = p) ∧ P.DownBefore n flag := by
    rw [and_congr_right hiff, hopen, and_right_comm]
  refine ⟨hopen, fun n hn => ?_, fun n hn => ?_, fun n a => ?_, fun n e => ?_, fun n => ?_⟩
  · obtain ⟨-, -, -, -, -, hfound⟩ := (h.related hkeeps n).1 ((hopen n).mp hn)
    exact ⟨hfound, (hnth hn).state, (hnth hn).started⟩
  · rw [nth_of_not_open hn]
    exact ⟨rfl, rfl⟩
  · exact hends (fun hn => (hnth hn).poll.eq_ready_some_iff)
  · exact hends (fun hn => (hnth hn).poll.eq_panicked_iff)
  · constructor
    · rintro ⟨hn, hd⟩
      obtain ⟨hpending, hflag⟩ := (hnth hn).poll.eq_ready_none_iff.mp hd
      exact ⟨hpending, ((hopen n).mp hn).2, (hkeeps n).symm.trans hflag⟩
    · rintro ⟨hP, hdown, hflag⟩
      have hn := (hopen n).mpr ⟨hP.pred, hdown⟩
      exact ⟨hn, (hnth hn).poll.eq_ready_none_iff.mpr ⟨hP, (hkeeps n).trans hflag⟩⟩

end Polling

-- ---------------------------------------------------------------------------
-- Programs
-- ---------------------------------------------------------------------------

structure Paused (σ α : Type) where
  ready : σ → Bool
  next : Prog σ α

def Progress.left : Progress σ α → Poll (Paused σ α) α
  | .returned a => .ready a
  | .panicked e => .panicked e
  | .paused ready next => .pending ⟨ready, next⟩

def Course.polled (c : Course σ α) : Polled (Paused σ α) σ (Task σ) α :=
  ⟨c.progress.left, c.state, c.tasks⟩

/-- A program that is polled too early stays where it is. -/
def Paused.poll : Future (Paused σ α) σ (Task σ) α := fun p s =>
  if p.ready s then (p.next.along s []).polled else ⟨.pending p, s, []⟩

def Prog.polling (p : Prog σ α) (s : σ) (others : Nat → σ → σ) :
    Polling (Paused σ α) σ (Task σ) α :=
  ⟨Paused.poll, ⟨fun _ => true, p⟩, s, others⟩

section
variable (flag : σ → Bool)

def Paused.guard (p : Paused σ α) : Paused σ (Option α) where
  ready s := p.ready s || flag s
  next := .get fun s => if p.ready s then p.next.guard flag else .done none

def Paused.Guards (p : Paused σ α) (q : Paused σ (Option α)) (_ : σ) : Prop :=
  q.poll = (p.guard flag).poll

theorem Prog.guardedBy_guard (p : Prog σ α) (s : σ) :
    (p.along s []).polled.GuardedBy flag id (Paused.Guards flag)
      ((p.guard flag).along s []).polled := by
  induction p generalizing s with
  | done a => exact ⟨rfl, rfl, .ready⟩
  | panic e => exact ⟨rfl, rfl, .panicked⟩
  | get k ih => exact ih s s
  | set s' next ih => exact ih s'
  | spawn task next ih =>
    obtain ⟨hstate, hstarted, hpoll⟩ := ih s
    exact ⟨hstate, congrArg (task :: ·) hstarted, hpoll⟩
  | pause ready next _ =>
    cases hflag : flag s with
    | true =>
      simp only [guard, along_get, hflag, if_true]
      exact ⟨rfl, rfl, .raised hflag⟩
    | false =>
      simp only [guard, along_get, hflag, Bool.false_eq_true, if_false]
      exact ⟨rfl, rfl, .pending hflag rfl⟩

theorem Paused.guardedBy_guard (p : Paused σ α) (s : σ) :
    (p.poll s).GuardedBy flag id (Guards flag) ((p.guard flag).poll s) := by
  cases hready : p.ready s with
  | true =>
    simp only [poll, guard, Prog.along_get, hready, Bool.true_or, if_true]
    exact p.next.guardedBy_guard flag s
  | false =>
    simp only [poll, guard, Prog.along_get, hready, Bool.false_or, Bool.false_eq_true, if_false]
    cases hflag : flag s with
    | true => exact ⟨rfl, rfl, .raised hflag⟩
    | false => exact ⟨rfl, rfl, .pending hflag rfl⟩

theorem Prog.polling_guard (p : Prog σ α) (s : σ) (others : Nat → σ → σ) :
    (p.polling s others).GuardedBy flag id (Paused.Guards flag)
      ((p.guard flag).polling s others) where
  start := by
    funext t
    simp [polling, Paused.poll, Paused.guard]
  state := rfl
  others _ _ := rfl
  keep _ _ _ _ h := h
  poll {p q t} h := by
    have hpoll : q.poll t = (p.guard flag).poll t := congrFun h t
    simpa [Prog.polling, hpoll] using p.guardedBy_guard flag t

end

end Mediator
