import Mediator.Prog

/-!
# Joins

`both` runs two programs together, `joinAll` a list of them. They run in rounds: in each round every
program that has not ended, and whose condition holds when its turn comes, runs until it ends or
gives way, in the order in which the programs are listed. A join gives way at the end of each round
and ends when all have ended; a panic of one of them ends it at once.
-/

namespace Mediator.Prog

variable {σ α β γ : Type}

/-- A program that gave way, when its turn comes: it goes on if it is ready. -/
def resume (ready : σ → Bool) (next : Prog σ α) : Prog σ α :=
  .get fun s => if ready s then next else .pause ready next

/-- The right program of a join, while the left one waits for `ready`. `rejoin` is the join of what
the left one goes on with, and `alone` is what the left one goes on with once the right one has
ended. -/
def beside (ready : σ → Bool) (rejoin : Prog σ β → Prog σ γ) (alone : β → Prog σ γ) :
    Prog σ β → Prog σ γ
  | .done b => .pause ready (alone b)
  | .panic p => .panic p
  | .get k => .get fun s => beside ready rejoin alone (k s)
  | .set s next => .set s (beside ready rejoin alone next)
  | .spawn task next => .spawn task (beside ready rejoin alone next)
  | .pause ready' next =>
    .pause (fun s => ready s || ready' s) (.get fun s =>
      if ready s then rejoin (resume ready' next) else beside ready rejoin alone next)

def both : Prog σ α → Prog σ β → Prog σ (α × β)
  | .done a, q => q.bind fun b => .done (a, b)
  | .panic p, _ => .panic p
  | .get k, q => .get fun s => both (k s) q
  | .set s next, q => .set s (both next q)
  | .spawn task next, q => .spawn task (both next q)
  | .pause ready next, q =>
    beside ready (both next) (fun b => next.bind fun a => .done (a, b)) q

def joinAll : List (Prog σ α) → Prog σ (List α)
  | [] => .done []
  | p :: ps => (both p (joinAll ps)).bind fun (a, as) => .done (a :: as)

end Mediator.Prog
