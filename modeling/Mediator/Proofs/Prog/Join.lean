import Mediator.Proofs.Prog.Run

/-!
# What joins return

A join of programs whose results are read by functions is the join of the programs, with its results
read by these functions (`both_map`, `joinAll_map`): reading a result takes no turn of its own. The
join of one program is that program (`joinAll_singleton`).
-/

namespace Mediator.Prog

variable {σ α β γ δ ι : Type}

theorem resume_bind (ready : σ → Bool) (next : Prog σ α) (f : α → Prog σ β) :
    (resume ready next).bind f = resume ready (next.bind f) := by
  refine congrArg Prog.get (funext fun s => ?_)
  show Prog.bind (if ready s then next else .pause ready next) f = _
  split <;> rfl

theorem beside_map {ready : σ → Bool} {next : Prog σ α} {f : α → γ} {g : β → δ}
    (ih : ∀ q : Prog σ β, both (f <$> next) (g <$> q) = Prod.map f g <$> both next q)
    (q : Prog σ β) :
    beside ready (both (f <$> next)) (fun b => (f <$> next).bind fun a => .done (a, b)) (g <$> q)
      = Prod.map f g <$> beside ready (both next) (fun b => next.bind fun a => .done (a, b)) q := by
  simp only [map_eq] at ih ⊢
  induction q with
  | done b => simp [beside, Prog.bind, bind_assoc]
  | panic e => rfl
  | get k ihq => exact congrArg Prog.get (funext ihq)
  | set s next' ihq => exact congrArg (Prog.set s) ihq
  | spawn task next' ihq => exact congrArg (Prog.spawn task) ihq
  | pause ready' next' ihq =>
    simp only [Prog.bind, beside, Prog.pause.injEq, true_and]
    refine congrArg Prog.get (funext fun s => ?_)
    cases ready s with
    | true => simpa [resume_bind] using ih (resume ready' next')
    | false => simpa using ihq

theorem both_map (f : α → γ) (g : β → δ) (p : Prog σ α) (q : Prog σ β) :
    both (f <$> p) (g <$> q) = Prod.map f g <$> both p q := by
  induction p generalizing q with
  | done a => simp only [map_eq, done_bind, both, bind_assoc, Prod.map]
  | panic e => rfl
  | get k ih => exact congrArg Prog.get (funext fun s => ih s q)
  | set s next ih => exact congrArg (Prog.set s) (ih q)
  | spawn task next ih => exact congrArg (Prog.spawn task) (ih q)
  | pause ready next ih => exact beside_map ih q

theorem joinAll_map (p : ι → Prog σ α) (f : ι → α → β) (is : List ι) :
    joinAll (is.map fun i => f i <$> p i)
      = (fun as => List.zipWith f is as) <$> joinAll (is.map p) := by
  induction is with
  | nil => rfl
  | cons i is ih =>
    simp only [List.map_cons, joinAll, ih, both_map]
    simp only [map_eq, bind_assoc, done_bind, Prod.map, List.zipWith_cons_cons]

theorem both_done (p : Prog σ α) (b : β) : both p (.done b) = p.bind fun a => .done (a, b) := by
  induction p with
  | done a => rfl
  | panic e => rfl
  | get k ih => exact congrArg Prog.get (funext ih)
  | set s next ih => exact congrArg (Prog.set s) ih
  | spawn task next ih => exact congrArg (Prog.spawn task) ih
  | pause ready next _ => rfl

theorem joinAll_singleton (p : Prog σ α) : joinAll [p] = (fun a => [a]) <$> p := by
  simp only [joinAll, both_done, bind_assoc, done_bind, map_eq]

end Mediator.Prog
