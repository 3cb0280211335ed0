import Mediator.Proofs.Prog.Along
import Mathlib.Logic.Relation

/-!
# Accountable programs

Beside the state a book is kept on how it came about; `step` says which changes of the state may be
entered, and how. A program is accountable if each of its changes can be entered, as long as the
others enter theirs too. There is a rule for each way to compose programs. The book tells more than
the state: if it tells which states have been passed, then a program that has returned can be shown
to have taken its turns in states of this very history (`Accountable.returned`).
-/

namespace Mediator

variable {γ σ α β : Type}

/-- Whatever others enter while the task has given way, each change that it makes can be entered. A
task that it starts has its first turn at some later time. -/
def Task.Accountable (step : γ × σ → γ × σ → Prop) : Task σ → γ × σ → Prop
  | .done, _ => True
  | .get k, x => (k x.2).Accountable step x
  | .set s next, x => ∃ g, step x (g, s) ∧ next.Accountable step (g, s)
  | .spawn task next, x =>
    (∀ y, Relation.ReflTransGen step x y → task.Accountable step y) ∧ next.Accountable step x
  | .pause ready next, x =>
    ∀ y, Relation.ReflTransGen step x y → ready y.2 = true → next.Accountable step y

namespace Prog

/-- Whatever others enter while the program has given way, each change that it makes can be entered,
those of its tasks included, and what it ends in satisfies `post`. -/
def Accountable (step : γ × σ → γ × σ → Prop) (post : Except Panic α → γ × σ → Prop) :
    Prog σ α → γ × σ → Prop
  | .done a, x => post (.ok a) x
  | .panic e, x => post (.error e) x
  | .get k, x => (k x.2).Accountable step post x
  | .set s next, x => ∃ g, step x (g, s) ∧ next.Accountable step post (g, s)
  | .spawn task next, x =>
    (∀ y, Relation.ReflTransGen step x y → task.Accountable step y) ∧ next.Accountable step post x
  | .pause ready next, x =>
    ∀ y, Relation.ReflTransGen step x y → ready y.2 = true → next.Accountable step post y

variable {step : γ × σ → γ × σ → Prop} {post : Except Panic α → γ × σ → Prop}

-- ---------------------------------------------------------------------------
-- Composed programs
-- ---------------------------------------------------------------------------

theorem Accountable.paused {p : Prog σ α} {ready : σ → Bool} {x y : γ × σ}
    (h : (Prog.pause ready p).Accountable step post x) (hxy : Relation.ReflTransGen step x y) :
    (Prog.pause ready p).Accountable step post y :=
  fun z hz hready => h z (hxy.trans hz) hready

theorem Accountable.bind {p : Prog σ α} {f : α → Prog σ β} {x : γ × σ}
    {post' : Except Panic β → γ × σ → Prop} (hp : p.Accountable step post x)
    (hok : ∀ a y, post (.ok a) y → (f a).Accountable step post' y)
    (herror : ∀ e y, post (.error e) y → post' (.error e) y) :
    (p.bind f).Accountable step post' x := by
  induction p generalizing x with
  | done a => exact hok a x hp
  | panic e => exact herror e x hp
  | get k ih => exact ih x.2 hp
  | set s next ih =>
    obtain ⟨g, hstep, hnext⟩ := hp
    exact ⟨g, hstep, ih hnext⟩
  | spawn task next ih => exact ⟨hp.1, ih hp.2⟩
  | pause ready next ih => exact fun y hy hready => ih (hp y hy hready)

theorem Accountable.seq {p : Prog σ α} {f : α → Prog σ β} {x : γ × σ}
    (hp : p.Accountable step (fun _ _ => True) x)
    (hf : ∀ a y, (f a).Accountable step (fun _ _ => True) y) :
    (p.bind f).Accountable step (fun _ _ => True) x :=
  hp.bind (fun a y _ => hf a y) fun _ _ _ => trivial

theorem Accountable.attempt {p : Prog σ α} {x : γ × σ}
    (h : p.Accountable step (fun _ _ => True) x) :
    p.attempt.Accountable step (fun _ _ => True) x := by
  induction p generalizing x with
  | done a => trivial
  | panic e => trivial
  | get k ih => exact ih x.2 h
  | set s next ih =>
    obtain ⟨g, hstep, hnext⟩ := h
    exact ⟨g, hstep, ih hnext⟩
  | spawn task next ih => exact ⟨h.1, ih h.2⟩
  | pause ready next ih => exact fun y hy hready => ih (h y hy hready)

theorem Accountable.guard {p : Prog σ α} {x : γ × σ} (flag : σ → Bool)
    (h : p.Accountable step (fun _ _ => True) x) :
    (p.guard flag).Accountable step (fun _ _ => True) x := by
  induction p generalizing x with
  | done a => trivial
  | panic e => trivial
  | get k ih => exact ih x.2 h
  | set s next ih =>
    obtain ⟨g, hstep, hnext⟩ := h
    exact ⟨g, hstep, ih hnext⟩
  | spawn task next ih => exact ⟨h.1, ih h.2⟩
  | pause ready next ih =>
    show Accountable step _ (if flag x.2 then _ else _) x
    split
    · trivial
    · intro y hy _
      show Accountable step _ (if ready y.2 then _ else _) y
      split
      · next hready => exact ih (h y hy hready)
      · trivial

theorem Accountable.detach {p : Prog σ α} {x : γ × σ} (h : p.Accountable step post x) :
    p.detach.Accountable step x := by
  induction p generalizing x with
  | done a => trivial
  | panic e => trivial
  | get k ih => exact ih x.2 h
  | set s next ih =>
    obtain ⟨g, hstep, hnext⟩ := h
    exact ⟨g, hstep, ih hnext⟩
  | spawn task next ih => exact ⟨h.1, ih h.2⟩
  | pause ready next ih => exact fun y hy hready => ih (h y hy hready)

-- ---------------------------------------------------------------------------
-- Joins
-- ---------------------------------------------------------------------------

theorem Accountable.resume {next : Prog σ α} {ready : σ → Bool} {x : γ × σ}
    (h : (Prog.pause ready next).Accountable step post x) :
    (next.resume ready).Accountable step post x := by
  show Accountable step post (if ready x.2 then next else .pause ready next) x
  split
  · next hready => exact h x .refl hready
  · exact h

theorem Accountable.both {p : Prog σ α} {q : Prog σ β} {x : γ × σ}
    (hp : p.Accountable step (fun _ _ => True) x)
    (hq : ∀ y, Relation.ReflTransGen step x y → q.Accountable step (fun _ _ => True) y) :
    (p.both q).Accountable step (fun _ _ => True) x := by
  induction p generalizing q x with
  | done a => exact (hq x .refl).seq fun _ _ => trivial
  | panic e => trivial
  | get k ih => exact ih x.2 hp hq
  | set s next ih =>
    obtain ⟨g, hstep, hnext⟩ := hp
    exact ⟨g, hstep, ih hnext fun y hy => hq y (.head hstep hy)⟩
  | spawn task next ih => exact ⟨hp.1, ih hp.2 hq⟩
  | pause ready next ih =>
    -- The left program has given way, and the right one has its turn.
    replace hq := hq x .refl
    unfold Prog.both
    induction q generalizing x with
    | done b => exact fun y hy hready => (hp y hy hready).seq fun _ _ => trivial
    | panic e => trivial
    | get k ihq => exact ihq x.2 hp hq
    | set s q ihq =>
      obtain ⟨g, hstep, hnext⟩ := hq
      exact ⟨g, hstep, ihq (Accountable.paused hp (.single hstep)) hnext⟩
    | spawn task q ihq => exact ⟨hq.1, ihq hp hq.2⟩
    | pause ready' q ihq =>
      intro y hy hany
      have hleft := Accountable.paused hp hy
      have hright := Accountable.paused hq hy
      show Accountable step _ (if ready y.2 then _ else _) y
      cases hready : ready y.2 with
      | true =>
        exact ih (hleft y .refl hready) fun z hz => (Accountable.paused hright hz).resume
      | false => exact ihq hleft (hright y .refl (by simpa [hready] using hany))

-- ---------------------------------------------------------------------------
-- What the book tells of a program that has returned
-- ---------------------------------------------------------------------------

/-- The program returns this value if it takes its turns in certain states, all of which have been
passed. -/
def Returned (passed : List σ) (p : Prog σ α) (a : α) : Prop :=
  ∃ s ss, (∀ t ∈ s :: ss, t ∈ passed) ∧ (p.along s ss).progress = .returned a

theorem Returned.mono {passed passed' : List σ} {p : Prog σ α} {a : α}
    (h : p.Returned passed a) (hsub : passed ⊆ passed') : p.Returned passed' a := by
  obtain ⟨s, ss, hpassed, hreturned⟩ := h
  exact ⟨s, ss, fun t ht => hsub (hpassed t ht), hreturned⟩

theorem Accountable.returned_of_along {passed : γ × σ → List σ}
    (hpassed : ∀ x y, step x y → passed x ⊆ passed y) (hnow : ∀ x, x.2 ∈ passed x)
    {p p₀ : Prog σ α} {x : γ × σ} {s : σ} {ss : List σ}
    (h : p.Accountable step (fun _ _ => True) x) (hss : ∀ t ∈ s :: ss, t ∈ passed x)
    (halong : ∀ ts, (p₀.along s (ss ++ ts)).progress = (p.along x.2 ts).progress) :
    p.Accountable step (fun r y => ∀ a, r = .ok a → p₀.Returned (passed y) a) x := by
  -- The turns taken so far are `s` and `ss`; what `p` still does, `p₀` does after them.
  induction p generalizing x ss with
  | done a =>
    rintro a' ⟨⟩
    exact ⟨s, ss, hss, by simpa using halong []⟩
  | panic e => exact nofun
  | get k ih => exact ih x.2 h hss halong
  | set s' next ih =>
    obtain ⟨g, hstep, hnext⟩ := h
    exact ⟨g, hstep, ih hnext (fun t ht => hpassed _ _ hstep (hss t ht)) halong⟩
  | spawn task next ih => exact ⟨h.1, ih h.2 hss halong⟩
  | pause ready next ih =>
    intro y hy hready
    have hsub : passed x ⊆ passed y := by
      clear hready
      induction hy with
      | refl => exact List.Subset.refl _
      | tail _ hstep ih => exact List.Subset.trans ih (hpassed _ _ hstep)
    have hss' : ∀ t ∈ s :: (ss ++ [y.2]), t ∈ passed y := by
      intro t ht
      rw [← List.cons_append, List.mem_append, List.mem_singleton] at ht
      obtain ht | rfl := ht
      · exact hsub (hss t ht)
      · exact hnow y
    refine ih (h y hy hready) hss' fun ts => ?_
    rw [List.append_assoc]
    exact halong (y.2 :: ts)

/-- If the book tells which states have been passed, then whatever the program returns it returns
by taking its turns in such states. -/
theorem Accountable.returned {passed : γ × σ → List σ}
    (hpassed : ∀ x y, step x y → passed x ⊆ passed y) (hnow : ∀ x, x.2 ∈ passed x)
    {p : Prog σ α} {x : γ × σ} (h : p.Accountable step (fun _ _ => True) x) :
    p.Accountable step (fun r y => ∀ a, r = .ok a → p.Returned (passed y) a) x :=
  h.returned_of_along hpassed hnow (List.forall_mem_singleton.mpr (hnow x)) fun _ => rfl

end Prog

end Mediator
