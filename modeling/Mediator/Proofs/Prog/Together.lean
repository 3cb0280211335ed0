import Mediator.Proofs.Prog.Reliance

/-!
# Independent programs in a join

Programs that leave alone what the others depend on do in a join what they do by themselves,
however their turns fall. `Meets.both` is the rule for two of them. For a list, what each one
depends on is a part of the state, the others keep that part, and all end with the value and the
part that they are bound to (`meets_joinAll`).
-/

namespace Mediator

universe u

variable {σ α β : Type}

namespace Prog

variable {env : Setting σ} {rely guar rely₁ guar₁ rely₂ guar₂ : σ → σ → Prop}
  {post₁ : α → σ → Prop} {post₂ : β → σ → Prop}

theorem Meets.resume {next : Prog σ α} {ready : σ → Bool} {s : σ}
    (hgrants : env.grants ready s)
    (h : ∀ s', rely s s' → ready s' = true → next.Meets env rely guar post₁ s')
    (hrefl : rely s s) : (next.resume ready).Meets env rely guar post₁ s := by
  show (if ready s then next else .pause ready next).Meets env rely guar post₁ s
  cases hready : ready s with
  | true => simpa using h s hrefl hready
  | false => simpa using ⟨hgrants, h⟩

/-- Terms of two programs on which they can run together. -/
structure Compatible (env : Setting σ) (rely guar rely₁ guar₁ rely₂ guar₂ : σ → σ → Prop) :
    Prop where
  rely_left : ∀ s s', rely s s' → rely₁ s s'
  rely_right : ∀ s s', rely s s' → rely₂ s s'
  guar_left : ∀ s s', guar₁ s s' → guar s s'
  guar_right : ∀ s s', guar₂ s s' → guar s s'
  /-- Each one does what the other one relies on. -/
  left_right : ∀ s s', guar₁ s s' → rely₂ s s'
  right_left : ∀ s s', guar₂ s s' → rely₁ s s'
  steps_left : ∀ s s', rely₁ s s' → env.steps s s'
  steps_right : ∀ s s', rely₂ s s' → env.steps s s'
  refl_right : ∀ s, rely₂ s s
  trans_left : ∀ s s' s'', rely₁ s s' → rely₁ s' s'' → rely₁ s s''
  trans_right : ∀ s s' s'', rely₂ s s' → rely₂ s' s'' → rely₂ s s''

variable (c : Compatible env rely guar rely₁ guar₁ rely₂ guar₂)
include c

theorem Meets.beside {ready : σ → Bool} {next : Prog σ α} {q : Prog σ β} {s : σ}
    (ih : ∀ {s : σ} {q : Prog σ β}, next.Meets env rely₁ guar₁ post₁ s →
      (∀ s', rely₂ s s' → q.Meets env rely₂ guar₂ post₂ s') →
      (next.both q).Meets env rely guar (fun ab s => post₁ ab.1 s ∧ post₂ ab.2 s) s)
    (hstable : ∀ b s s', rely₂ s s' → post₂ b s → post₂ b s')
    (hgrants : env.grants ready s)
    (hnext : ∀ s', rely₁ s s' → ready s' = true → next.Meets env rely₁ guar₁ post₁ s')
    (hq : q.Meets env rely₂ guar₂ post₂ s) :
    (beside ready (both next) (fun b => next.bind fun a => .done (a, b)) q).Meets env rely guar
      (fun ab s => post₁ ab.1 s ∧ post₂ ab.2 s) s := by
  induction q generalizing s with
  | done b =>
    refine ⟨hgrants, fun s' hs hready => ?_⟩
    have hleft : next.Meets env rely guar (fun a s => post₁ a s ∧ post₂ b s) s' :=
      (hnext s' (c.rely_left s s' hs) hready).frame (post₂ b) c.rely_left c.guar_left
        (hstable b s s' (c.rely_right s s' hs) hq)
        (fun s s' h => hstable b s s' (c.left_right s s' h))
        (fun s s' h => hstable b s s' (c.rely_right s s' h)) fun a s h hb => ⟨h, hb⟩
    exact hleft.bind fun a s h => h
  | panic e => exact hq.elim
  | get k ihq => exact ihq s hgrants hnext hq
  | set s' q ihq =>
    have hleft := c.right_left s s' hq.1
    exact ⟨c.guar_right s s' hq.1, ihq (env.grants_steps (c.steps_left s s' hleft) hgrants)
      (fun s'' h => hnext s'' (c.trans_left s s' s'' hleft h)) hq.2⟩
  | spawn task q ihq => exact ⟨hq.1, ihq hgrants hnext hq.2⟩
  | pause ready' q ihq =>
    -- Both wait, and go on when one of them can.
    refine ⟨env.grants_mono (fun s h => by simp [h]) hgrants, fun s' hs hany => ?_⟩
    have hleft := c.rely_left s s' hs
    have hright := c.rely_right s s' hs
    have hgrants' := env.grants_steps (c.steps_right s s' hright) hq.1
    have hq' : ∀ s'', rely₂ s' s'' → ready' s'' = true → q.Meets env rely₂ guar₂ post₂ s'' :=
      fun s'' h => hq.2 s'' (c.trans_right s s' s'' hright h)
    show Meets env rely guar _ (if ready s' then _ else _) s'
    cases hready : ready s' with
    | true =>
      rw [if_pos rfl]
      refine ih (hnext s' hleft hready) fun s'' h => ?_
      exact Meets.resume (env.grants_steps (c.steps_right s' s'' h) hgrants')
        (fun s₃ h₃ => hq' s₃ (c.trans_right s' s'' s₃ h h₃)) (c.refl_right s'')
    | false =>
      rw [if_neg Bool.false_ne_true]
      refine ihq (env.grants_steps (c.steps_left s s' hleft) hgrants)
        (fun s'' h => hnext s'' (c.trans_left s s' s'' hleft h)) ?_
      exact hq.2 s' hright (by simpa [hready] using hany)

/-- Two programs together do what each of them does, if each leaves alone what the other one relies
on. The right one may have to wait for its first turn. -/
theorem Meets.both {p : Prog σ α} {q : Prog σ β} {s : σ}
    (hstable₁ : ∀ a s s', rely₁ s s' → post₁ a s → post₁ a s')
    (hstable₂ : ∀ b s s', rely₂ s s' → post₂ b s → post₂ b s')
    (hp : p.Meets env rely₁ guar₁ post₁ s)
    (hq : ∀ s', rely₂ s s' → q.Meets env rely₂ guar₂ post₂ s') :
    (p.both q).Meets env rely guar (fun ab s => post₁ ab.1 s ∧ post₂ ab.2 s) s := by
  induction p generalizing q s with
  | done a =>
    have hright : q.Meets env rely guar (fun b s => post₁ a s ∧ post₂ b s) s :=
      (hq s (c.refl_right s)).frame (post₁ a) c.rely_right c.guar_right hp
        (fun s s' h => hstable₁ a s s' (c.right_left s s' h))
        (fun s s' h => hstable₁ a s s' (c.rely_left s s' h)) fun b s hb h => ⟨h, hb⟩
    exact hright.bind fun b s h => h
  | panic e => exact hp.elim
  | get k ih => exact ih s hp hq
  | set s' next ih =>
    have hright := c.left_right s s' hp.1
    exact ⟨c.guar_left s s' hp.1, ih hp.2 fun s'' h => hq s'' (c.trans_right s s' s'' hright h)⟩
  | spawn task next ih => exact ⟨hp.1, ih hp.2 hq⟩
  | pause ready next ih =>
    exact Meets.beside c ih hstable₂ hp.1 hp.2 (hq s (c.refl_right s))

end Prog

-- ---------------------------------------------------------------------------
-- Lists of programs
-- ---------------------------------------------------------------------------

/-- A program and the part of the state that its course depends on: from where that part is when the
program starts, the program returns a value and leaves the part in a certain way. -/
structure Worker (σ α : Type) where
  program : Prog σ α
  Own : Type
  part : σ → Own
  start : Own
  value : α
  final : Own

def Setting.Keeps (env : Setting σ) (ws : List (Worker σ α)) (s s' : σ) : Prop :=
  env.steps s s' ∧ ∀ w ∈ ws, w.part s' = w.part s

namespace Worker

variable {env : Setting σ} {ws vs : List (Worker σ α)}

theorem keeps_refl (s : σ) : env.Keeps ws s s := ⟨env.steps_refl s, fun _ _ => rfl⟩

theorem keeps_trans {s s' s'' : σ} (h : env.Keeps ws s s') (h' : env.Keeps ws s' s'') :
    env.Keeps ws s s'' :=
  ⟨env.steps_trans h.1 h'.1, fun w hw => (h'.2 w hw).trans (h.2 w hw)⟩

theorem keeps_mono {s s' : σ} (h : env.Keeps ws s s') (hsub : vs ⊆ ws) : env.Keeps vs s s' :=
  ⟨h.1, fun w hw => h.2 w (hsub hw)⟩

/-- The worker does its work by itself: as long as its part is kept it ends as it should, and it
keeps the parts of the others. -/
def Minds (env : Setting σ) (w : Worker σ α) (others : List (Worker σ α)) : Prop :=
  ∀ s, w.part s = w.start → w.program.Meets env (env.Keeps [w]) (env.Keeps others)
    (fun a s => a = w.value ∧ w.part s = w.final) s

def Independent (env : Setting σ) (ws : List (Worker σ α)) : Prop :=
  ∀ before w after, ws = before ++ w :: after → w.Minds env (before ++ after)

theorem independent_map_iff {ι : Type u} {f : ι → Worker σ α} {is : List ι} :
    Independent env (is.map f) ↔ ∀ before i after, is = before ++ i :: after →
      (f i).Minds env ((before ++ after).map f) := by
  constructor
  · rintro h before i after rfl
    rw [List.map_append]
    exact h _ _ _ (by simp)
  · intro h before w after heq
    obtain ⟨is₁, is', rfl, rfl, hrest⟩ := List.map_eq_append_iff.mp heq
    obtain ⟨i, is₂, rfl, rfl, rfl⟩ := List.map_eq_cons_iff.mp hrest
    rw [← List.map_append]
    exact h is₁ i is₂ rfl

theorem compatible (env : Setting σ) (before : List (Worker σ α)) (w : Worker σ α)
    (ws : List (Worker σ α)) :
    Prog.Compatible env (env.Keeps (w :: ws)) (env.Keeps before)
      (env.Keeps [w]) (env.Keeps (before ++ ws)) (env.Keeps ws) (env.Keeps (before ++ [w])) where
  rely_left _ _ h := keeps_mono h (by simp)
  rely_right _ _ h := keeps_mono h (by simp)
  guar_left _ _ h := keeps_mono h (by simp)
  guar_right _ _ h := keeps_mono h (by simp)
  left_right _ _ h := keeps_mono h (by simp)
  right_left _ _ h := keeps_mono h (by simp)
  steps_left _ _ h := h.1
  steps_right _ _ h := h.1
  refl_right := keeps_refl
  trans_left _ _ _ := keeps_trans
  trans_right _ _ _ := keeps_trans

/-- Independent workers do in a join what each of them does by itself. The workers before them are
left alone. -/
theorem meets_joinAll (env : Setting σ) (before ws : List (Worker σ α))
    (h : Independent env (before ++ ws)) (s : σ) (hs : ∀ w ∈ ws, w.part s = w.start) :
    (Prog.joinAll (ws.map Worker.program)).Meets env (env.Keeps ws) (env.Keeps before)
      (fun as s => as = ws.map Worker.value ∧ ∀ w ∈ ws, w.part s = w.final) s := by
  induction ws generalizing before s with
  | nil => exact ⟨rfl, nofun⟩
  | cons w ws ih =>
    obtain ⟨hstart, hstarts⟩ := List.forall_mem_cons.mp hs
    have hleft : w.Minds env (before ++ ws) := h before w ws rfl
    -- The others may have to wait until the first one gives way; meanwhile it minds them.
    have hright : ∀ s', env.Keeps ws s s' →
        (Prog.joinAll (ws.map Worker.program)).Meets env (env.Keeps ws) (env.Keeps (before ++ [w]))
          (fun as s => as = ws.map Worker.value ∧ ∀ v ∈ ws, v.part s = v.final) s' :=
      fun s' hs' => ih (before ++ [w]) (by simpa using h) s'
        fun v hv => (hs'.2 v hv).trans (hstarts v hv)
    have hboth := Prog.Meets.both (compatible env before w ws)
      (fun a s s' hs h => ⟨h.1, (hs.2 w List.mem_cons_self).trans h.2⟩)
      (fun as s s' hs h => ⟨h.1, fun v hv => (hs.2 v hv).trans (h.2 v hv)⟩)
      (hleft s hstart) hright
    refine hboth.bind fun aas s h => ?_
    obtain ⟨⟨ha, hfinal⟩, has, hfinals⟩ := h
    exact ⟨by simp [ha, has], List.forall_mem_cons.mpr ⟨hfinal, hfinals⟩⟩

end Worker

end Mediator
