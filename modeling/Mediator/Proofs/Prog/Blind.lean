import Mediator.Proofs.Prog.Along
import Mathlib.Data.List.Forall2

/-!
# Programs that do not see a difference

`R` says which states differ in nothing that matters. Two courses are alike if they end in the same
way, or both stall, and leave related states and the same tasks. A program is blind to what `R`
leaves open if its courses are alike whenever it finds related states at its turns. What is composed
of alike parts is alike (`Alike.bind`), as long as the second parts are alike after the first ones
have returned.
-/

namespace Mediator

variable {σ α β : Type} {R : σ → σ → Prop}

structure Alike (R : σ → σ → Prop) (x y : Course σ α) : Prop where
  ending : x.progress.ending = y.progress.ending
  state : R x.state y.state
  turns : List.Forall₂ R x.turns y.turns
  tasks : x.tasks = y.tasks

def Prog.Blind (R : σ → σ → Prop) (p : Prog σ α) : Prop :=
  ∀ s s' ss ss', R s s' → List.Forall₂ R ss ss' → Alike R (p.along s ss) (p.along s' ss')

theorem Prog.blind_eq (p : Prog σ α) : p.Blind Eq := by
  rintro s _ ss ss' rfl hss
  obtain rfl : ss = ss' := List.forall₂_eq_eq_eq ▸ hss
  exact ⟨rfl, rfl, List.forall₂_refl _, rfl⟩

namespace Alike

variable {p q : Prog σ α} {s s' : σ} {ss ss' : List σ}

theorem after {c c' : Course σ α} (h : Alike R c c') (l : List (Task σ)) :
    Alike R (c.after l) (c'.after l) :=
  ⟨h.ending, h.state, h.turns, congrArg (l ++ ·) h.tasks⟩

theorem bind {f g : α → Prog σ β} (h : Alike R (p.along s ss) (q.along s' ss'))
    (hfg : ∀ a t t' ts ts' l, p.along s ss = ⟨.returned a, t, ts, l⟩ →
      q.along s' ss' = ⟨.returned a, t', ts', l⟩ → R t t' → List.Forall₂ R ts ts' →
      Alike R ((f a).along t ts) ((g a).along t' ts')) :
    Alike R ((p.bind f).along s ss) ((q.bind g).along s' ss') := by
  obtain ⟨hending, hstate, hturns, htasks⟩ := h
  rw [Prog.along_bind, Prog.along_bind]
  rcases hp : p.along s ss with ⟨_ | _ | _, t, ts, l⟩ <;>
    rcases hq : q.along s' ss' with ⟨_ | _ | _, t', ts', l'⟩ <;>
      simp only [hp, hq, Progress.ending, reduceCtorEq, Ending.returned.injEq,
        Ending.panicked.injEq] at hending hstate hturns htasks
  · subst hending htasks
    exact (hfg _ t t' ts ts' l hp hq hstate hturns).after l
  · subst hending
    exact ⟨rfl, hstate, hturns, htasks⟩
  · exact ⟨rfl, hstate, hturns, htasks⟩

theorem attempt (h : Alike R (p.along s ss) (q.along s' ss')) :
    Alike R (p.attempt.along s ss) (q.attempt.along s' ss') := by
  obtain ⟨hending, hstate, hturns, htasks⟩ := h
  rw [Prog.along_attempt, Prog.along_attempt]
  rcases hp : p.along s ss with ⟨_ | _ | _, t, ts, l⟩ <;>
    rcases hq : q.along s' ss' with ⟨_ | _ | _, t', ts', l'⟩ <;>
      simp only [hp, hq, Progress.ending, reduceCtorEq, Ending.returned.injEq,
        Ending.panicked.injEq] at hending hstate hturns htasks
  · subst hending
    exact ⟨rfl, hstate, hturns, htasks⟩
  · subst hending
    exact ⟨rfl, hstate, hturns, htasks⟩
  · exact ⟨rfl, hstate, hturns, htasks⟩

end Alike

theorem Prog.Blind.bind {p : Prog σ α} {f : α → Prog σ β} (hp : p.Blind R)
    (hf : ∀ a, (f a).Blind R) : (p.bind f).Blind R :=
  fun _ _ _ _ hs hss => (hp _ _ _ _ hs hss).bind fun a _ _ _ _ _ _ _ ht hts =>
    hf a _ _ _ _ ht hts

theorem Prog.blind_done (a : α) : (Prog.done a).Blind R := fun _ _ _ _ hs hss =>
  ⟨rfl, hs, hss, rfl⟩

end Mediator
