import Mediator.Outcome

/-!
# Laws of outcomes

`map` and `andThen` make outcomes a functor and a monad, also where the functions panic: whichever
of two functions does, and wherever the panic is caught, the same failure comes of it. The laws are
equations between calls, and these may do anything to a state: so on both sides the functions are
called with the same values, in the same order and as often.
-/

namespace Mediator

variable {σ α β γ : Type}

-- ---------------------------------------------------------------------------
-- Calls one after the other
-- ---------------------------------------------------------------------------

namespace Call

variable {c : Call σ α} {f : α → Call σ β} {a : α} {p : Panic} {s t : σ}

theorem bind_of_ok (h : c s = (.ok a, t)) : (c >>= f) s = f a t := by
  simp only [Bind.bind, Call.bind, h]

theorem bind_of_error (h : c s = (.error p, t)) : (c >>= f) s = (.error p, t) := by
  simp only [Bind.bind, Call.bind, h]

/-- Whatever the state, the call returns. -/
def Returns (c : Call σ α) : Prop := ∀ s, ∃ a t, c s = (.ok a, t)

/-- The call, entered in a journal that is kept beside the state. -/
def entered {ι : Type} (entry : ι) (c : Call σ α) : Call (List ι × σ) α := fun s =>
  ((c s.2).1, (s.1 ++ [entry], (c s.2).2))

theorem Returns.bind (hc : c.Returns) (hf : ∀ a, (f a).Returns) : (c >>= f).Returns := by
  intro s
  obtain ⟨a, t, ha⟩ := hc s
  obtain ⟨b, u, hb⟩ := hf a t
  exact ⟨b, u, (bind_of_ok ha).trans hb⟩

end Call

namespace Outcome

-- ---------------------------------------------------------------------------
-- One function
-- ---------------------------------------------------------------------------

section
variable {v : α} {s t : σ} {p : Panic}

theorem map_of_ok {f : α → Call σ β} {b : β} (h : f v s = (.ok b, t)) :
    (success v).map f s = (.ok (.success b), t) := by
  have hcaught : (f v).attempt s = (.ok (.ok b), t) := by rw [Call.attempt, h]
  exact Call.bind_of_ok hcaught

theorem map_of_error {f : α → Call σ β} (h : f v s = (.error p, t)) :
    (success v).map f s = (.ok (.panicked "Outcome::map" p), t) := by
  have hcaught : (f v).attempt s = (.ok (.error p), t) := by rw [Call.attempt, h]
  exact Call.bind_of_ok hcaught

theorem andThen_of_ok {f : α → Call σ (Outcome β)} {o : Outcome β} (h : f v s = (.ok o, t)) :
    (success v).andThen f s = (.ok o, t) := by
  have hcaught : (f v).attempt s = (.ok (.ok o), t) := by rw [Call.attempt, h]
  exact Call.bind_of_ok hcaught

theorem andThen_of_error {f : α → Call σ (Outcome β)} (h : f v s = (.error p, t)) :
    (success v).andThen f s = (.ok (.panicked "Outcome::then" p), t) := by
  have hcaught : (f v).attempt s = (.ok (.error p), t) := by rw [Call.attempt, h]
  exact Call.bind_of_ok hcaught

theorem map_returns (o : Outcome α) (f : α → Call σ β) : (o.map f).Returns := by
  intro s
  cases o with
  | failure e => exact ⟨.failure e, s, rfl⟩
  | success v =>
    rcases h : f v s with ⟨p | b, t⟩
    · exact ⟨_, t, map_of_error h⟩
    · exact ⟨_, t, map_of_ok h⟩

theorem andThen_returns (o : Outcome α) (f : α → Call σ (Outcome β)) : (o.andThen f).Returns := by
  intro s
  cases o with
  | failure e => exact ⟨.failure e, s, rfl⟩
  | success v =>
    rcases h : f v s with ⟨p | o, t⟩
    · exact ⟨_, t, andThen_of_error h⟩
    · exact ⟨o, t, andThen_of_ok h⟩

end

-- ---------------------------------------------------------------------------
-- Two functions
-- ---------------------------------------------------------------------------

theorem map_pure (o : Outcome α) : o.map pure = (pure o : Call σ (Outcome α)) := by
  cases o <;> rfl

/-- If the first function panics, the `map` of both has caught it on the one side, and on the other
the first of two. -/
theorem map_map (o : Outcome α) (f : α → Call σ β) (g : β → Call σ γ) :
    (o.map f >>= fun o' => o'.map g) = o.map fun v => f v >>= g := by
  cases o with
  | failure e => rfl
  | success v =>
    funext s
    rcases hf : f v s with ⟨p | b, t⟩
    · have hboth : (fun v => f v >>= g) v s = (.error p, t) := Call.bind_of_error hf
      exact (Call.bind_of_ok (map_of_error hf)).trans (map_of_error hboth).symm
    · have hboth : (fun v => f v >>= g) v s = g b t := Call.bind_of_ok hf
      refine (Call.bind_of_ok (map_of_ok hf)).trans ?_
      rcases hg : g b t with ⟨p | c, u⟩
      · exact (map_of_error hg).trans (map_of_error (hboth.trans hg)).symm
      · exact (map_of_ok hg).trans (map_of_ok (hboth.trans hg)).symm

theorem andThen_success (o : Outcome α) :
    o.andThen (fun v => pure (.success v)) = (pure o : Call σ (Outcome α)) := by
  cases o <;> rfl

/-- If the second function panics, the inner `andThen` has caught it on the right, and the outer one
on the left. -/
theorem andThen_assoc (o : Outcome α) (f : α → Call σ (Outcome β)) (g : β → Call σ (Outcome γ)) :
    (o.andThen f >>= fun o' => o'.andThen g) =
      o.andThen fun v => f v >>= fun o' => o'.andThen g := by
  cases o with
  | failure e => rfl
  | success v =>
    funext s
    rcases hf : f v s with ⟨p | o', t⟩
    · have hboth : (fun v => f v >>= fun o' => o'.andThen g) v s = (.error p, t) :=
        Call.bind_of_error hf
      exact (Call.bind_of_ok (andThen_of_error hf)).trans (andThen_of_error hboth).symm
    · obtain ⟨o'', u, hg⟩ := andThen_returns o' g t
      have hboth : (fun v => f v >>= fun o' => o'.andThen g) v s = (.ok o'', u) :=
        (Call.bind_of_ok hf).trans hg
      exact (Call.bind_of_ok (andThen_of_ok hf)).trans (hg.trans (andThen_of_ok hboth).symm)

/-- What `map` makes of a function, `andThen` makes of the same with a success around it; only the
failure of a panic is named after the one or the other. -/
theorem map_eq_andThen_or (o : Outcome α) (f : α → Call σ β) (s : σ) :
    o.map f s = o.andThen (fun v => success <$> f v) s ∨
      ∃ v p t, o = .success v ∧ f v s = (.error p, t) ∧
        o.map f s = (.ok (.panicked "Outcome::map" p), t) ∧
        o.andThen (fun v => success <$> f v) s = (.ok (.panicked "Outcome::then" p), t) := by
  cases o with
  | failure e => exact .inl rfl
  | success v =>
    rcases hf : f v s with ⟨p | b, t⟩
    · have hboth : (fun v => success <$> f v) v s = (.error p, t) := Call.bind_of_error hf
      exact .inr ⟨v, p, t, rfl, hf, map_of_error hf, andThen_of_error hboth⟩
    · have hboth : (fun v => success <$> f v) v s = (.ok (.success b), t) := Call.bind_of_ok hf
      exact .inl ((map_of_ok hf).trans (andThen_of_ok hboth).symm)

theorem success_andThen (v : α) (f : α → Call σ (Outcome β)) (s : σ) :
    (success v).andThen f s = match f v s with
      | (.ok o, t) => (.ok o, t)
      | (.error p, t) => (.ok (.panicked "Outcome::then" p), t) := by
  rcases hf : f v s with ⟨p | o, t⟩
  · exact andThen_of_error hf
  · exact andThen_of_ok hf

-- ---------------------------------------------------------------------------
-- All laws
-- ---------------------------------------------------------------------------

/-- `map` is a functor and `andThen` a monad, with an error staying the same object, and none of
their calls panics. Only the last of the laws has an exception: of a function that panics, `map` and
`andThen` make failures that differ in the name of the operation. Both sides of a law call the
functions with the same values in the same order, as journals of these calls show. -/
theorem map_andThen_lawful (o : Outcome α) (f : α → Call σ β) (g : β → Call σ γ)
    (h : α → Call σ (Outcome β)) (k : β → Call σ (Outcome γ)) :
    o.map pure = (pure o : Call σ (Outcome α)) ∧
    (o.map f >>= fun o' => o'.map g) = o.map (fun v => f v >>= g) ∧
    o.andThen (fun v => pure (.success v)) = (pure o : Call σ (Outcome α)) ∧
    (∀ v s, (success v).andThen h s = match h v s with
      | (.ok o', t) => (.ok o', t)
      | (.error p, t) => (.ok (.panicked "Outcome::then" p), t)) ∧
    (o.andThen h >>= fun o' => o'.andThen k) =
      o.andThen (fun v => h v >>= fun o' => o'.andThen k) ∧
    (∀ s, o.map f s = o.andThen (fun v => success <$> f v) s ∨
      ∃ v p t, o = .success v ∧ f v s = (.error p, t) ∧
        o.map f s = (.ok (.panicked "Outcome::map" p), t) ∧
        o.andThen (fun v => success <$> f v) s = (.ok (.panicked "Outcome::then" p), t)) ∧
    ((o.map f).Returns ∧ (o.map f >>= fun o' => o'.map g).Returns ∧ (o.andThen h).Returns ∧
      (o.andThen h >>= fun o' => o'.andThen k).Returns) ∧
    let f' (v : α) := (f v).entered (Sum.inl v)
    let g' (w : β) := (g w).entered (Sum.inr w)
    let h' (v : α) := (h v).entered (Sum.inl v)
    let k' (w : β) := (k w).entered (Sum.inr w)
    ∀ s, ((o.map f' >>= fun o' => o'.map g') s).2 = (o.map (fun v => f' v >>= g') s).2 ∧
      (∀ v, ((success v).andThen h' s).2 = (h' v s).2) ∧
      ((o.andThen h' >>= fun o' => o'.andThen k') s).2 =
        (o.andThen (fun v => h' v >>= fun o' => o'.andThen k') s).2 ∧
      (o.map f' s).2 = (o.andThen (fun v => success <$> f' v) s).2 := by
  refine ⟨map_pure o, map_map o f g, andThen_success o, fun v s => success_andThen v h s,
    andThen_assoc o h k, map_eq_andThen_or o f,
    ⟨map_returns o f, (map_returns o f).bind fun o' => map_returns o' g,
      andThen_returns o h, (andThen_returns o h).bind fun o' => andThen_returns o' k⟩, ?_⟩
  intro f' g' h' k' s
  refine ⟨by rw [map_map], fun v => ?_, by rw [andThen_assoc], ?_⟩
  · rw [success_andThen]
    rcases h' v s with ⟨p | o', t⟩ <;> rfl
  · rcases map_eq_andThen_or o f' s with heq | ⟨v, p, t, -, -, hmap, handThen⟩
    · rw [heq]
    · rw [hmap, handThen]

end Outcome

end Mediator
