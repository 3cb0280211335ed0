import Mediator.Panic

/-!
# Calls

A call runs at once: it may look at and change a state, and ends in a value or in a panic. Whatever
it did to the state before a panic stays done.
-/

namespace Mediator

variable {σ α β γ : Type}

def Call (σ α : Type) : Type := σ → Except Panic α × σ

namespace Call

def run (c : Call σ α) (s : σ) : Except Panic α × σ := c s

protected def pure (a : α) : Call σ α := fun s => (.ok a, s)

protected def bind (c : Call σ α) (f : α → Call σ β) : Call σ β := fun s =>
  match c s with
  | (.ok a, s') => f a s'
  | (.error p, s') => (.error p, s')

instance : Monad (Call σ) where
  pure := Call.pure
  bind := Call.bind

theorem bind_pure (c : Call σ α) : c.bind Call.pure = c := by
  funext s
  unfold Call.bind Call.pure
  rcases c s with ⟨_ | _, _⟩ <;> rfl

theorem bind_assoc (c : Call σ α) (f : α → Call σ β) (g : β → Call σ γ) :
    (c.bind f).bind g = c.bind fun a => (f a).bind g := by
  funext s
  unfold Call.bind
  rcases c s with ⟨_ | _, _⟩ <;> rfl

instance : LawfulMonad (Call σ) :=
  LawfulMonad.mk' _ bind_pure (fun _ _ => rfl) bind_assoc

def panic (payload : Panic) : Call σ α := fun s => (.error payload, s)

def read : Call σ σ := fun s => (.ok s, s)

def modify (f : σ → σ) : Call σ Unit := fun s => (.ok (), f s)

/-- The call as one that never panics: a panic is its value. -/
def attempt (c : Call σ α) : Call σ (Except Panic α) := fun s => (.ok (c s).1, (c s).2)

end Call

end Mediator
