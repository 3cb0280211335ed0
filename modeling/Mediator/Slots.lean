import Mediator.TypeName

/-!
# Slots

What is kept for message types, by their identities. It has lost the type that it was made for: it
can be taken back only by asking for that type again, and whoever asks for another one gets nothing.
-/

namespace Mediator

/-- Something that was made for a message type, without that type. -/
structure Erased (α : Type) where
  type : TypeId
  content : α

namespace Erased

variable {α : Type}

/-- The content, for those who know what type it was made for. -/
def downcast? (t : TypeId) (e : Erased α) : Option α :=
  if e.type == t then some e.content else none

@[simp] theorem downcast?_mk (t : TypeId) (a : α) : downcast? t ⟨t, a⟩ = some a := by
  simp [downcast?]

/-- One more member. What is no list for the type stays as it is. -/
def enlist (t : TypeId) (a : α) (e : Erased (List α)) : Erased (List α) :=
  match e.downcast? t with
  | some l => { e with content := l ++ [a] }
  | none => e

theorem enlist_mk (t : TypeId) (a : α) (l : List α) : enlist t a ⟨t, l⟩ = ⟨t, l ++ [a]⟩ := by
  simp [enlist]

end Erased

abbrev Slots (α : Type) : Type := List (TypeId × Erased α)

namespace Slots

variable {α : Type}

def get? (t : TypeId) (s : Slots α) : Option (Erased α) := (s.find? (·.1 == t)).map (·.2)

def put (t : TypeId) (e : Erased α) : Slots α → Slots α
  | [] => [(t, e)]
  | (u, e') :: rest => if u == t then (t, e) :: rest else (u, e') :: put t e rest

@[simp] theorem get?_nil (t : TypeId) : get? t ([] : Slots α) = none := rfl

theorem get?_put (t u : TypeId) (e : Erased α) (s : Slots α) :
    get? u (put t e s) = if t = u then some e else get? u s := by
  unfold get?
  induction s with
  | nil => by_cases h : t = u <;> simp [put, h]
  | cons x s ih =>
    obtain ⟨m, e'⟩ := x
    by_cases hm : m = t
    · subst hm
      by_cases hu : m = u <;> simp [put, hu]
    · by_cases hu : m = u
      · subst hu
        simp [put, hm, Ne.symm hm]
      · simp only [put, beq_iff_eq, hm, if_false, List.find?_cons, beq_eq_false_iff_ne.2 hu]
        exact ih

theorem get?_isSome_iff {t : TypeId} {s : Slots α} : (get? t s).isSome ↔ t ∈ s.map (·.1) := by
  simp [get?]

theorem map_fst_put (t : TypeId) (e : Erased α) (s : Slots α) :
    (put t e s).map (·.1) =
      if (get? t s).isSome then s.map (·.1) else s.map (·.1) ++ [t] := by
  simp only [get?_isSome_iff]
  induction s with
  | nil => simp [put]
  | cons x s ih =>
    obtain ⟨m, e'⟩ := x
    by_cases hm : m = t
    · simp [put, hm]
    · simp only [put, beq_iff_eq, hm, if_false, List.map_cons, ih, List.mem_cons, Ne.symm hm,
        false_or]
      split <;> rfl

/-! ## Lists in slots -/

def listed (t : TypeId) (s : Slots (List α)) : List α :=
  ((s.get? t).bind (Erased.downcast? t)).getD []

def enlist (t : TypeId) (a : α) (s : Slots (List α)) : Slots (List α) :=
  s.put t (((s.get? t).getD ⟨t, []⟩).enlist t a)

/-- The slots hold these lists, and nothing for the types that have no members. -/
def Hold (s : Slots (List α)) (members : TypeId → List α) : Prop :=
  ∀ t, s.get? t = if members t = [] then none else some ⟨t, members t⟩

section
variable {s : Slots (List α)} {members : TypeId → List α}

theorem hold_nil : Hold ([] : Slots (List α)) fun _ => [] := fun _ => rfl

theorem Hold.downcast? (h : s.Hold members) (t : TypeId) :
    (s.get? t).bind (Erased.downcast? t) =
      if members t = [] then none else some (members t) := by
  rw [h]
  split <;> simp

theorem Hold.listed (h : s.Hold members) (t : TypeId) : s.listed t = members t := by
  rw [Slots.listed, h.downcast?]
  split
  · next hnil => simp [hnil]
  · rfl

theorem Hold.enlist (h : s.Hold members) (t : TypeId) (a : α) :
    (s.enlist t a).Hold fun u => members u ++ if t = u then [a] else [] := by
  intro u
  have hlist : (s.get? t).getD ⟨t, []⟩ = ⟨t, members t⟩ := by
    rw [h]
    split
    · next hnil => simp [hnil]
    · rfl
  rw [Slots.enlist, hlist, Erased.enlist_mk, get?_put]
  split
  · next ht => simp [← ht]
  · next ht => simpa [ht] using h u

end

end Slots

end Mediator
