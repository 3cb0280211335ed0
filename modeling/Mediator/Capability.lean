/-!
# Capabilities

What a request type opts into: being audited, authorized, cached. Intercepts look at the set to see
whether they apply.
-/

namespace Mediator

inductive Capability where
  | auditable
  | authorizable
  | cacheable
deriving DecidableEq, Repr, Inhabited

def Capability.all : List Capability := [.auditable, .authorizable, .cacheable]

def Capability.name : Capability → String
  | .auditable => "AUDITABLE"
  | .authorizable => "AUTHORIZABLE"
  | .cacheable => "CACHEABLE"

def Capability.bit : Capability → Nat
  | .auditable => 1
  | .authorizable => 2
  | .cacheable => 4

structure Capabilities where
  auditable : Bool
  authorizable : Bool
  cacheable : Bool
deriving DecidableEq, Repr

namespace Capabilities

def empty : Capabilities := ⟨false, false, false⟩

def full : Capabilities := ⟨true, true, true⟩

instance : Inhabited Capabilities := ⟨empty⟩

def has (cs : Capabilities) : Capability → Bool
  | .auditable => cs.auditable
  | .authorizable => cs.authorizable
  | .cacheable => cs.cacheable

def ofList (l : List Capability) : Capabilities :=
  ⟨l.contains .auditable, l.contains .authorizable, l.contains .cacheable⟩

def toList (cs : Capabilities) : List Capability := Capability.all.filter cs.has

def names (cs : Capabilities) : List String := cs.toList.map Capability.name

/-- The set that a bit pattern stands for; bits of no capability are dropped. -/
def ofBits (n : Nat) : Capabilities := ⟨n.testBit 0, n.testBit 1, n.testBit 2⟩

def bits (cs : Capabilities) : Nat := cs.toList.foldl (fun n c => n + c.bit) 0

def validBits (n : Nat) : Bool := (ofBits n).bits == n

def union (a b : Capabilities) : Capabilities :=
  ⟨a.auditable || b.auditable, a.authorizable || b.authorizable, a.cacheable || b.cacheable⟩

def inter (a b : Capabilities) : Capabilities :=
  ⟨a.auditable && b.auditable, a.authorizable && b.authorizable, a.cacheable && b.cacheable⟩

def diff (a b : Capabilities) : Capabilities :=
  ⟨a.auditable && !b.auditable, a.authorizable && !b.authorizable, a.cacheable && !b.cacheable⟩

def contains (a b : Capabilities) : Bool := a.inter b == b

def intersects (a b : Capabilities) : Bool := a.inter b != empty

def debug (cs : Capabilities) : String :=
  if cs == empty then "Capabilities(0x0)"
  else "Capabilities(" ++ " | ".intercalate cs.names ++ ")"

@[simp] theorem has_ofList (l : List Capability) (c : Capability) :
    (ofList l).has c = l.contains c := by
  cases c <;> rfl

theorem contains_iff {a b : Capabilities} :
    a.contains b = true ↔ ∀ c, b.has c = true → a.has c = true := by
  constructor
  · intro h c
    have h : a.inter b = b := by simpa [contains] using h
    rw [← h]
    cases c <;> simp +contextual [inter, has]
  · intro h
    have h1 := h .auditable
    have h2 := h .authorizable
    have h3 := h .cacheable
    obtain ⟨a1, a2, a3⟩ := a
    obtain ⟨b1, b2, b3⟩ := b
    simp only [has] at h1 h2 h3
    cases b1 <;> cases b2 <;> cases b3 <;> simp_all [contains, inter]

end Capabilities

end Mediator
