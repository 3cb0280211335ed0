import Mediator.Declaration.Item

/-!
# Arguments of attributes

An attribute has a sequence of arguments. Each begins with its name, which decides what follows, and
may have one comma behind it.
-/

namespace Mediator.Declaration

namespace Reader

variable {α : Type}

def dropComma (ts : List Token) : List Token := if beginsWith "," ts then ts.drop 1 else ts

theorem length_dropComma_le (ts : List Token) : (dropComma ts).length ≤ ts.length := by
  unfold dropComma
  split
  · simp only [List.length_drop]
    omega
  · exact Nat.le_refl _

/-- The arguments that the tokens consist of, and the first group of which something was left;
`value` reads what follows a name. -/
def argumentsOf (value : String → Reader α) :
    List Token → Except Rejection (List α × Option Delimiter)
  | [] => .ok ([], none)
  | t :: ts => do
    let name ← identifier [t]
    let r ← value name.value ts
    let (as, leftover) ← argumentsOf value (dropComma (ts.drop r.count))
    return (r.value :: as, r.leftover.or leftover)
termination_by ts => ts.length
decreasing_by
  have := length_dropComma_le (ts.drop r.count)
  simp only [List.length_drop] at this
  simp only [List.length_cons]
  omega

end Reader

/-- The arguments of the attribute, which has to have some, be there none in its parentheses. -/
def Attribute.arguments {α : Type} (a : Attribute) (value : String → Reader α) :
    Except Rejection (List α) :=
  match a.form with
  | .arguments ts => do
    match ← Reader.argumentsOf value ts with
    | (as, none) => return as
    | (_, some d) => throw (.leftover (some d))
  | .bare => .error (.bare ("::".intercalate a.path))
  | .value => .error (.valued ("::".intercalate a.path))

end Mediator.Declaration
