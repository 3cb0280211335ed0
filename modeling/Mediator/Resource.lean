import Mediator.TypeName

/-!
# Resources

The target of an authorization check: a kind, and possibly the identifier of one instance.
-/

namespace Mediator

structure Resource where
  kind : String
  id : Option String
deriving DecidableEq, Repr, Inhabited

namespace Resource

def ofType (name : String) : Resource := ⟨TypeName.short name, none⟩

def withId (r : Resource) (id : String) : Resource := { r with id := some id }

def text (r : Resource) : String :=
  match r.id with
  | some id => r.kind ++ "/" ++ id
  | none => r.kind

end Resource

end Mediator
