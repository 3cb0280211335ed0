/-!
# Who acts, and where

The principal on whose behalf an operation runs, and the facts about the host that it runs in.
-/

namespace Mediator

structure Identity where
  id : Option String
  name : Option String
  roles : List String
deriving DecidableEq, Repr

namespace Identity

def anonymous : Identity := ⟨none, none, []⟩

instance : Inhabited Identity := ⟨anonymous⟩

def authenticated (id name : String) : Identity := ⟨some id, some name, []⟩

def withRole (who : Identity) (role : String) : Identity :=
  { who with roles := who.roles ++ [role] }

def hasRole (who : Identity) (role : String) : Bool := who.roles.contains role

def isAuthenticated (who : Identity) : Bool := who.id.isSome

end Identity

inductive HostKind where
  | server
  | client
  | function
  | worker
deriving DecidableEq, Repr, Inhabited

def HostKind.name : HostKind → String
  | .server => "Server"
  | .client => "Client"
  | .function => "Function"
  | .worker => "Worker"

structure Host where
  name : String
  kind : HostKind
deriving DecidableEq, Repr

namespace Host

def development : Host := ⟨"Development", .server⟩

instance : Inhabited Host := ⟨development⟩

end Host

end Mediator
