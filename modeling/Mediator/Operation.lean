import Mediator.Identity
import Mediator.Text.Quoted
import Mediator.Trace

/-!
# Operations

Every dispatch and every publish runs in an operation: who acts, on which host, under which
correlation id, with which cancellation token, and inside which spans. When it began is left out.
-/

namespace Mediator

/-- A token is known by a number; whether it is canceled is for the world to say. -/
structure Token where
  id : Nat
deriving DecidableEq, Repr, Inhabited

structure Uuid where
  value : Nat
deriving DecidableEq, Repr, Inhabited

namespace Uuid

def digits (u : Uuid) : List Char :=
  (List.range 32).map fun i => Nat.digitChar (u.value / Nat.pow 16 (31 - i) % 16)

def text (u : Uuid) : String :=
  let ds := u.digits
  let part (start length : Nat) : String := String.ofList ((ds.drop start).take length)
  "-".intercalate [part 0 8, part 8 4, part 12 4, part 16 4, part 20 12]

/-- The thirteenth digit tells how the identifier was made. -/
def version (u : Uuid) : Nat := u.value / Nat.pow 16 19 % 16

def digitValue? (c : Char) : Option Nat :=
  if '0' ≤ c && c ≤ '9' then some (c.toNat - 48)
  else if 'a' ≤ c.toLower && c.toLower ≤ 'f' then some (c.toLower.toNat - 87)
  else none

def ofDigits? (ds : List Char) : Option Uuid := do
  guard (ds.length == 32)
  let values ← ds.mapM digitValue?
  return ⟨values.foldl (fun n d => n * 16 + d) 0⟩

def ofGroups? (cs : List Char) : Option Uuid := do
  let groups := cs.splitOn '-'
  guard (groups.map List.length == [8, 4, 4, 4, 12])
  ofDigits? groups.flatten

/-- Read an identifier: just its digits, or in groups, or those in braces or behind the name of the
scheme. -/
def parse? (text : String) : Option Uuid :=
  let cs := text.toList
  ofDigits? cs <|> ofGroups? cs <|>
    match cs with
    | '{' :: rest => do
      guard (rest.getLast? == some '}')
      ofGroups? rest.dropLast
    | _ => do
      let scheme := "urn:uuid:".toList
      guard (scheme.isPrefixOf cs)
      ofGroups? (cs.drop scheme.length)

end Uuid

inductive Correlation where
  | given (id : Uuid)
  /-- A random one. -/
  | generated
deriving DecidableEq, Repr, Inhabited

namespace Correlation

def text : Correlation → String
  | .given id => id.text
  | .generated => "generated"

def version : Correlation → Nat
  | .given id => id.version
  | .generated => 4

end Correlation

structure Operation where
  user : Identity
  host : Host
  correlation : Correlation
  token : Token
  /-- The spans that events of this operation are reported in. -/
  spans : List Span
deriving DecidableEq, Repr, Inhabited

namespace Operation

def anonymous (host : Host) (token : Token) : Operation := ⟨.anonymous, host, .generated, token, []⟩

def within (op : Operation) (span : Span) : Operation := { op with spans := op.spans ++ [span] }

/-- The operation in one line; whether its token is canceled is told. -/
def describe (op : Operation) (canceled : Bool) : String :=
  s!"id={Text.quoteOption op.user.id} name={Text.quoteOption op.user.name} "
    ++ s!"roles={Text.quoteList op.user.roles} auth={op.user.isAuthenticated} "
    ++ s!"env={op.host.name} runtime={op.host.kind.name} canceled={canceled} "
    ++ s!"cid={op.correlation.text} v={op.correlation.version}"

end Operation

end Mediator
