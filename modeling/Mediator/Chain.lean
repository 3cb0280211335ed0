import Mediator.World

/-!
# Chains of intercepts

A request runs through a chain of intercepts to its handler. The first intercept is the outermost:
it is given the rest of the chain as a program, `next`, which it may run as often as it likes. An
intercept takes part only in requests to which it applies.
-/

namespace Mediator

/-- What handlers and intercepts end with: an outcome, or an error that escapes. -/
abbrev Reply : Type := Except Error (Outcome Value)

def Reply.status : Reply → Status
  | .ok o => o.status
  | .error _ => .fault

structure RequestContext where
  request : Request
  operation : Operation
deriving Inhabited

namespace RequestContext

def name (ctx : RequestContext) : String := ctx.request.name

def capabilities (ctx : RequestContext) : Capabilities := ctx.request.type.capabilities

def emit (ctx : RequestContext) (e : Event) : Action Unit := .emit ctx.operation.spans e

end RequestContext

abbrev Handler : Type := Request → Operation → Action Reply

structure Intercept where
  name : String
  appliesTo : World → Capabilities → Bool
  intercept : RequestContext → Action Reply → Action Reply

abbrev Chain : Type := List Intercept

namespace Chain

/-- Run a request through the chain to the handler. Whether an intercept takes part is decided when
its turn comes. -/
def run : Chain → RequestContext → Handler → Action Reply
  | [], ctx, handler => handler ctx.request ctx.operation
  | node :: rest, ctx, handler =>
    .get fun w =>
      if node.appliesTo w ctx.capabilities then node.intercept ctx (run rest ctx handler)
      else run rest ctx handler

/-- Put the names of those intercepts that apply behind the names that are there already. -/
def collectPlan : Chain → World → Capabilities → List String → List String
  | [], _, _, names => names
  | node :: rest, w, caps, names =>
    collectPlan rest w caps (if node.appliesTo w caps then names ++ [node.name] else names)

/-- The names of the intercepts that apply, outermost first. -/
def plan (c : Chain) (w : World) (caps : Capabilities) : List String := c.collectPlan w caps []

def applicable (c : Chain) (w : World) (caps : Capabilities) : Chain :=
  c.filter fun node => node.appliesTo w caps

theorem collectPlan_eq (c : Chain) (w : World) (caps : Capabilities) (names : List String) :
    c.collectPlan w caps names = names ++ (c.applicable w caps).map Intercept.name := by
  induction c generalizing names with
  | nil => simp [collectPlan, applicable]
  | cons node rest ih =>
    rw [collectPlan, ih]
    by_cases h : node.appliesTo w caps = true <;> simp [applicable, h]

theorem plan_eq (c : Chain) (w : World) (caps : Capabilities) :
    c.plan w caps = (c.applicable w caps).map Intercept.name :=
  c.collectPlan_eq w caps []

def len : Chain → Nat
  | [] => 0
  | _ :: rest => 1 + len rest

@[simp] theorem len_eq (c : Chain) : c.len = c.length := by
  induction c with
  | nil => rfl
  | cons node rest ih => rw [len, ih, List.length_cons, Nat.add_comm]

/-! ## Building one -/

/-- The chain of the intercepts that are listed, the first of them outermost. -/
def ofList : List Intercept → Chain
  | [] => []
  | [node] => [node]
  | node :: more => node :: ofList more

@[simp] theorem ofList_eq (nodes : List Intercept) : ofList nodes = nodes := by
  fun_induction ofList nodes with
  | case1 => rfl
  | case2 node => rfl
  | case3 node more _ ih => rw [ih]

def add : Chain → Intercept → Chain
  | [], node => [node]
  | head :: tail, node => head :: add tail node

@[simp] theorem add_eq (c : Chain) (node : Intercept) : c.add node = c ++ [node] := by
  induction c with
  | nil => rfl
  | cons head tail ih => rw [add, ih, List.cons_append]

def prepend (c : Chain) (node : Intercept) : Chain := node :: c

inductive Placement where
  | inside (node : Intercept)
  | outside (node : Intercept)

def place (c : Chain) : Placement → Chain
  | .inside node => c.add node
  | .outside node => c.prepend node

def build (ps : List Placement) : Chain := ps.foldl place []

end Chain

end Mediator
