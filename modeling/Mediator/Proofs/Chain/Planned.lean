import Mediator.Proofs.Intercept.Composed
import Mediator.Proofs.Prog.Looks

/-!
# Chains as they are built, planned and run

A chain is built by placing intercepts inside or outside of those that it has. Any of them may stand
behind switches (`Link`). Which nodes take part in a request is decided anew when the turn of each
comes, and once more by every switch; but as long as the switches stay as they are, a run of the
chain is that of the nodes which take part when it begins, without their switches, and these are the
nodes of the plan (`runs_as_planned`).
-/

namespace Mediator

-- ---------------------------------------------------------------------------
-- Nodes
-- ---------------------------------------------------------------------------

namespace Intercept

/-- All that the node can do with the rest of the chain is run it, so that it cannot tell programs
apart that differ in looks alone. -/
def Extensional (node : Intercept) : Prop :=
  ∀ (I : World → Prop) ctx next next', Prog.Same I next next' →
    Prog.Same I (node.intercept ctx next) (node.intercept ctx next')

def ByCapabilities (node : Intercept) : Prop :=
  ∀ w w' caps, node.appliesTo w caps = node.appliesTo w' caps

theorem same_congruence (I : World → Prop) :
    Congruence True (fun _ _ => True) fun _ => Prog.Same I :=
  ⟨fun _ => .refl _, .bind, .attempt, fun _ _ h => h.guard _⟩

theorem Composed.extensional {node : Intercept} (h : node.Composed True fun _ _ => True) :
    node.Extensional :=
  fun I ctx _ _ hnext => (h.composes ctx).alike (same_congruence I) hnext

end Intercept

/-- An intercept behind any number of switches, the outer ones first. -/
inductive Link where
  | bare (node : Intercept)
  | switched (switch : Nat) (inner : Link)

namespace Link

def intercept : Link → Intercept
  | .bare node => node
  | .switched switch inner => .conditional switch inner.intercept

def core : Link → Intercept
  | .bare node => node
  | .switched _ inner => inner.core

def isOn (w : World) : Link → Bool
  | .bare _ => true
  | .switched switch inner => w.switches switch && inner.isOn w

def takesPart (l : Link) (w : World) (caps : Capabilities) : Bool :=
  l.isOn w && l.core.appliesTo w caps

@[simp] theorem name_intercept (l : Link) : l.intercept.name = l.core.name := by
  induction l with
  | bare node => rfl
  | switched switch inner ih => exact ih

@[simp] theorem appliesTo_intercept (l : Link) (w : World) (caps : Capabilities) :
    l.intercept.appliesTo w caps = l.takesPart w caps := by
  induction l with
  | bare node => simp [intercept, takesPart, isOn, core]
  | switched switch inner ih =>
    simp only [intercept, Intercept.conditional, ih, takesPart, isOn, core, Bool.and_assoc]

theorem isOn_congr {w w' : World} (h : w.switches = w'.switches) (l : Link) :
    l.isOn w = l.isOn w' := by
  induction l with
  | bare node => rfl
  | switched switch inner ih => simp only [isOn, h, ih]

theorem takesPart_congr {l : Link} (hl : l.core.ByCapabilities) {w w' : World}
    (h : w.switches = w'.switches) (caps : Capabilities) :
    l.takesPart w caps = l.takesPart w' caps := by
  rw [takesPart, takesPart, isOn_congr h, hl w w']

theorem intercept_same {l : Link} (hl : l.core.Extensional) {w : World} (hon : l.isOn w = true)
    {ctx : RequestContext} {next next' : Action Reply}
    (h : Prog.Same (fun v => v.switches = w.switches) next next') :
    Prog.Same (fun v => v.switches = w.switches) (l.intercept.intercept ctx next)
      (l.core.intercept ctx next') := by
  induction l with
  | bare node => exact hl _ ctx next next' h
  | switched switch inner ih =>
    obtain ⟨hswitch, hinner⟩ : w.switches switch = true ∧ inner.isOn w = true := by
      simpa [isOn] using hon
    intro v hv
    refine .lookLeft ?_
    rw [hv, if_pos hswitch]
    exact ih hl hinner v hv

end Link

-- ---------------------------------------------------------------------------
-- Chains
-- ---------------------------------------------------------------------------

namespace Chain

namespace Placement

def inside? : Placement → Option Intercept
  | .inside node => some node
  | .outside _ => none

def outside? : Placement → Option Intercept
  | .inside _ => none
  | .outside node => some node

end Placement

theorem foldl_place (ps : List Placement) (c : Chain) :
    ps.foldl place c =
      (ps.filterMap Placement.outside?).reverse ++ c ++ ps.filterMap Placement.inside? := by
  induction ps generalizing c with
  | nil => simp
  | cons p ps ih =>
    rw [List.foldl_cons, ih]
    cases p with
    | inside node => simp [place, List.filterMap_cons, Placement.inside?, Placement.outside?]
    | outside node =>
      simp [place, prepend, List.filterMap_cons, Placement.inside?, Placement.outside?]

theorem length_foldl_place (ps : List Placement) (c : Chain) :
    (ps.foldl place c).length = c.length + ps.length := by
  induction ps generalizing c with
  | nil => rfl
  | cons p ps ih =>
    rw [List.foldl_cons, ih]
    cases p with
    | inside node => simp [place]; omega
    | outside node => simp [place, prepend]; omega

def effective (links : List Link) (w : World) (caps : Capabilities) : Chain :=
  (links.filter (·.takesPart w caps)).map Link.core

theorem plan_links (links : List Link) (w : World) (caps : Capabilities) :
    Chain.plan (links.map Link.intercept) w caps =
      (effective links w caps).map Intercept.name := by
  simp [plan_eq, applicable, effective, List.filter_map, Function.comp_def]

theorem run_same {links : List Link}
    (h : ∀ l ∈ links, l.core.Extensional ∧ l.core.ByCapabilities) (w : World)
    (ctx : RequestContext) (handler : Handler) :
    Prog.Same (fun v => v.switches = w.switches)
      (Chain.run (links.map Link.intercept) ctx handler)
      ((effective links w ctx.capabilities).run ctx handler) := by
  induction links with
  | nil => exact .refl _
  | cons l rest ih =>
    obtain ⟨⟨hext, hcaps⟩, hrest⟩ := List.forall_mem_cons.mp h
    have ih := ih hrest
    intro v hv
    refine .lookLeft ?_
    rw [l.appliesTo_intercept, Link.takesPart_congr hcaps hv]
    cases hpart : l.takesPart w ctx.capabilities with
    | false =>
      have heffective : effective (l :: rest) w ctx.capabilities =
          effective rest w ctx.capabilities := by simp [effective, hpart]
      rw [heffective]
      exact ih v hv
    | true =>
      have heffective : effective (l :: rest) w ctx.capabilities =
          l.core :: effective rest w ctx.capabilities := by simp [effective, hpart]
      obtain ⟨hon, happlies⟩ : l.isOn w = true ∧ l.core.appliesTo w ctx.capabilities = true := by
        simpa [Link.takesPart] using hpart
      rw [heffective]
      refine .lookRight ?_
      rw [hcaps v w, if_pos happlies]
      exact Link.intercept_same hext hon ih v hv

/-- What is placed outside comes first, the last of it outermost, and what is placed inside comes
after that in its order. Whatever the switches are when a run begins, the plan names the nodes that
take part then, and as long as the run does not come upon a switch that has been changed, it is the
run of these nodes alone: it ends in the same way and leaves the same behind. -/
theorem runs_as_planned (ps : List Placement) {links : List Link}
    (h : ∀ l ∈ links, l.core.Extensional ∧ l.core.ByCapabilities) (ctx : RequestContext)
    (handler : Handler) (wait : (World → Bool) → Scheduler World → Scheduler World)
    (q : Scheduler World) :
    let whole := Chain.run (links.map Link.intercept) ctx handler
    let part := effective links q.state ctx.capabilities
    let placed := (ps.filterMap Placement.outside?).reverse ++ ps.filterMap Placement.inside?
    build ps = placed ∧ build ps = ofList placed ∧ (build ps).len = ps.length ∧
    Chain.plan (links.map Link.intercept) q.state ctx.capabilities = part.map Intercept.name ∧
    (whole.Within (fun w => w.switches = q.state.switches) wait q →
      whole.run wait q = (part.run ctx handler).run wait q ∧
      (part.run ctx handler).Within (fun w => w.switches = q.state.switches) wait q) := by
  intro whole part placed
  have hbuild : build ps = placed := by rw [build, foldl_place, List.append_nil]
  refine ⟨hbuild, ?_, ?_, plan_links links q.state ctx.capabilities, fun hwithin => ?_⟩
  · rw [ofList_eq, hbuild]
  · rw [len_eq, build, length_foldl_place, List.length_nil, Nat.zero_add]
  · exact (run_same h q.state ctx handler q.state rfl).run_eq hwithin

open Rehearsal (recording) in
/-- A request that is not auditable, with one node switched off and one behind two switches. The
node in the middle drops what is inside of it when the request is canceled. -/
theorem two_of_four_planned :
    let race : Intercept := ⟨"race", fun _ _ => true, fun ctx next =>
      (next.guard fun w => w.canceled ctx.operation.token).bind fun r =>
        .done (r.getD (.error .canceled))⟩
    let links : List Link := [.switched 0 (.bare (recording "a" false none)), .bare race,
      .bare (.audit .recording), .switched 1 (.switched 2 (.bare (recording "b" false none)))]
    let ctx : RequestContext := ⟨.plain ⟨⟨0⟩, "shop::Ping", .empty, .unit⟩ .null, default⟩
    let handler : Handler := fun _ _ => Prog.turn.bind fun _ => .done (.ok (.success .unit))
    let whole := Chain.run (links.map Link.intercept) ctx handler
    let q : Scheduler World := .start (World.empty.switch 0 false)
    Chain.plan (links.map Link.intercept) q.state ctx.capabilities = ["race", "b"] ∧
      whole.run Scheduler.alone q =
        (Chain.run [race, recording "b" false none] ctx handler).run Scheduler.alone q ∧
      (whole.run Scheduler.alone q).2.state.log = ["b:before", "b:after"] := by
  intro race links ctx handler whole q
  have hrecording (name : String) : (recording name false none).Extensional :=
    (Rehearsal.recording_composed ordinary_true name false none).extensional
  have haudit : (Intercept.audit .recording).Extensional :=
    (Rehearsal.NodeKind.composed (.audit .recording) .empty 0).extensional
  have hrace : race.Extensional := fun I ctx next next' h => (h.guard _).bind fun _ => .refl _
  have hlinks : ∀ l ∈ links, l.core.Extensional ∧ l.core.ByCapabilities := by
    simp only [links, List.forall_mem_cons]
    exact ⟨⟨hrecording "a", fun _ _ _ => rfl⟩, ⟨hrace, fun _ _ _ => rfl⟩,
      ⟨haudit, fun _ _ _ => rfl⟩, ⟨hrecording "b", fun _ _ _ => rfl⟩, List.forall_mem_nil _⟩
  obtain ⟨-, -, -, hplan, hrun⟩ := runs_as_planned [] hlinks ctx handler Scheduler.alone q
  obtain ⟨hrun, -⟩ := hrun (.intro rfl fun _ => .intro rfl (.intro rfl trivial))
  refine ⟨hplan, hrun, ?_⟩
  rw [hrun]
  rfl

end Chain

end Mediator
