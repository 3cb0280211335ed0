import Mediator.Rehearsal.Node
import Mediator.Proofs.Prog.Along

/-!
# Chains of recorders

Recording nodes write down when they are entered and when the rest of the chain has ended in an
outcome. A chain of them is an onion (`Recorder.along_run`): the nodes that apply are entered from
the outside in, up to the first that lets nothing pass or else up to the handler, and they are left
from the inside out. What this says of the log and of the reply is read off in `runs_as_onion`.
-/

namespace Mediator

def World.writeAll (w : World) (lines : List String) : World := { w with log := w.log ++ lines }

namespace Rehearsal

-- ---------------------------------------------------------------------------
-- Lines
-- ---------------------------------------------------------------------------

def writeAll : List String → Action Unit
  | [] => pure ()
  | line :: rest => do
    Action.write line
    writeAll rest

theorem writeAll_append (xs ys : List String) :
    writeAll (xs ++ ys) = (do writeAll xs; writeAll ys) := by
  induction xs with
  | nil => rfl
  | cons x xs ih => simp only [List.cons_append, writeAll, ih, bind_assoc]

theorem along_writeAll (lines : List String) (w : World) (ws : List World) :
    (writeAll lines).along w ws = ⟨.returned (), w.writeAll lines, ws, []⟩ := by
  induction lines generalizing w with
  | nil => simp [writeAll, World.writeAll, Prog.pure_eq]
  | cons line lines ih =>
    simp [writeAll, Prog.bind_eq, Prog.along_bind, Action.write, ih, World.writeAll, World.write]

-- ---------------------------------------------------------------------------
-- One recorder
-- ---------------------------------------------------------------------------

structure Recorder where
  name : String
  /-- It lets nothing pass. -/
  short : Bool
  required : Option Capabilities

namespace Recorder

def node (r : Recorder) : Intercept := recording r.name r.short r.required

def before (r : Recorder) : String := r.name ++ ":before"

def after (r : Recorder) : String := r.name ++ ":after"

/-- What is left to do when a reply has come from inside. -/
def closing (lines : List String) : Reply → Action Reply
  | .ok o => do
    writeAll lines
    return .ok o
  | .error e => return .error e

/-- The reply of a recorder that lets nothing pass. -/
def refusal (r : Recorder) : Reply := .ok (.fail ("short-circuited by " ++ r.name))

theorem intercept_of_short {r : Recorder} (h : r.short = true) (ctx : RequestContext)
    (next : Action Reply) :
    r.node.intercept ctx next =
      (do writeAll [r.before, r.name ++ ":short"]; return r.refusal) := by
  simp only [node, recording, h]
  rfl

theorem intercept_of_not_short {r : Recorder} (h : r.short = false) (ctx : RequestContext)
    (next : Action Reply) :
    r.node.intercept ctx next = (do writeAll [r.before]; next.bind (closing [r.after])) := by
  have hclosing : closing [r.after] = fun
      | .ok o => do
        Action.write (r.name ++ ":after")
        return .ok o
      | .error e => return .error e := by
    funext reply
    cases reply <;> rfl
  simp only [node, recording, h, hclosing]
  rfl

-- ---------------------------------------------------------------------------
-- Many recorders
-- ---------------------------------------------------------------------------

theorem closing_nil : closing [] = .done := by
  funext reply
  cases reply <;> rfl

theorem closing_append (xs ys : List String) (reply : Reply) :
    (closing xs reply).bind (closing ys) = closing (xs ++ ys) reply := by
  cases reply with
  | ok o =>
    show ((writeAll xs).bind fun _ => Prog.done (.ok o)).bind (closing ys) = _
    rw [Prog.bind_assoc]
    simp only [closing, writeAll_append, Prog.bind_eq, Prog.pure_eq, Prog.bind_assoc]
    rfl
  | error e => rfl

/-- What recorders that all apply do around what is inside of them. -/
def onion (ns : List Recorder) (inner : Action Reply) : Action Reply :=
  match ns.dropWhile (!·.short) with
  | [] => do
    writeAll (ns.map before)
    inner.bind (closing (ns.reverse.map after))
  | gate :: _ => do
    let outer := ns.takeWhile (!·.short)
    writeAll (outer.map before ++ [gate.before, gate.name ++ ":short"] ++ outer.reverse.map after)
    return gate.refusal

theorem onion_cons_of_short {r : Recorder} (h : r.short = true) (ns : List Recorder)
    (inner : Action Reply) :
    onion (r :: ns) inner = (do writeAll [r.before, r.name ++ ":short"]; return r.refusal) := by
  simp [onion, h]

theorem onion_cons_of_not_short {r : Recorder} (h : r.short = false) (ns : List Recorder)
    (inner : Action Reply) :
    onion (r :: ns) inner =
      (do writeAll [r.before]; (onion ns inner).bind (closing [r.after])) := by
  unfold onion
  rw [List.dropWhile_cons_of_pos (by simp [h]), List.takeWhile_cons_of_pos (by simp [h])]
  cases ns.dropWhile (!·.short) with
  | nil =>
    rw [List.map_cons, ← List.singleton_append, writeAll_append, List.reverse_cons,
      List.map_append]
    simp only [Prog.bind_eq, Prog.bind_assoc, closing_append, List.map_cons, List.map_nil]
  | cons gate _ =>
    -- The refusal is an outcome, so the outer node is left as after any other.
    have hclosing : closing [r.after] gate.refusal =
        (do writeAll [r.after]; return gate.refusal) := rfl
    simp only [List.map_cons, List.reverse_cons, List.map_append, List.map_nil,
      ← List.append_assoc, writeAll_append, Prog.bind_eq, Prog.pure_eq, Prog.bind_assoc,
      Prog.done_bind, hclosing]
    rfl

theorem along_run (rs : List Recorder) (ctx : RequestContext) (handler : Handler) (w : World)
    (ws : List World) :
    (Chain.run (rs.map node) ctx handler).along w ws =
      (onion (rs.filter fun r => onlyFor r.required ctx.capabilities)
        (handler ctx.request ctx.operation)).along w ws := by
  induction rs generalizing w ws with
  | nil =>
    have hinner : ∀ p : Action Reply, onion [] p = p.bind (closing []) := fun _ => rfl
    rw [List.filter_nil, hinner, closing_nil, Prog.bind_done]
    rfl
  | cons r rs ih =>
    have hrun : (Chain.run ((r :: rs).map node) ctx handler).along w ws =
        (if onlyFor r.required ctx.capabilities
          then r.node.intercept ctx (Chain.run (rs.map node) ctx handler)
          else Chain.run (rs.map node) ctx handler).along w ws := rfl
    rw [hrun, List.filter_cons]
    cases happlies : onlyFor r.required ctx.capabilities with
    | false => exact ih w ws
    | true =>
      cases hshort : r.short with
      | true => rw [if_pos rfl, if_pos rfl, intercept_of_short hshort, onion_cons_of_short hshort]
      | false =>
        rw [if_pos rfl, if_pos rfl, intercept_of_not_short hshort, onion_cons_of_not_short hshort]
        simp only [Prog.bind_eq, Prog.along_bind, along_writeAll, ih]

theorem along_onion_of_gate {ns rest : List Recorder} {gate : Recorder}
    (h : ns.dropWhile (!·.short) = gate :: rest) (inner : Action Reply) (w : World)
    (ws : List World) :
    (onion ns inner).along w ws = ⟨.returned gate.refusal,
      w.writeAll ((ns.takeWhile (!·.short)).map before ++ [gate.before, gate.name ++ ":short"] ++
        (ns.takeWhile (!·.short)).reverse.map after), ws, []⟩ := by
  unfold onion
  rw [h]
  simp only [Prog.bind_eq, Prog.pure_eq, Prog.along_bind, along_writeAll, Prog.along_done,
    Course.after_nil]

theorem along_onion {ns : List Recorder} (h : ns.dropWhile (!·.short) = [])
    (inner : Action Reply) (w : World) (ws : List World) :
    (onion ns inner).along w ws =
      (inner.bind (closing (ns.reverse.map after))).along (w.writeAll (ns.map before)) ws := by
  unfold onion
  rw [h]
  simp only [Prog.bind_eq, Prog.along_bind, along_writeAll, Course.after_nil]

theorem applicable_map_node (rs : List Recorder) (w : World) (caps : Capabilities) :
    Chain.applicable (rs.map node) w caps =
      (rs.filter fun r => onlyFor r.required caps).map node := by
  rw [Chain.applicable, List.filter_map]
  rfl

/-- In a chain of recorders those that apply are entered from the outside in. If one of them lets
nothing pass, the outermost such answers with a failure and the handler is not run, whatever it is.
Otherwise it is run once, and its reply is the chain's. Outcomes are written down by all that have
been entered, from the inside out; errors and panics by none. While the handler has given way, that
is what is left to do. -/
theorem runs_as_onion (rs : List Recorder) (ctx : RequestContext) (handler : Handler) (w : World)
    (ws : List World) :
    let ns := rs.filter fun r => onlyFor r.required ctx.capabilities
    let course := (Chain.run (rs.map node) ctx handler).along w ws
    Chain.applicable (rs.map node) w ctx.capabilities = ns.map node ∧
    match ns.dropWhile (!·.short) with
    | gate :: _ =>
      let outer := ns.takeWhile (!·.short)
      course = ⟨.returned (.ok (.fail ("short-circuited by " ++ gate.name))),
        w.writeAll (outer.map before ++ [gate.before, gate.name ++ ":short"] ++
          outer.reverse.map after), ws, []⟩
    | [] =>
      match (handler ctx.request ctx.operation).along (w.writeAll (ns.map before)) ws with
      | ⟨.returned (.ok o), w', ws', tasks⟩ =>
        course = ⟨.returned (.ok o), w'.writeAll (ns.reverse.map after), ws', tasks⟩
      | ⟨.returned (.error e), w', ws', tasks⟩ => course = ⟨.returned (.error e), w', ws', tasks⟩
      | ⟨.panicked e, w', ws', tasks⟩ => course = ⟨.panicked e, w', ws', tasks⟩
      | ⟨.paused ready next, w', ws', tasks⟩ =>
        course = ⟨.paused ready (next.bind (closing (ns.reverse.map after))), w', ws', tasks⟩ := by
  intro ns course
  have hcourse : course = (onion ns (handler ctx.request ctx.operation)).along w ws :=
    along_run rs ctx handler w ws
  refine ⟨applicable_map_node rs w ctx.capabilities, ?_⟩
  rw [hcourse]
  clear_value course ns
  cases hgate : ns.dropWhile (!·.short) with
  | cons gate rest => exact along_onion_of_gate hgate _ w ws
  | nil =>
    rw [along_onion hgate, Prog.along_bind]
    rcases (handler ctx.request ctx.operation).along (w.writeAll (ns.map before)) ws with
      ⟨(e | o) | e | ⟨ready, next⟩, w', ws', tasks⟩
    · show Course.mk _ w' ws' (tasks ++ []) = _
      rw [List.append_nil]
      rfl
    · show ((closing (ns.reverse.map after) (.ok o)).along w' ws').after tasks = _
      simp only [closing, Prog.bind_eq, Prog.pure_eq, Prog.along_bind, along_writeAll,
        Prog.along_done, Course.after_mk, List.append_nil]
    · rfl
    · rfl

/-- The node in the middle would let nothing pass, but it does not apply. -/
theorem skipped_between_recorders :
    let rs := [⟨"a", false, none⟩, ⟨"b", true, some .full⟩, ⟨"c", false, none⟩]
    let handler : Handler := fun _ _ => return .ok (.fail "no")
    (Chain.run (rs.map node) default handler).along .empty [] =
      ⟨.returned (.ok (.fail "no")),
        World.empty.writeAll ["a:before", "c:before", "c:after", "a:after"], [], []⟩ := by
  intro rs handler
  exact (runs_as_onion rs default handler .empty []).2

end Recorder

end Rehearsal

end Mediator
