import Mediator.Intercept.Caching
import Mediator.Intercept.Conditional
import Mediator.Intercept.Gate
import Mediator.Intercept.Recover
import Mediator.Proofs.Prog.Run
import Mediator.Rehearsal.Node

/-!
# Nodes composed around the rest of the chain

A node may pass a request on, look at the reply or put another in its place, let nothing pass, or
run the rest of the chain many times. What these have in common is that the rest is run as a whole,
and all that is known of it is what it returns or panics with. A node that races may also drop the
rest once a flag is raised. In either case the node is composed of programs of its own and of the
rest (`Composes`), and it does the like with rests that are alike, in any sense of the word that is
a congruence (`Composes.alike`).
-/

namespace Mediator

variable {α β : Type} {races : Prop} {P : (α : Type) → Action α → Prop}
  {L : (α : Type) → Action α → Action α → Prop}

/-- The program is composed of programs in `P` and of the rest of the chain, which it may drop on
its way only if it `races`. -/
inductive Composes (races : Prop) (P : (α : Type) → Action α → Prop) :
    {α : Type} → (Action Reply → Action α) → Prop
  | own {α : Type} {p : Action α} (h : P α p) : Composes races P fun _ => p
  | rest : Composes races P fun next => next
  | bind {α β : Type} {F : Action Reply → Action α} {G : α → Action Reply → Action β}
      (hF : Composes races P F) (hG : ∀ a, Composes races P (G a)) :
      Composes races P fun next => (F next).bind (G · next)
  | attempt {α : Type} {F : Action Reply → Action α} (hF : Composes races P F) :
      Composes races P fun next => (F next).attempt
  | guard {α : Type} {F : Action Reply → Action α} {flag : World → Bool} (h : races)
      (hflag : P Bool (.get fun w => .done (flag w))) (hF : Composes races P F) :
      Composes races P fun next => (F next).guard flag

/-- Being alike is kept by composition, and holds of programs in `P` anyhow. -/
structure Congruence (races : Prop) (P : (α : Type) → Action α → Prop)
    (L : (α : Type) → Action α → Action α → Prop) : Prop where
  own {α : Type} {p : Action α} (h : P α p) : L α p p
  bind {α β : Type} {p' p : Action α} {f' f : α → Action β} (h : L α p' p)
    (hf : ∀ a, L β (f' a) (f a)) : L β (p'.bind f') (p.bind f)
  attempt {α : Type} {p' p : Action α} (h : L α p' p) : L (Except Panic α) p'.attempt p.attempt
  guard {α : Type} {p' p : Action α} {flag : World → Bool} (hraces : races)
    (hflag : P Bool (.get fun w => .done (flag w))) (h : L α p' p) :
    L (Option α) (p'.guard flag) (p.guard flag)

theorem Composes.alike (hL : Congruence races P L) {F : Action Reply → Action α}
    (hF : Composes races P F) {next' next : Action Reply} (h : L Reply next' next) :
    L α (F next') (F next) := by
  induction hF with
  | own hp => exact hL.own hp
  | rest => exact h
  | bind _ _ ihF ihG => exact hL.bind ihF ihG
  | attempt _ ih => exact hL.attempt ih
  | guard hraces hflag _ ih => exact hL.guard hraces hflag ih

/-- Where the node takes part is decided by a program in `P`, too. -/
structure Intercept.Composed (races : Prop) (P : (α : Type) → Action α → Prop)
    (node : Intercept) : Prop where
  applies (caps : Capabilities) : P Bool (.get fun w => .done (node.appliesTo w caps))
  composes (ctx : RequestContext) : Composes races P (node.intercept ctx)

-- ---------------------------------------------------------------------------
-- Composed nodes
-- ---------------------------------------------------------------------------

structure Ordinary (P : (α : Type) → Action α → Prop) : Prop where
  done {α : Type} (a : α) : P α (.done a)
  panic {α : Type} (e : Panic) : P α (.panic e)
  blank {α : Type} {p : Action α} (h : P α p) : P α (.get fun _ => p)
  bind {α β : Type} {p : Action α} {f : α → Action β} (h : P α p) (hf : ∀ a, P β (f a)) :
    P β (p.bind f)
  attempt {α : Type} {p : Action α} (h : P α p) : P (Except Panic α) p.attempt
  emit (spans : List Span) (e : Event) : P Unit (.emit spans e)
  write (line : String) : P Unit (.write line)

theorem ordinary_true : Ordinary fun _ _ => True :=
  ⟨fun _ => trivial, fun _ => trivial, fun _ => trivial, fun _ _ => trivial, fun _ => trivial,
    fun _ _ => trivial, fun _ => trivial⟩

theorem Ordinary.report (hP : Ordinary P) (spans : List Span) (e : Event) (a : α) :
    P α ((Action.emit spans e).bind fun _ => .done a) :=
  hP.bind (hP.emit spans e) fun _ => hP.done a

namespace Intercept

theorem recover_composed (hP : Ordinary P) : recover.Composed races P where
  applies _ := hP.blank (hP.done true)
  composes ctx := by
    refine .bind (.attempt .rest) fun r => .own ?_
    match r with
    | .ok (.ok o) => exact hP.done _
    | .ok (.error e) =>
      dsimp only
      cases e.classify with
      | ok source => exact hP.report _ _ _
      | error fatal => exact hP.done _
    | .error payload => exact hP.report _ _ _

theorem validation_composed (hP : Ordinary P) {v : Validator}
    (hv : ∀ request, P (Outcome Unit) (v.validate request)) : (validation v).Composed races P where
  applies _ := hP.blank (hP.done true)
  composes ctx := by
    refine .bind (.own (hv ctx.request)) fun o => ?_
    cases o with
    | success _ => exact .rest
    | failure e => exact .own (hP.report _ _ _)

theorem authorization_composed (hP : Ordinary P) {a : Evaluator}
    (ha : ∀ resource op, P (Outcome Unit) (a.evaluate resource op)) :
    (authorization a).Composed races P where
  applies _ := hP.blank (hP.done _)
  composes ctx := by
    refine .bind (.own (ha _ _)) fun o => ?_
    cases o with
    | success _ => exact .rest
    | failure e => exact .own (hP.report _ _ _)

theorem runAndStore_composes (hP : Ordinary P) {cache : ResponseCache} {expiration : Duration}
    (hset : ∀ key value d, P Unit (cache.set key value d)) (ctx : RequestContext) (key : String) :
    Composes races P (runAndStore cache expiration ctx key) := by
  refine .bind .rest fun reply => .own ?_
  match reply with
  | .ok (.success value) =>
    exact hP.bind (hset _ _ _) fun _ => hP.report _ _ _
  | .ok (.failure e) => exact hP.done _
  | .error e => exact hP.done _

theorem caching_composed (hP : Ordinary P) {cache : ResponseCache} {expiration : Duration}
    (hget : ∀ key, P (Option Value) (cache.get key))
    (hset : ∀ key value d, P Unit (cache.set key value d)) :
    (caching cache expiration).Composed races P where
  applies _ := hP.blank (hP.done _)
  composes ctx := by
    unfold caching
    dsimp only
    cases ctx.request.cacheKey with
    | none => exact .rest
    | some ownKey =>
      refine .bind (.own (hget _)) fun found => ?_
      cases found with
      | none => exact runAndStore_composes hP hset ctx _
      | some value =>
        dsimp only
        split
        · exact .own (hP.report _ _ _)
        · exact .bind (.own (hP.emit _ _)) fun _ => runAndStore_composes hP hset ctx _

theorem conditional_composed {switch : Nat} {inner : Intercept} (h : inner.Composed races P)
    (hswitch : P Bool (.get fun w => .done (w.switches switch)))
    (happlies : ∀ caps,
      P Bool (.get fun w => .done ((conditional switch inner).appliesTo w caps))) :
    (conditional switch inner).Composed races P where
  applies := happlies
  composes ctx := by
    refine .bind (G := fun on next => if on then inner.intercept ctx next else next)
      (.own hswitch) fun on => ?_
    cases on with
    | true => exact h.composes ctx
    | false => exact .rest

/-- Drops the rest of the chain if the operation has been canceled when that gives way. -/
def racing : Intercept where
  name := "racing"
  appliesTo _ _ := true
  intercept ctx next := do
    let reply? ← Action.guarded ctx.operation.token next
    return reply?.getD (.error .canceled)

theorem racing_composed (hP : Ordinary P) (hraces : races)
    (hcanceled : ∀ t, P Bool (.get fun w => .done (w.canceled t))) : racing.Composed races P where
  applies _ := hP.blank (hP.done true)
  composes _ := .bind (.guard hraces (hcanceled _) .rest) fun _ => .own (hP.done _)

end Intercept

namespace Rehearsal

theorem recording_composed (hP : Ordinary P) (name : String) (short : Bool)
    (required : Option Capabilities) : (recording name short required).Composed races P where
  applies _ := hP.blank (hP.done _)
  composes ctx := by
    refine .bind (.own (hP.write _)) fun _ => ?_
    cases short with
    | true => exact .own (hP.bind (hP.write _) fun _ => hP.done _)
    | false =>
      refine .bind .rest fun reply => .own ?_
      cases reply with
      | ok o => exact hP.bind (hP.write _) fun _ => hP.done _
      | error e => exact hP.done _

theorem runTimes_composes (hP : Ordinary P) (untilSuccess : Bool) (times : Nat) (last : Reply) :
    Composes races P fun next => runTimes untilSuccess next times last := by
  induction times generalizing last with
  | zero => exact .own (hP.done last)
  | succ n ih =>
    refine .bind .rest fun reply => ?_
    match reply with
    | .ok (.success _) =>
      cases untilSuccess with
      | true => exact .own (hP.done _)
      | false => exact ih _
    | .ok (.failure _) => exact ih _
    | .error _ => exact ih _

theorem repeating_composed (hP : Ordinary P) (times : Nat) (untilSuccess : Bool)
    (required : Option Capabilities) :
    (repeating times untilSuccess required).Composed races P where
  applies _ := hP.blank (hP.done _)
  composes _ := runTimes_composes hP untilSuccess times _

theorem replacing_composed (hP : Ordinary P) (e : MediatorError) (required : Option Capabilities) :
    (replacing e required).Composed races P where
  applies _ := hP.blank (hP.done _)
  composes _ := by
    refine .bind .rest fun reply => .own ?_
    cases reply with
    | ok o => exact hP.bind (hP.write _) fun _ => hP.done _
    | error e => exact hP.done _

theorem faulty_composed (hP : Ordinary P) (mishap : Mishap) (after : Bool)
    (required : Option Capabilities) : (faulty mishap after required).Composed races P where
  applies _ := hP.blank (hP.done _)
  composes _ := by
    have hmishap : P Reply mishap.action := by
      cases mishap with
      | error e => exact hP.done _
      | panic e => exact hP.panic e
    cases after with
    | false => exact .own hmishap
    | true =>
      refine .bind .rest fun reply => .own ?_
      cases reply with
      | ok o => exact hmishap
      | error e => exact hP.done _

theorem showing_composed {required : Option Capabilities}
    (happlies : ∀ caps, P Bool (.get fun _ => .done (onlyFor required caps)))
    (hshow : ∀ ctx : RequestContext,
      P Unit (.modify fun w => w.write (contextLine ctx (w.canceled ctx.operation.token)))) :
    (showing required).Composed races P where
  applies := happlies
  composes ctx := .bind (.own (hshow ctx)) fun _ => .rest

/-- No intercept of rehearsals has to race. -/
theorem NodeKind.composed (kind : NodeKind) (vs : Validators) (i : Nat) :
    (kind.intercept vs i).Composed races fun _ _ => True := by
  cases kind with
  | validation v => exact Intercept.validation_composed ordinary_true fun _ => trivial
  | audit sink => exact ⟨fun _ => trivial, fun _ => .bind .rest fun _ => .own trivial⟩
  | authorization e => exact Intercept.authorization_composed ordinary_true fun _ _ => trivial
  | performance sink threshold =>
    exact ⟨fun _ => trivial,
      fun _ => .bind (.own (p := .read) trivial) fun _ => .bind .rest fun _ => .own trivial⟩
  | caching expiration =>
    exact Intercept.caching_composed ordinary_true (fun _ => trivial) fun _ _ _ => trivial
  | recover => exact Intercept.recover_composed ordinary_true
  | recording name short required => exact recording_composed ordinary_true name short required
  | repeating times untilSuccess required =>
    exact repeating_composed ordinary_true times untilSuccess required
  | replacing e required => exact replacing_composed ordinary_true e required
  | faulty mishap after required => exact faulty_composed ordinary_true mishap after required
  | showing required => exact showing_composed (fun _ => trivial) fun _ => trivial

end Rehearsal

end Mediator
