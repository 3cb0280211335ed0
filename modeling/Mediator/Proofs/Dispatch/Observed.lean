import Mediator.Proofs.Intercept.Invisible

/-!
# Dispatches with observers and without

With observers in its chain a dispatch ends as it does without them, and the nodes and the handler
are entered and left in the same order (`Chain.observers_invisible`). To see the order, nodes and
handler are watched: they write down when they are entered, and how they are left. Only a node that
may drop the rest of the chain on its way can tell, and only if an observer gives way
(`Chain.race_lost_to_audit`).
-/

namespace Mediator

variable {races : Prop} {P : (α : Type) → Action α → Prop}
  {wait : (World → Bool) → Scheduler World → Scheduler World}
  {S : Scheduler World → Scheduler World → Prop}

-- ---------------------------------------------------------------------------
-- Entries and exits
-- ---------------------------------------------------------------------------

def watch (label : String) (p : Action Reply) : Action Reply := do
  Action.write (label ++ ":enter")
  match ← p.attempt with
  | .ok reply => do
    Action.write (label ++ ":" ++ reply.status.text)
    return reply
  | .error e => do
    Action.write (label ++ ":panic")
    .panic e

theorem Ordinary.watch (hP : Ordinary P) (label : String) {p : Action Reply} (h : P Reply p) :
    P Reply (watch label p) := by
  refine hP.bind (hP.write _) fun _ => hP.bind (hP.attempt h) fun r => ?_
  cases r with
  | ok reply => exact hP.bind (hP.write _) fun _ => hP.done reply
  | error e => exact hP.bind (hP.write _) fun _ => hP.panic e

theorem Composes.watch (hP : Ordinary P) (label : String) {F : Action Reply → Action Reply}
    (h : Composes races P F) : Composes races P fun next => watch label (F next) := by
  refine .bind (.own (hP.write _)) fun _ => .bind (.attempt h) fun r => .own ?_
  cases r with
  | ok reply => exact hP.bind (hP.write _) fun _ => hP.done reply
  | error e => exact hP.bind (hP.write _) fun _ => hP.panic e

def Handler.watched (handler : Handler) : Handler :=
  fun request op => watch "handler" (handler request op)

namespace Intercept

def watched (label : String) (node : Intercept) : Intercept :=
  { node with intercept := fun ctx next => watch label (node.intercept ctx next) }

theorem Composed.watched (hP : Ordinary P) {node : Intercept} (h : node.Composed races P)
    (label : String) : (node.watched label).Composed races P :=
  ⟨h.applies, fun ctx => (h.composes ctx).watch hP label⟩

end Intercept

namespace Chain

/-- All nodes but the observers are watched, each under its position. -/
def watched (l : List (Intercept ⊕ Observer)) : List (Intercept ⊕ Observer) :=
  l.mapIdx fun i => Sum.map (Intercept.watched (toString i)) id

variable {l : List (Intercept ⊕ Observer)}

theorem inr_mem_mapIdx {f : Nat → Intercept → Intercept} {o : Observer} :
    .inr o ∈ l.mapIdx (fun i => Sum.map (f i) id) ↔ .inr o ∈ l := by
  induction l generalizing f with
  | nil => rfl
  | cons x l ih =>
    rw [List.mapIdx_cons, List.mem_cons, List.mem_cons, ih]
    cases x <;> simp

theorem Composed.mapIdx {f : Nat → Intercept → Intercept}
    (hf : ∀ i (node : Intercept) races, node.Composed races P → (f i node).Composed races P)
    (h : Composed races P l) : Composed races P (l.mapIdx fun i => Sum.map (f i) id) := by
  induction l generalizing f with
  | nil => trivial
  | cons x l ih =>
    rw [List.mapIdx_cons]
    cases x with
    | inl node =>
      refine ⟨?_, ih (fun i => hf (i + 1)) h.2⟩
      simp only [inr_mem_mapIdx]
      exact hf 0 node _ h.1
    | inr o => exact ih (fun i => hf (i + 1)) h

theorem Composed.watched (hP : Ordinary P) (h : Composed races P l) :
    Composed races P (watched l) := h.mapIdx fun _ _ _ hnode => hnode.watched hP _

end Chain

-- ---------------------------------------------------------------------------
-- Dispatches
-- ---------------------------------------------------------------------------

namespace Dispatcher

variable {ctx : RequestContext}

theorem settle_ordinary (hP : Ordinary P) (ending : Except Panic Reply) :
    P _ (settle ctx ending) := by
  match ending with
  | .ok (.ok outcome) => exact hP.done _
  | .ok (.error e) =>
    unfold settle
    dsimp only
    cases e.classify with
    | ok source => exact hP.report _ _ _
    | error fatal => exact hP.report _ _ _
  | .error payload => exact hP.report _ _ _

/-- Chains that agree are as good as each other, although their plans differ. -/
theorem dispatchWith_agrees (hS : Indifferent S) {c' c : Chain} (provider : Provider) (host : Host)
    (request : Request) (op : Operation)
    (h : ∀ handler, provider.resolve request.type = some handler →
      (c'.run (context request op) handler).Agree wait S (c.run (context request op) handler)) :
    ((⟨provider, c', host⟩ : Dispatcher).dispatchWith request op).Agree wait S
      ((⟨provider, c, host⟩ : Dispatcher).dispatchWith request op) := by
  unfold dispatchWith
  dsimp only
  cases hresolve : provider.resolve request.type with
  | none => exact ((hS.ordinary False).report _ _ _).1
  | some handler =>
    intro q' q hq
    exact (h handler hresolve).attempt.bind
      (fun ending => (settle_ordinary (hS.ordinary False) ending).1) _ _ (hS.emit_emit hq _ _ _ _)

end Dispatcher

-- ---------------------------------------------------------------------------
-- Observers make no difference
-- ---------------------------------------------------------------------------

namespace Chain

variable {l : List (Intercept ⊕ Observer)} {ctx : RequestContext} {handler : Handler}

/-- What the observers of a request do, each of them by itself. -/
def Acts (ctx : RequestContext) (l : List (Intercept ⊕ Observer)) (ds : List (Deed World)) : Prop :=
  ∃ o, .inr o ∈ l ∧ o.Act ctx ds

theorem Acts.cons {x : Intercept ⊕ Observer} {ds : List (Deed World)} (h : Acts ctx l ds) :
    Acts ctx (x :: l) ds := by
  obtain ⟨o, ho, hact⟩ := h
  exact ⟨o, List.mem_cons_of_mem _ ho, hact⟩

theorem inserts (hnodes : Composed races (fun _ _ => True) l)
    (hobservers : ∀ o, .inr o ∈ l → o.Returns) :
    Prog.Inserts (Acts ctx l) ((observed l).run ctx handler) ((plain l).run ctx handler) := by
  refine alike (L := fun l _ => Prog.Inserts (Acts ctx l)) (fun l => ?_) (.mono fun _ => .cons)
    (fun {o l _ _} hreturns hnext => ?_) hnodes hobservers trivial
  · refine Observer.inserts_congruence fun ⟨_, hprompt⟩ block ⟨o, ho, hact⟩ => ?_
    exact hact.not_isWait (hprompt o ho)
  · exact Observer.inserts hreturns (fun hact => ⟨o, List.mem_cons_self, hact⟩)
      (hnext.mono fun _ => .cons)

theorem run_matches (hS : Indifferent S) (hwait : races → Prog.WaitsAlike wait S)
    (hnodes : Composed races (fun _ p => p.Matches races wait S p) l)
    (hobservers : ∀ o, .inr o ∈ l → o.Unseen wait S ctx)
    (hhandler : (handler ctx.request ctx.operation).Matches races wait S
      (handler ctx.request ctx.operation)) :
    ((observed l).run ctx handler).Agree wait S ((plain l).run ctx handler) := by
  let prompt (l : List (Intercept ⊕ Observer)) : Prop := races ∧ ∀ o, .inr o ∈ l → o.Prompt
  have hcons {x l} : prompt (x :: l) → prompt l :=
    fun ⟨hraces, h⟩ => ⟨hraces, fun o ho => h o (List.mem_cons_of_mem _ ho)⟩
  refine (alike (L := fun l _ => Prog.Matches (prompt l) wait S) (fun l => ?_) (.mono hcons)
    (fun hunseen hnext => ?_) hnodes hobservers hhandler).1
  · exact Indifferent.congruence And.left hwait
  · exact hS.matches_entry hunseen (fun ⟨_, h⟩ => h _ List.mem_cons_self) (hnext.mono hcons)

/-- Observers anywhere in a chain make no difference, as long as they do not give way inside of a
node that races. Whatever they all find, chain and dispatch end as they may without the observers,
and all that is done then is done in the same order, with whole acts of observers in between; so are
the entries and exits of nodes and handler. If nobody looks at what the observers leave behind, then
every run ends as it does without them, with the same entries and exits. -/
theorem observers_invisible (races : Prop) (l : List (Intercept ⊕ Observer)) (ctx : RequestContext)
    (handler : Handler) (hnodes : Composed races (fun _ _ => True) l)
    (hobservers : ∀ o, .inr o ∈ l → o.Returns) :
    let settled (c : Chain) := (c.run ctx handler).attempt.bind (Dispatcher.settle ctx)
    Prog.Inserts (Acts ctx l) ((observed l).run ctx handler) ((plain l).run ctx handler) ∧
    Prog.Inserts (Acts ctx l) (settled (observed l)) (settled (plain l)) ∧
    Prog.Inserts (Acts ctx l) ((observed (watched l)).run ctx handler.watched)
      ((plain (watched l)).run ctx handler.watched) ∧
    ∀ wait S, Indifferent S → (races → Prog.WaitsAlike wait S) →
      Composed races (fun _ p => p.Matches races wait S p) l →
      (∀ o, .inr o ∈ l → o.Unseen wait S ctx) →
      (handler ctx.request ctx.operation).Matches races wait S
        (handler ctx.request ctx.operation) →
      ((observed l).run ctx handler).Agree wait S ((plain l).run ctx handler) ∧
      (∀ provider host request op, ctx = Dispatcher.context request op →
        (∀ h, provider.resolve request.type = some h → h = handler) →
        ((⟨provider, observed l, host⟩ : Dispatcher).dispatchWith request op).Agree wait S
          ((⟨provider, plain l, host⟩ : Dispatcher).dispatchWith request op)) ∧
      ((observed (watched l)).run ctx handler.watched).Agree wait S
        ((plain (watched l)).run ctx handler.watched) ∧
      ∀ q' q, S q' q → (((observed (watched l)).run ctx handler.watched).run wait q').2.state.log =
        (((plain (watched l)).run ctx handler.watched).run wait q).2.state.log := by
  intro settled
  have hwatched : Prog.Inserts (Acts ctx (watched l))
      ((observed (watched l)).run ctx handler.watched)
      ((plain (watched l)).run ctx handler.watched) :=
    inserts (hnodes.watched ordinary_true) fun o ho => hobservers o (inr_mem_mapIdx.mp ho)
  refine ⟨inserts hnodes hobservers, (inserts hnodes hobservers).attempt.bind fun _ => .refl _,
    hwatched.mono fun _ ⟨o, ho, hact⟩ => ⟨o, inr_mem_mapIdx.mp ho, hact⟩,
    fun wait S hS hwait hmatches hunseen hhandler => ?_⟩
  have hchain := run_matches hS hwait hmatches hunseen hhandler
  have hwatched : ((observed (watched l)).run ctx handler.watched).Agree wait S
      ((plain (watched l)).run ctx handler.watched) :=
    run_matches hS hwait (hmatches.watched (hS.ordinary races))
      (fun o ho => hunseen o (inr_mem_mapIdx.mp ho))
      ((hS.ordinary races).watch "handler" hhandler)
  refine ⟨hchain, ?_, hwatched, fun q' q hq => hS.log (hwatched q' q hq).2⟩
  rintro provider host request op rfl hresolve
  refine Dispatcher.dispatchWith_agrees hS provider host request op fun h hh => ?_
  rw [hresolve h hh]
  exact hchain

open Rehearsal (SinkChoice repeating) in
/-- A request that has been canceled is given up twice by a node that races: inside of an observer
that gives way, and outside of two that do not. -/
theorem repeated_unobserved :
    let slow : AuditSink := ⟨fun op r => Prog.turn.bind fun _ => AuditSink.recording.record op r⟩
    let request : Request := .plain ⟨⟨0⟩, "Transfer", .full, default⟩ .null
    let op : Operation := .anonymous .development ⟨0⟩
    let handler : Handler := fun _ _ => Prog.turn.bind fun _ => .done (.ok (.fail "no"))
    let l : List (Intercept ⊕ Observer) :=
      [.inl .recover, .inr (.audit slow), .inl (.conditional 0 (repeating 2 false none)),
        .inl .racing, .inr (.audit SinkChoice.recording.audit),
        .inr (.performance SinkChoice.tracing.telemetry (some (.ofSecs 0)))]
    let ctx := Dispatcher.context request op
    let d (c : Chain) : Dispatcher := ⟨⟨fun _ => some handler, fun _ => []⟩, c, .development⟩
    let q : Scheduler World := .start (World.empty.cancel op.token)
    (((d (observed l)).dispatchWith request op).run Scheduler.alone q).1 =
        (((d (plain l)).dispatchWith request op).run Scheduler.alone q).1 ∧
      (((observed (watched l)).run ctx handler.watched).run Scheduler.alone q).2.state.log =
        (((plain (watched l)).run ctx handler.watched).run Scheduler.alone q).2.state.log := by
  intro slow request op handler l ctx d q
  have hnodes {P : (α : Type) → Action α → Prop} (hP : Ordinary P)
      (hlook : ∀ f : World → Bool, (∀ w, f w = f w.bare) → P Bool (.get fun w => .done (f w))) :
      Composed True P l := by
    refine ⟨Intercept.recover_composed hP, Intercept.conditional_composed
      (Rehearsal.repeating_composed hP 2 false none) (hlook _ fun _ => rfl) fun _ =>
        hlook _ fun _ => rfl, Intercept.racing_composed hP ⟨trivial, ?_⟩ fun _ =>
          hlook _ fun _ => rfl, trivial⟩
    rintro o ho
    simp only [List.mem_cons, Sum.inr.injEq, List.not_mem_nil, or_false] at ho
    obtain rfl | rfl := ho
    · exact SinkChoice.audit_prompt _
    · trivial
  have hobservers {p : Observer → Prop} (h : p (.audit slow))
      (h' : p (.audit SinkChoice.recording.audit))
      (h'' : p (.performance SinkChoice.tracing.telemetry (some (.ofSecs 0)))) :
      ∀ o, .inr o ∈ l → p o := by
    intro o ho
    simp only [l, List.mem_cons, Sum.inr.injEq, List.not_mem_nil, or_false, reduceCtorEq,
      false_or] at ho
    obtain rfl | rfl | rfl := ho
    · exact h
    · exact h'
    · exact h''
  have hwait : Prog.WaitsAlike Scheduler.alone RecordsApart := fun _ _ _ _ _ hq => hq
  have hunseen : (Observer.audit SinkChoice.recording.audit).Unseen Scheduler.alone RecordsApart
      ctx := SinkChoice.audit_unseen _
  -- Nothing happens in the turn that the sink takes.
  have hslow : (Observer.audit slow).Unseen Scheduler.alone RecordsApart ctx := hunseen
  obtain ⟨-, -, -, hruns⟩ := observers_invisible True l ctx handler
    (hnodes ordinary_true fun _ _ => trivial)
    (hobservers (fun _ _ _ => trivial) (SinkChoice.audit_returns _)
      (SinkChoice.performance_returns _ _))
  obtain ⟨-, hdispatch, -, hlog⟩ := hruns Scheduler.alone RecordsApart indifferent_recordsApart
    (fun _ => hwait)
    (hnodes (indifferent_recordsApart.ordinary True) fun _ => matches_look_recordsApart)
    (hobservers hslow hunseen (SinkChoice.performance_unseen _ _))
    ((Prog.matches_turn hwait).bind fun _ => Prog.matches_done _)
  have hresolve : ∀ h, some handler = some h → h = handler := fun h hh => (Option.some.inj hh).symm
  have hstart : RecordsApart q q := recordsApart_start _
  exact ⟨(hdispatch _ .development request op rfl hresolve q q hstart).1, hlog q q hstart⟩

/-- Where a node races, an observer that gives way may tell: that is when the node finds that the
request has been canceled, and without the observer nothing gives way. -/
theorem race_lost_to_audit :
    let sink : AuditSink := ⟨fun _ _ => Prog.turn⟩
    let l : List (Intercept ⊕ Observer) := [.inl .racing, .inr (.audit sink)]
    let request : Request := .plain ⟨⟨0⟩, "Transfer", .full, .unit⟩ .null
    let op : Operation := .anonymous .development ⟨0⟩
    let ctx := Dispatcher.context request op
    let handler : Handler := fun _ _ => .done (.ok (.success .unit))
    let d (c : Chain) : Dispatcher := ⟨⟨fun _ => some handler, fun _ => []⟩, c, .development⟩
    let q : Scheduler World := .start (World.empty.cancel op.token)
    (∀ o, .inr o ∈ l → o.Returns) ∧
      (((plain l).run ctx handler).run Scheduler.alone q).1 =
        .returned (.ok (.success .unit)) ∧
      (((observed l).run ctx handler).run Scheduler.alone q).1 = .returned (.error .canceled) ∧
      (((d (plain l)).dispatchWith request op).run Scheduler.alone q).1 =
        .returned (.ok (.success .unit)) ∧
      (((d (observed l)).dispatchWith request op).run Scheduler.alone q).1 =
        .returned (.error ⟨.canceled, .canceled⟩) := by
  intro sink l request op ctx handler d q
  refine ⟨fun o ho => ?_, rfl, rfl, rfl, rfl⟩
  simp only [l, List.mem_cons, Sum.inr.injEq, List.not_mem_nil, or_false, reduceCtorEq,
    false_or] at ho
  subst ho
  exact fun _ _ => trivial

end Chain

end Mediator
