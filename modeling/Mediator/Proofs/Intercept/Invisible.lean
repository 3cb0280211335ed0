import Mediator.Dispatch
import Mediator.Proofs.Intercept.Composed
import Mediator.Proofs.Intercept.Observers
import Mediator.Proofs.Prog.Abreast
import Mediator.Proofs.Prog.Deeds

/-!
# Observers are invisible

Observing nodes may stand anywhere in a chain of nodes that are composed around the rest of it.
Whatever the others do, and whatever it ends in, they do and end in without the observers: the deeds
of the observers stand in between, and that is all (`Prog.Inserts`). If the others do not look at
what the observers leave behind, then no run can be told from one without observers
(`Prog.Matches`). Both are congruences, so that both follow by one induction on the chain
(`Chain.alike`). Where a node may drop the rest of the chain on its way, no observer may give way:
that would be a chance to drop it.
-/

namespace Mediator

-- ---------------------------------------------------------------------------
-- Observers in a chain
-- ---------------------------------------------------------------------------

inductive Observer where
  | audit (sink : AuditSink)
  | performance (sink : TelemetrySink) (threshold : Option Duration)

namespace Observer

def node : Observer → Intercept
  | .audit sink => .audit sink
  | .performance sink threshold => .performance sink threshold

/-- Whatever it finds, its sink returns normally. -/
def Returns : Observer → Prop
  | .audit sink => ∀ op r, (sink.record op r).EndsIn (fun _ => False) fun _ => True
  | .performance sink _ => sink.Sound

/-- Its sink never gives way. -/
def Prompt : Observer → Prop
  | .audit sink => ∀ op r, (sink.record op r).Prompt
  | .performance _ _ => True

end Observer

namespace Chain

def observed (l : List (Intercept ⊕ Observer)) : Chain := l.map (Sum.elim id Observer.node)

def plain (l : List (Intercept ⊕ Observer)) : Chain := l.filterMap Sum.getLeft?

/-- The nodes are composed around what is inside of them. If any `races` at all, one does so only
where no observer inside of it gives way. -/
def Composed (races : Prop) (P : (α : Type) → Action α → Prop) :
    List (Intercept ⊕ Observer) → Prop
  | [] => True
  | .inl node :: l => node.Composed (races ∧ ∀ o, .inr o ∈ l → o.Prompt) P ∧ Composed races P l
  | .inr _ :: l => Composed races P l

variable {races : Prop} {P : (α : Type) → Action α → Prop}
  {L : List (Intercept ⊕ Observer) → (α : Type) → Action α → Action α → Prop}
  {l : List (Intercept ⊕ Observer)} {ctx : RequestContext} {handler : Handler}

theorem run_cons (node : Intercept) (rest : Chain) :
    Chain.run (node :: rest) ctx handler =
      (Prog.get fun w => .done (node.appliesTo w ctx.capabilities)).bind fun on =>
        if on then node.intercept ctx (rest.run ctx handler) else rest.run ctx handler := rfl

/-- The induction on the chain: if an observer before the rest of a chain makes no difference, nor
do any number of observers in a chain. What counts as a difference depends on which observers there
are in the rest of the chain. -/
theorem alike {p : Observer → Prop}
    (hL : ∀ l, Congruence (races ∧ ∀ o, .inr o ∈ l → o.Prompt) P (L l))
    (hnode : ∀ {node l next' next}, L l Reply next' next → L (.inl node :: l) Reply next' next)
    (hobserver : ∀ {o l next' next}, p o → L l Reply next' next →
      L (.inr o :: l) Reply (entry o.node ctx next') next)
    (hnodes : Composed races P l) (hobservers : ∀ o, .inr o ∈ l → p o)
    (hhandler : P Reply (handler ctx.request ctx.operation)) :
    L l Reply ((observed l).run ctx handler) ((plain l).run ctx handler) := by
  induction l with
  | nil => exact (hL []).own hhandler
  | cons x l ih =>
    have hobservers' o (ho : .inr o ∈ l) := hobservers o (List.mem_cons_of_mem _ ho)
    cases x with
    | inr o => exact hobserver (hobservers o List.mem_cons_self) (ih hnodes hobservers')
    | inl node =>
      obtain ⟨⟨happlies, hcomposes⟩, hnodes⟩ := hnodes
      have ih := ih hnodes hobservers'
      refine hnode ?_
      show L l Reply (Chain.run (node :: observed l) ctx handler)
        (Chain.run (node :: plain l) ctx handler)
      rw [run_cons, run_cons]
      refine (hL l).bind ((hL l).own (happlies ctx.capabilities)) fun on => ?_
      cases on with
      | true => exact (hcomposes ctx).alike (hL l) ih
      | false => exact ih

end Chain

-- ---------------------------------------------------------------------------
-- What observers do
-- ---------------------------------------------------------------------------

namespace Observer

open Intercept (sampling auditRecord)

/-- What the observer of a request does: it looks at the world, and it tells its sink. -/
inductive Act (ctx : RequestContext) : Observer → List (Deed World) → Prop
  | look {o : Observer} {w : World} : Act ctx o [.found w]
  | record {sink : AuditSink} {status : Status} {ds : List (Deed World)}
      (h : (sink.record ctx.operation (auditRecord ctx status)).Does ds (.ok ())) :
      Act ctx (.audit sink) ds
  | sample {sink : TelemetrySink} {threshold : Option Duration} {started : Instant} {reply : Reply}
      {ds : List (Deed World)}
      (h : (sampling sink threshold ctx started reply).Does ds (.ok reply)) :
      Act ctx (.performance sink threshold) ds

variable {races : Prop} {acts : List (Deed World) → Prop} {ctx : RequestContext}
  {next' next : Action Reply}

theorem inserts_congruence (hacts : races → ∀ block, acts block → ∀ d ∈ block, ¬ d.IsWait) :
    Congruence races (fun _ _ => True) fun _ => Prog.Inserts acts :=
  ⟨fun _ => .refl _, .bind, .attempt, fun hraces _ h => h.guard (hacts hraces) _⟩

theorem prompt_sampling (sink : TelemetrySink) (threshold : Option Duration) (ctx : RequestContext)
    (started : Instant) (reply : Reply) : (sampling sink threshold ctx started reply).Prompt := by
  refine fun w => (Prog.prompt_call _).bind fun _ => ?_
  cases threshold with
  | none => trivial
  | some d =>
    dsimp only
    split
    · exact fun _ => trivial
    · trivial

theorem Act.not_isWait {o : Observer} {ds : List (Deed World)} (h : o.Act ctx ds)
    (hprompt : o.Prompt) : ∀ d ∈ ds, ¬ d.IsWait := by
  cases h with
  | look => exact List.forall_mem_cons.mpr ⟨id, nofun⟩
  | record h => exact (hprompt _ _).not_isWait h
  | sample h => exact (prompt_sampling _ _ _ _ _).not_isWait h

theorem endsIn_sampling {sink : TelemetrySink} (h : sink.Sound) (threshold : Option Duration)
    (ctx : RequestContext) (started : Instant) (reply : Reply) :
    (sampling sink threshold ctx started reply).EndsIn (fun _ => False) (· = reply) := by
  have hrecord : (Prog.call (sink.record ctx.operation ⟨ctx.name, reply.status⟩)).EndsIn
      (fun _ => False) fun _ => True :=
    Prog.endsIn_call (fun s e he => by rw [h] at he; cases he) fun _ _ _ => trivial
  refine fun w => hrecord.bind fun _ _ => ?_
  cases threshold with
  | none => rfl
  | some d =>
    dsimp only
    split
    · exact fun _ => rfl
    · rfl

theorem inserts {o : Observer} (h : o.Returns) (hacts : ∀ {ds}, o.Act ctx ds → acts ds)
    (hnext : Prog.Inserts acts next' next) :
    Prog.Inserts acts (Chain.entry o.node ctx next') next := by
  refine .look (fun w => hacts .look) fun w => ?_
  split
  · rw [← next.bind_done]
    cases o with
    | audit sink =>
      refine hnext.bind fun reply => .act fun hdoes => ?_
      obtain ⟨_, ds, _, hrecord, hdone, rfl⟩ | ⟨e, he, -⟩ := Prog.does_bind hdoes
      · obtain ⟨rfl, rfl⟩ := Prog.does_done_iff.mp hdone
        rw [List.append_nil]
        exact ⟨rfl, hacts (.record hrecord)⟩
      · obtain ⟨_, hok, -⟩ | ⟨_, -, hfalse⟩ := (h _ _).does he
        · cases hok
        · exact hfalse.elim
    | performance sink threshold =>
      refine .look (fun w => hacts .look) fun w => hnext.bind fun reply => .act fun hdoes => ?_
      obtain ⟨_, rfl, rfl⟩ | ⟨_, -, hfalse⟩ := (endsIn_sampling h threshold ctx _ _).does hdoes
      · exact ⟨rfl, hacts (.sample hdoes)⟩
      · exact hfalse.elim
  · exact hnext

-- ---------------------------------------------------------------------------
-- What observers leave behind
-- ---------------------------------------------------------------------------

variable {wait : (World → Bool) → Scheduler World → Scheduler World}
  {S : Scheduler World → Scheduler World → Prop}

/-- Its sink returns normally, and changes nothing but what `S` leaves open. -/
def Unseen (wait : (World → Bool) → Scheduler World → Scheduler World)
    (S : Scheduler World → Scheduler World → Prop) (ctx : RequestContext) : Observer → Prop
  | .audit sink => ∀ r q' q, S q' q → ∃ t,
      (sink.record ctx.operation r).run wait q' = (.returned (), t) ∧ S t q
  | .performance sink _ => ∀ s q' q, S q' q → ∃ w,
      sink.record ctx.operation s q'.state = (.ok (), w) ∧ S (q'.put w) q

end Observer

/-- What `S` leaves open is nothing that matters. The trace is left open, the log is not. -/
structure Indifferent (S : Scheduler World → Scheduler World → Prop) : Prop where
  symm {q' q : Scheduler World} (h : S q' q) : S q q'
  emit {q' q : Scheduler World} (h : S q' q) (spans : List Span) (e : Event) :
    S (q'.put (q'.state.emit spans e)) q
  write {q' q : Scheduler World} (h : S q' q) (line : String) :
    S (q'.put (q'.state.write line)) (q.put (q.state.write line))
  log {q' q : Scheduler World} (h : S q' q) : q'.state.log = q.state.log

namespace Indifferent

variable {races : Prop} {wait : (World → Bool) → Scheduler World → Scheduler World}
  {S : Scheduler World → Scheduler World → Prop} {ctx : RequestContext} {next' next : Action Reply}

theorem emit_emit (hS : Indifferent S) {q' q : Scheduler World} (h : S q' q)
    (spans' spans : List Span) (e' e : Event) :
    S (q'.put (q'.state.emit spans' e')) (q.put (q.state.emit spans e)) :=
  hS.emit (hS.symm (hS.emit (hS.symm h) spans e)) spans' e'

theorem ordinary (hS : Indifferent S) (races : Prop) :
    Ordinary fun _ p => p.Matches races wait S p where
  done := Prog.matches_done
  panic := Prog.matches_panic
  blank h := .look fun _ _ _ => h
  bind := .bind
  attempt := .attempt
  emit spans e := Prog.matches_modify fun _ _ hq => hS.emit_emit hq spans spans e e
  write line := Prog.matches_modify fun _ _ hq => hS.write hq line

theorem congruence {races' : Prop} (hraces : races' → races)
    (hwait : races → Prog.WaitsAlike wait S) :
    Congruence races' (fun _ p => p.Matches races wait S p) fun _ => Prog.Matches races' wait S :=
  ⟨.mono hraces, .bind, .attempt,
    fun hraces' hflag h => h.guard hraces' (hwait (hraces hraces')) hflag.1⟩

theorem record_agrees {sink : AuditSink} (h : (Observer.audit sink).Unseen wait S ctx)
    (record : AuditRecord) (reply : Reply) :
    ((sink.record ctx.operation record).bind fun _ => .done reply).Agree wait S (.done reply) :=
  Prog.agree_aside (fun q' q hq => ⟨(), h record q' q hq⟩) fun _ => Prog.agree_done reply

theorem sampling_agrees (hS : Indifferent S) {sink : TelemetrySink} {threshold : Option Duration}
    (h : (Observer.performance sink threshold).Unseen wait S ctx) (started : Instant)
    (reply : Reply) :
    (Intercept.sampling sink threshold ctx started reply).Agree wait S (.done reply) := by
  refine Prog.agree_look fun w => ?_
  show Prog.Agree wait S
    ((Prog.call (sink.record ctx.operation ⟨ctx.name, reply.status⟩)).bind _) _
  refine Prog.agree_aside (fun q' q hq => ?_) fun _ => ?_
  · obtain ⟨w, hrecord, hw⟩ := h ⟨ctx.name, reply.status⟩ q' q hq
    exact ⟨(), q'.put w, by simp [Prog.call, hrecord, Prog.run], hw⟩
  · cases threshold with
    | none => exact Prog.agree_done reply
    | some d =>
      dsimp only
      split
      · exact Prog.agree_aside (fun _ _ hq => ⟨(), _, rfl, hS.emit hq _ _⟩) fun _ =>
          Prog.agree_done reply
      · exact Prog.agree_done reply

theorem matches_entry (hS : Indifferent S) {o : Observer} (h : o.Unseen wait S ctx)
    (hprompt : races → o.Prompt) (hnext : next'.Matches races wait S next) :
    (Chain.entry o.node ctx next').Matches races wait S next := by
  refine Prog.matches_look fun w => ?_
  split
  · rw [← next.bind_done]
    cases o with
    | audit sink =>
      exact hnext.bind fun reply => (record_agrees h _ reply).matches fun hraces =>
        (hprompt hraces _ _).bind fun _ => trivial
    | performance sink threshold =>
      exact Prog.matches_look fun w => hnext.bind fun reply =>
        (hS.sampling_agrees h w.now reply).matches fun _ => Observer.prompt_sampling _ _ _ _ _
  · exact hnext

end Indifferent

-- ---------------------------------------------------------------------------
-- Records
-- ---------------------------------------------------------------------------

/-- The world without what is reported and recorded of it. -/
def World.bare (w : World) : World := { w with trace := [], audits := [], samples := [] }

@[simp] theorem World.bare_emit (w : World) (spans : List Span) (e : Event) :
    (w.emit spans e).bare = w.bare := by
  rw [emit_eq]
  rfl

def RecordsApart (q' q : Scheduler World) : Prop :=
  ∃ w' w, q' = .start w' ∧ q = .start w ∧ w'.bare = w.bare

theorem recordsApart_start (w : World) : RecordsApart (.start w) (.start w) := ⟨w, w, rfl, rfl, rfl⟩

theorem matches_look_recordsApart {races : Prop}
    {wait : (World → Bool) → Scheduler World → Scheduler World} {α : Type} {f : World → α}
    (hf : ∀ w, f w = f w.bare) :
    Prog.Matches races wait RecordsApart (.get fun w => .done (f w))
      (.get fun w => .done (f w)) := by
  refine .look ?_
  rintro _ _ ⟨w', w, rfl, rfl, h⟩
  have hlook : f w' = f w := by rw [hf w', h, ← hf w]
  exact hlook ▸ Prog.matches_done _

theorem indifferent_recordsApart : Indifferent RecordsApart where
  symm := by
    rintro _ _ ⟨w', w, rfl, rfl, h⟩
    exact ⟨w, w', rfl, rfl, h.symm⟩
  emit := by
    rintro _ _ ⟨w', w, rfl, rfl, h⟩ spans e
    exact ⟨w'.emit spans e, w, rfl, rfl, by rw [World.bare_emit, h]⟩
  write := by
    rintro _ _ ⟨w', w, rfl, rfl, h⟩ line
    exact ⟨w'.write line, w.write line, rfl, rfl, congrArg (World.write · line) h⟩
  log := by
    rintro _ _ ⟨w', w, rfl, rfl, h⟩
    show w'.bare.log = w.bare.log
    rw [h]

namespace Rehearsal.SinkChoice

variable {wait : (World → Bool) → Scheduler World → Scheduler World} {ctx : RequestContext}

theorem audit_returns (sink : SinkChoice) : (Observer.audit sink.audit).Returns := by
  cases sink <;> exact fun _ _ _ => trivial

theorem performance_returns (sink : SinkChoice) (threshold : Option Duration) :
    (Observer.performance sink.telemetry threshold).Returns := by
  cases sink <;> exact fun _ _ _ => rfl

theorem audit_prompt (sink : SinkChoice) : (Observer.audit sink.audit).Prompt := by
  cases sink <;> exact fun _ _ _ => trivial

theorem audit_unseen (sink : SinkChoice) :
    (Observer.audit sink.audit).Unseen wait RecordsApart ctx := by
  rintro r _ _ ⟨w', w, rfl, rfl, h⟩
  cases sink with
  | tracing => exact ⟨.start (w'.emit _ _), rfl, _, w, rfl, rfl, by rw [World.bare_emit, h]⟩
  | recording => exact ⟨.start { w' with audits := _ }, rfl, _, w, rfl, rfl, h⟩

theorem performance_unseen (sink : SinkChoice) (threshold : Option Duration) :
    (Observer.performance sink.telemetry threshold).Unseen wait RecordsApart ctx := by
  rintro s _ _ ⟨w', w, rfl, rfl, h⟩
  cases sink with
  | tracing => exact ⟨w'.emit _ _, rfl, _, w, rfl, rfl, by rw [World.bare_emit, h]⟩
  | recording => exact ⟨{ w' with samples := _ }, rfl, _, w, rfl, rfl, h⟩

end Rehearsal.SinkChoice

end Mediator
