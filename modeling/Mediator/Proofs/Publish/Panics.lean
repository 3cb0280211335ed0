import Mediator.Proofs.Prog.Endings
import Mediator.Proofs.Publish.Fates

/-!
# Panics of subscribers

A panic of the program of a subscriber is its failure and stays where it is. What a delivery can
panic with, if at all, is the panic of a call by which a subscriber is handed the notification
(`endsIn_survey`). To a publish, a panicked program is as good as one that returns the error for its
panic (`publishWith_returning`).
-/

namespace Mediator

variable {n : Notification} {op : Operation}
variable (wait : (World → Bool) → Scheduler World → Scheduler World)

-- ---------------------------------------------------------------------------
-- Where panics come from
-- ---------------------------------------------------------------------------

namespace Subscriber

/-- The call by which the subscriber is handed the notification can panic like this. -/
def Raises (s : Subscriber) (n : Notification) (op : Operation) (payload : Panic) : Prop :=
  ∃ w, (s.handle n op w).1 = .error payload

theorem endsIn_report (P : Panic → Prop) (d : Delivery) :
    (report op d).EndsIn P fun _ => True :=
  match d with
  | .error _ => trivial
  | .ok (.ok ()) => trivial
  | .ok (.error _) => fun _ => trivial

theorem endsIn_observe (s : Subscriber) :
    (s.observe n op).EndsIn (s.Raises n op) fun _ => True := by
  have hcall : (Prog.call (s.handle n op)).EndsIn (s.Raises n op) fun _ => True :=
    Prog.endsIn_call (fun w e he => ⟨w, he⟩) fun _ _ _ => trivial
  refine (hcall.bind fun _ _ => Prog.endsIn_attempt _).bind fun fate _ => ?_
  exact (endsIn_report _ (s.delivery fate)).bind fun _ _ => trivial

end Subscriber

namespace Delivery

def Raises (subs : List Subscriber) (n : Notification) (op : Operation) (payload : Panic) : Prop :=
  ∃ s ∈ subs, s.Raises n op payload

theorem endsIn_surveyUntil (stops : Delivery → Bool) (subs : List Subscriber) :
    (surveyUntil stops n op subs).EndsIn (Raises subs n op) (Surveyed stops subs) := by
  induction subs with
  | nil => rfl
  | cons s rest ih =>
    have hs : (s.observe n op).EndsIn (Raises (s :: rest) n op) fun _ => True :=
      s.endsIn_observe.mono (fun e he => ⟨s, List.mem_cons_self, he⟩) fun _ h => h
    have hrest : (surveyUntil stops n op rest).EndsIn (Raises (s :: rest) n op)
        (Surveyed stops rest) :=
      ih.mono (fun e ⟨t, ht, he⟩ => ⟨t, List.mem_cons_of_mem _ ht, he⟩) fun _ h => h
    refine hs.bind fun fate _ => ?_
    cases hstops : stops (s.delivery fate) with
    | true => simp [Prog.EndsIn, Surveyed, hstops]
    | false =>
      simp only [Bool.false_eq_true, if_false]
      refine hrest.bind fun fates hfates => ?_
      simpa [Prog.EndsIn, Surveyed, hstops] using hfates

theorem endsIn_joinAll_observe (subs : List Subscriber) :
    (Prog.joinAll (subs.map fun s => s.observe n op)).EndsIn (Raises subs n op)
      fun fates => fates.length = subs.length := by
  have hall : ∀ p ∈ subs.map fun s => s.observe n op,
      p.EndsIn (Raises subs n op) fun _ => True := by
    intro p hp
    obtain ⟨s, hs, rfl⟩ := List.mem_map.mp hp
    exact s.endsIn_observe.mono (fun e he => ⟨s, hs, he⟩) fun _ h => h
  exact (Prog.endsIn_joinAll hall).mono (fun _ h => h) fun fates h => by simpa using h.1

theorem endsIn_survey (strategy : Strategy) (subs : List Subscriber) :
    (survey strategy n op subs).EndsIn (Raises subs n op) (Observable strategy subs) := by
  cases strategy with
  | sequential => exact endsIn_surveyUntil _ subs
  | failFast => exact endsIn_surveyUntil _ subs
  | parallel => exact endsIn_joinAll_observe subs
  | fireAndForget => rfl

-- ---------------------------------------------------------------------------
-- Detached subscribers
-- ---------------------------------------------------------------------------

theorem run_spawnAll (subs : List Subscriber) (q : Scheduler World) :
    (spawnAll n op subs).run wait q
      = (.returned (), subs.foldl (fun q s => q.enqueue (detached n op s).detach) q) := by
  induction subs generalizing q with
  | nil => rfl
  | cons s rest ih => exact ih (q.enqueue (detached n op s).detach)

theorem run_fireAndForget (subs : List Subscriber) (q : Scheduler World) :
    ((fireAndForget n op subs).run wait q).1 = .returned (.ok .completed) := by
  simp only [fireAndForget, Prog.read, Prog.bind_eq, Prog.bind, Prog.run_get]
  split
  · simp [Prog.run_bind, run_spawnAll]
  · simp [Prog.run_bind]

end Delivery

-- ---------------------------------------------------------------------------
-- Panics as results
-- ---------------------------------------------------------------------------

def Fate.result : Fate → Except Error Unit
  | .ok result => result
  | .error payload => .error (.panicked (.of payload))

namespace Subscriber

def returning (s : Subscriber) : Subscriber where
  name := s.name
  handle n op := (fun program => Fate.result <$> program.attempt) <$> s.handle n op

theorem fate_returning (s : Subscriber) (n : Notification) (op : Operation) :
    s.returning.fate n op = (fun fate => .ok fate.result) <$> s.fate n op := by
  simp only [fate, returning, Prog.call_map, Prog.map_eq, Prog.bind_eq, Prog.bind_assoc,
    Prog.done_bind, Prog.attempt_bind_done]

theorem delivery_returning (s : Subscriber) (fate : Fate) :
    s.returning.delivery (.ok fate.result) = s.delivery fate := by
  cases fate <;> rfl

theorem invoke_returning (s : Subscriber) (n : Notification) (op : Operation) :
    s.returning.invoke n op = s.invoke n op := by
  simp only [invoke_eq, observe, fate_returning, Prog.map_eq, Prog.bind_eq, Prog.bind_assoc,
    Prog.pure_eq, Prog.done_bind, delivery_returning]

end Subscriber

namespace Delivery

variable {g : Subscriber → Subscriber}

theorem collect_map (hinvoke : ∀ s n op, (g s).invoke n op = s.invoke n op)
    (subs : List Subscriber) : collect n op (subs.map g) = collect n op subs := by
  induction subs with
  | nil => rfl
  | cons s rest ih => simp only [List.map_cons, collect, hinvoke, ih]

theorem failFast_map (hinvoke : ∀ s n op, (g s).invoke n op = s.invoke n op)
    (subs : List Subscriber) : failFast n op (subs.map g) = failFast n op subs := by
  induction subs with
  | nil => rfl
  | cons s rest ih => simp only [List.map_cons, failFast, hinvoke, ih]

theorem spawnAll_map (hinvoke : ∀ s n op, (g s).invoke n op = s.invoke n op)
    (hname : ∀ s, (g s).name = s.name) (subs : List Subscriber) :
    spawnAll n op (subs.map g) = spawnAll n op subs := by
  induction subs with
  | nil => rfl
  | cons s rest ih => simp only [List.map_cons, spawnAll, detached, hinvoke, hname, ih]

/-- A delivery knows its subscribers by their names and by what invoking them does. -/
theorem run_map (hinvoke : ∀ s n op, (g s).invoke n op = s.invoke n op)
    (hname : ∀ s, (g s).name = s.name) (strategy : Strategy) (subs : List Subscriber) :
    run strategy n op (subs.map g) = run strategy n op subs := by
  cases strategy with
  | sequential => simp only [run, sequential, collect_map hinvoke, List.length_map]
  | failFast => exact failFast_map hinvoke subs
  | parallel =>
    simp only [run, parallel, List.map_map, Function.comp_def, hinvoke, List.length_map]
  | fireAndForget =>
    simp only [run, fireAndForget, spawnAll_map hinvoke hname, List.length_map]

end Delivery

-- ---------------------------------------------------------------------------
-- Publishing
-- ---------------------------------------------------------------------------

def Provider.returning (p : Provider) (chosen : Subscriber → Bool) : Provider :=
  { p with
    subscribers := fun t => (p.subscribers t).map fun s => if chosen s then s.returning else s }

namespace Publisher

def inner (p : Publisher) (n : Notification) (explicit : Option Strategy) (op : Operation) :
    Operation :=
  op.within (span n (p.strategyFor n.type explicit) op)

/-- What there is when a publish comes to its subscribers: it has been reported. -/
def announced (p : Publisher) (n : Notification) (explicit : Option Strategy) (op : Operation)
    (q : Scheduler World) : Scheduler World :=
  q.put (q.state.emit (p.inner n explicit op).spans
    (.withCount (.debug "publishing notification" []) "subscribers"
      (p.provider.subscribers n.type).length))

theorem run_publishWith (p : Publisher) (n : Notification) (explicit : Option Strategy)
    (op : Operation) (q : Scheduler World) :
    (p.publishWith n explicit op).run wait q =
      if (p.provider.subscribers n.type).isEmpty then
        (.returned (.ok .completed), p.announced n explicit op q)
      else (Delivery.run (p.strategyFor n.type explicit) n (p.inner n explicit op)
        (p.provider.subscribers n.type)).run wait (p.announced n explicit op q) := by
  simp only [publishWith, Prog.bind_eq, Prog.run_bind, Action.run_emit]
  split <;> rfl

theorem run_publishWith_waiting {p : Publisher} {n : Notification} {explicit : Option Strategy}
    (h : p.strategyFor n.type explicit ≠ .fireAndForget) (op : Operation) (q : Scheduler World) :
    let strategy := p.strategyFor n.type explicit
    let subs := p.provider.subscribers n.type
    (p.publishWith n explicit op).run wait q =
      (Delivery.result strategy subs <$>
        Delivery.survey strategy n (p.inner n explicit op) subs).run wait
        (p.announced n explicit op q) := by
  intro strategy subs
  rw [run_publishWith, Delivery.run_eq h]
  split
  · rename_i hempty
    have hsubs : subs = [] := List.isEmpty_iff.mp hempty
    show _ = (Delivery.result strategy subs <$> Delivery.survey strategy n _ subs).run wait _
    rw [hsubs]
    cases hstrategy : strategy with
    | fireAndForget => exact absurd hstrategy h
    | _ => rfl
  · rfl

theorem publishWith_returning (p : Publisher) (n : Notification) (explicit : Option Strategy)
    (op : Operation) (chosen : Subscriber → Bool) :
    ({ p with provider := p.provider.returning chosen } : Publisher).publishWith n explicit op
      = p.publishWith n explicit op := by
  have hrun : ∀ strategy op subs, Delivery.run strategy n op
      (subs.map fun s => if chosen s then s.returning else s) = Delivery.run strategy n op subs :=
    fun strategy op subs => Delivery.run_map
      (fun s n op => by split <;> simp [Subscriber.invoke_returning])
      (fun s => by split <;> rfl) strategy subs
  simp only [publishWith, strategyFor, Provider.returning, hrun, List.length_map, List.isEmpty_map]

/-- A publish panics only as the call by which one of its subscribers is handed the notification
does, and one that detaches its subscribers never does. A panicked program that a delivery observes
is reported with its message, by itself or among all failures, unless another subscriber has ended
fatally. Everything else goes as if the panicked programs had returned the error instead. -/
theorem publishWith_contains_panics (p : Publisher) (n : Notification) (explicit : Option Strategy)
    (op : Operation) (q : Scheduler World) :
    let strategy := p.strategyFor n.type explicit
    let inner := p.inner n explicit op
    let subs := p.provider.subscribers n.type
    let published := (p.publishWith n explicit op).run wait q
    (∀ payload, published.1 = .panicked payload →
      strategy ≠ .fireAndForget ∧ ∃ s ∈ subs, s.Raises n inner payload) ∧
    (strategy = .fireAndForget → published.1 = .returned (.ok .completed)) ∧
    (strategy ≠ .fireAndForget → ∀ result, published.1 = .returned result →
      ∃ fates, (Delivery.survey strategy n inner subs).run wait (p.announced n explicit op q)
          = (.returned fates, published.2) ∧
        ∀ (i : Nat) s payload, subs[i]? = some s → fates[i]? = some (.error payload) →
          let failure : SubscriberFailure := ⟨s.name, .panicked ⟨payload.message⟩⟩
          (strategy = .failFast ∧ result = .ok (.failed (.subscriber failure))) ∨
          (strategy ≠ .failFast ∧
            ((∃ (j : Nat) (t : Subscriber) (fate : Fate) (f : Fatal), subs[j]? = some t ∧
                fates[j]? = some fate ∧ t.delivery fate = .error f ∧ result = .error f) ∨
              (fates.length = subs.length ∧ ∃ failures,
                result = .ok (.failed (.aggregate ⟨subs.length, failures⟩)) ∧
                  failure ∈ failures)))) ∧
    (∀ chosen, ({ p with provider := p.provider.returning chosen } : Publisher).publishWith n
      explicit op = p.publishWith n explicit op) := by
  intro strategy inner subs published
  have hdetached : strategy = .fireAndForget → published.1 = .returned (.ok .completed) := by
    intro h
    show ((p.publishWith n explicit op).run wait q).1 = _
    rw [run_publishWith]
    split
    · rfl
    · show ((Delivery.run strategy n inner subs).run wait _).1 = _
      rw [h]
      exact Delivery.run_fireAndForget wait subs _
  have hsurvey : (Delivery.survey strategy n inner subs).EndsIn (Delivery.Raises subs n inner)
      (Delivery.Observable strategy subs) := Delivery.endsIn_survey strategy subs
  -- A delivery that waits ends as its survey does.
  have hwaiting : strategy ≠ .fireAndForget → published =
      (((Delivery.survey strategy n inner subs).run wait (p.announced n explicit op q)).1.map
          (Delivery.result strategy subs),
        ((Delivery.survey strategy n inner subs).run wait (p.announced n explicit op q)).2) :=
    fun h => (run_publishWith_waiting wait h op q).trans (Prog.run_map wait _ _ _)
  refine ⟨fun payload hp => ?_, hdetached, fun h result hr => ?_,
    publishWith_returning p n explicit op⟩
  · have h : strategy ≠ .fireAndForget := by
      intro h
      simp [hdetached h] at hp
    rw [hwaiting h, Ending.map_eq_panicked_iff] at hp
    exact ⟨h, hsurvey.run_panicked hp⟩
  · rw [hwaiting h, Ending.map_eq_returned_iff] at hr
    obtain ⟨fates, hfates, rfl⟩ := hr
    refine ⟨fates, Prod.ext hfates (by rw [hwaiting h]), fun i s payload hs hfate => ?_⟩
    have hmem := Delivery.mem_ofFates hs hfate
    obtain hfast | ⟨hslow, hfatal | hfailures⟩ :=
      Delivery.result_of_failure (hsurvey.run_returned hfates) h hmem
    · exact .inl hfast
    · obtain ⟨f, hf, hresult⟩ := hfatal
      obtain ⟨j, t, fate, ht, hfate, hdelivery⟩ := Delivery.exists_of_mem_ofFates hf
      exact .inr ⟨hslow, .inl ⟨j, t, fate, f, ht, hfate, hdelivery, hresult⟩⟩
    · exact .inr ⟨hslow, .inr hfailures⟩

/-- Of two subscribers the first one panics. -/
theorem publishWith_one_panicked :
    let n : Notification := ⟨⟨⟨0⟩, "Paid", none⟩, .null⟩
    let op : Operation := .anonymous .development ⟨0⟩
    let mailer : Subscriber := ⟨"mailer", fun _ _ => Call.pure (.panic (.fixed "no connection"))⟩
    let ledger : Subscriber := ⟨"ledger", fun _ _ => Call.pure (.done (.ok ()))⟩
    let p : Publisher := ⟨⟨fun _ => none, fun _ => [mailer, ledger]⟩, .parallel, .development⟩
    let published := (p.publishWith n none op).run Scheduler.alone (.start .empty)
    (∀ payload, published.1 ≠ .panicked payload) ∧
      ∃ failures, published.1 = .returned (.ok (.failed (.aggregate ⟨2, failures⟩))) ∧
        ⟨"mailer", .panicked ⟨"no connection"⟩⟩ ∈ failures := by
  intro n op mailer ledger p published
  obtain ⟨hpanics, -, hreports, -⟩ :=
    publishWith_contains_panics Scheduler.alone p n none op (.start .empty)
  constructor
  · intro payload h
    obtain ⟨-, s, hs, w, hw⟩ := hpanics payload h
    simp only [p, List.mem_cons, List.not_mem_nil, or_false] at hs
    rcases hs with rfl | rfl <;> cases hw
  · obtain ⟨fates, hrun, hfates⟩ := hreports nofun _ rfl
    have heq : fates = [.error (.fixed "no connection"), .ok (.ok ())] := by cases hrun; rfl
    subst heq
    obtain ⟨hfast, -⟩ | ⟨-, ⟨_, _, _, f, -, -, -, hf⟩ | ⟨-, failures, hresult, hmem⟩⟩ :=
      hfates 0 mailer (.fixed "no connection") rfl rfl
    · cases hfast
    · cases hf
    · exact ⟨failures, congrArg Ending.returned hresult, hmem⟩

/-- The call of a subscriber may panic, and then the publish does; and a panicked program does not
show where another subscriber ends fatally. -/
theorem publishWith_panic_not_reported :
    let n : Notification := ⟨⟨⟨0⟩, "Paid", none⟩, .null⟩
    let op : Operation := .anonymous .development ⟨0⟩
    let handed : Subscriber := ⟨"mailer", fun _ _ => Call.panic (.fixed "no connection")⟩
    let mailer : Subscriber := ⟨"mailer", fun _ _ => Call.pure (.panic (.fixed "no connection"))⟩
    let ledger : Subscriber := ⟨"ledger", fun _ _ => Call.pure (.done (.error .canceled))⟩
    let p (subs : List Subscriber) : Publisher :=
      ⟨⟨fun _ => none, fun _ => subs⟩, .sequential, .development⟩
    let published (subs : List Subscriber) :=
      (((p subs).publishWith n none op).run Scheduler.alone (.start .empty)).1
    published [handed] = .panicked (.fixed "no connection") ∧
      published [mailer, ledger] = .returned (.error .canceled) :=
  ⟨rfl, rfl⟩

end Publisher

end Mediator
