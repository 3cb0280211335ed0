import Mathlib.Data.List.Basic
import Mediator.Proofs.Publish.Panics

/-!
# Deliveries in turn

A delivery that waits for one subscriber before it invokes the next goes in turns. Each turn begins
where the one before has ended and been reported, in whatever state that has left the world, and the
subscribers that have a turn are the first ones in the order of registration. How far it goes is
said once for all deliveries of this kind (`Delivery.run_surveyUntil`): to the first subscriber that
stops it, or to the end, unless it comes to one that never ends. For a sequential delivery, which
only a fatal error stops, that is spelt out in `sequential_takes_turns`.
-/

namespace Mediator

variable {n : Notification} {op : Operation}
  {wait : (World → Bool) → Scheduler World → Scheduler World} {q q' : Scheduler World}

-- ---------------------------------------------------------------------------
-- Fates
-- ---------------------------------------------------------------------------

namespace Fate

def error? : Fate → Option Error
  | .ok (.ok ()) => none
  | .ok (.error e) => some e
  | .error payload => some (.panicked (.of payload))

/-- The reason for which a subscriber ended fatally, if it did. -/
def fatalKind? : Fate → Option FatalKind
  | .ok (.error e) => e.fatalKind?
  | _ => none

end Fate

namespace Subscriber

variable {s : Subscriber} {fate : Fate} {e : Error}

theorem delivery_of_error?_none (h : fate.error? = none) : s.delivery fate = .ok (.ok ()) := by
  match fate with
  | .ok (.ok ()) => rfl
  | .ok (.error _) => cases h
  | .error _ => cases h

theorem delivery_of_fatalKind?_none (h : fate.fatalKind? = none) (he : fate.error? = some e) :
    s.delivery fate = .ok (.error ⟨s.name, e⟩) := by
  match fate with
  | .ok (.ok ()) => cases he
  | .ok (.error e) =>
    cases he
    rw [delivery, Error.classify_eq_ok_iff.mpr ⟨h, rfl⟩]
  | .error payload =>
    cases he
    rfl

theorem delivery_of_fatalKind?_some {kind : FatalKind} (h : fate.fatalKind? = some kind)
    (he : fate.error? = some e) : s.delivery fate = .error ⟨kind, e⟩ := by
  match fate with
  | .ok (.ok ()) => cases h
  | .ok (.error e) =>
    cases he
    have hclassify : e.classify = .error ⟨kind, e⟩ := Error.classify_eq_error_iff.mpr ⟨h, rfl⟩
    rw [delivery, hclassify]
  | .error payload => cases h

theorem error?_of_fatalKind? {kind : FatalKind} (h : fate.fatalKind? = some kind) :
    ∃ e, fate.error? = some e := by
  match fate with
  | .ok (.ok ()) => cases h
  | .ok (.error e) => exact ⟨e, rfl⟩
  | .error payload => cases h

theorem failure?_delivery (h : fate.fatalKind? = none) :
    (s.delivery fate).failure? = fate.error?.map (⟨s.name, ·⟩) := by
  cases he : fate.error? with
  | none =>
    rw [delivery_of_error?_none he]
    rfl
  | some e =>
    rw [delivery_of_fatalKind?_none h he]
    rfl

theorem fatal?_delivery_eq_none_iff :
    (s.delivery fate).fatal? = none ↔ fate.fatalKind? = none := by
  cases h : fate.fatalKind? with
  | some kind =>
    obtain ⟨e, he⟩ := error?_of_fatalKind? h
    simp [delivery_of_fatalKind?_some h he, Delivery.fatal?]
  | none =>
    cases he : fate.error? with
    | none => simp [delivery_of_error?_none he, Delivery.fatal?]
    | some e => simp [delivery_of_fatalKind?_none h he, Delivery.fatal?]

end Subscriber

-- ---------------------------------------------------------------------------
-- One turn
-- ---------------------------------------------------------------------------

def Delivery.reported (op : Operation) (d : Delivery) (q : Scheduler World) : Scheduler World :=
  match d with
  | .ok (.error failure) => q.put (q.state.emit op.spans (.debug "subscriber failed"
      [("subscriber", failure.subscriber), ("error", failure.error.text)]))
  | _ => q

namespace Subscriber

theorem run_report (d : Delivery) (q : Scheduler World) :
    (report op d).run wait q = (.returned (), d.reported op q) :=
  match d with
  | .error _ => rfl
  | .ok (.ok ()) => rfl
  | .ok (.error _) => rfl

theorem run_observe (s : Subscriber) (q : Scheduler World) :
    (s.observe n op).run wait q = match (s.fate n op).run wait q with
      | (.returned fate, q') => (.returned fate, (s.delivery fate).reported op q')
      | (.panicked e, q') => (.panicked e, q')
      | (.stalled, q') => (.stalled, q') := by
  simp only [observe, Prog.bind_eq, Prog.run_bind, run_report, Prog.pure_eq, Prog.run_done]
  rcases (s.fate n op).run wait q with ⟨_ | _ | _, _⟩ <;> rfl

theorem endsIn_fate (s : Subscriber) :
    (s.fate n op).EndsIn (s.Raises n op) fun _ => True :=
  (Prog.endsIn_call (fun w _ he => ⟨w, he⟩) fun _ _ _ => trivial).bind fun _ _ =>
    Prog.endsIn_attempt _

end Subscriber

/-- A subscriber that has had its turn: what it found, what became of it, and what it left. -/
structure Turn where
  subscriber : Subscriber
  found : Scheduler World
  fate : Fate
  left : Scheduler World

namespace Turn

def delivery (t : Turn) : Delivery := t.subscriber.delivery t.fate

def failure? (t : Turn) : Option SubscriberFailure := t.fate.error?.map (⟨t.subscriber.name, ·⟩)

/-- The turns follow one another from `q` to `q'`: in each of them the subscriber runs once, from
where the turn before has been reported. -/
inductive Successive (wait : (World → Bool) → Scheduler World → Scheduler World)
    (n : Notification) (op : Operation) :
    Scheduler World → List Turn → Scheduler World → Prop
  | nil {q : Scheduler World} : Successive wait n op q [] q
  | cons {t : Turn} {ts : List Turn} {q' : Scheduler World}
      (h : (t.subscriber.fate n op).run wait t.found = (.returned t.fate, t.left))
      (hrest : Successive wait n op (t.delivery.reported op t.left) ts q') :
      Successive wait n op t.found (t :: ts) q'

end Turn

-- ---------------------------------------------------------------------------
-- All turns
-- ---------------------------------------------------------------------------

namespace Delivery

open Turn (Successive)

variable {stops : Delivery → Bool} {s : Subscriber} {fate : Fate}

theorem run_surveyUntil_of_stops (subs : List Subscriber)
    (hfate : (s.fate n op).run wait q = (.returned fate, q'))
    (hstops : stops (s.delivery fate) = true) :
    (surveyUntil stops n op (s :: subs)).run wait q =
      (.returned [fate], (s.delivery fate).reported op q') := by
  simp only [surveyUntil, Prog.bind_eq, Prog.run_bind, Subscriber.run_observe, hfate, hstops,
    if_pos]
  rfl

theorem run_surveyUntil_of_not_stops (subs : List Subscriber)
    (hfate : (s.fate n op).run wait q = (.returned fate, q'))
    (hstops : stops (s.delivery fate) = false) :
    (surveyUntil stops n op (s :: subs)).run wait q =
      (((surveyUntil stops n op subs).run wait ((s.delivery fate).reported op q')).1.map
          (fate :: ·),
        ((surveyUntil stops n op subs).run wait ((s.delivery fate).reported op q')).2) := by
  simp only [surveyUntil, Prog.bind_eq, Prog.run_bind, Subscriber.run_observe, hfate, hstops,
    Bool.false_eq_true, if_false]
  rcases (surveyUntil stops n op subs).run wait ((s.delivery fate).reported op q') with
    ⟨_ | _ | _, _⟩ <;> rfl

theorem run_surveyUntil_of_stalled (subs : List Subscriber)
    (hfate : (s.fate n op).run wait q = (.stalled, q')) :
    (surveyUntil stops n op (s :: subs)).run wait q = (.stalled, q') := by
  simp only [surveyUntil, Prog.bind_eq, Prog.run_bind, Subscriber.run_observe, hfate]

/-- A delivery in turn goes up to the first subscriber that stops it, or to the end, or it comes to
a subscriber that never ends. -/
theorem run_surveyUntil (wait : (World → Bool) → Scheduler World → Scheduler World)
    (stops : Delivery → Bool) {subs : List Subscriber}
    (h : ∀ s ∈ subs, ∀ payload, ¬s.Raises n op payload) (q : Scheduler World) :
    ∃ (turns : List Turn) (rest : List Subscriber) (q₁ : Scheduler World),
      subs = turns.map Turn.subscriber ++ rest ∧ Successive wait n op q turns q₁ ∧
      ((rest = [] ∧ (∀ t ∈ turns, stops t.delivery = false) ∧
          (surveyUntil stops n op subs).run wait q = (.returned (turns.map Turn.fate), q₁)) ∨
        (∃ before t, turns = before ++ [t] ∧ (∀ u ∈ before, stops u.delivery = false) ∧
          stops t.delivery = true ∧
          (surveyUntil stops n op subs).run wait q = (.returned (turns.map Turn.fate), q₁)) ∨
        ∃ s after q₂, rest = s :: after ∧ (∀ t ∈ turns, stops t.delivery = false) ∧
          (s.fate n op).run wait q₁ = (.stalled, q₂) ∧
          (surveyUntil stops n op subs).run wait q = (.stalled, q₂)) := by
  induction subs generalizing q with
  | nil => exact ⟨[], [], q, rfl, .nil, .inl ⟨rfl, List.forall_mem_nil _, rfl⟩⟩
  | cons s subs ih =>
    obtain ⟨hs, hsubs⟩ := List.forall_mem_cons.mp h
    rcases hfate : (s.fate n op).run wait q with ⟨fate | e | _, q'⟩
    · let t : Turn := ⟨s, q, fate, q'⟩
      cases hstops : stops (s.delivery fate) with
      | true =>
        exact ⟨[t], subs, _, rfl, .cons (t := t) hfate .nil,
          .inr (.inl ⟨[], t, rfl, List.forall_mem_nil _, hstops,
            run_surveyUntil_of_stops subs hfate hstops⟩)⟩
      | false =>
        obtain ⟨turns, rest, q₁, hsplit, hturns, hends⟩ :=
          ih hsubs ((s.delivery fate).reported op q')
        have hrun := run_surveyUntil_of_not_stops subs hfate hstops
        have hall (ts : List Turn) (h : ∀ u ∈ ts, stops u.delivery = false) :
            ∀ u ∈ t :: ts, stops u.delivery = false := List.forall_mem_cons.mpr ⟨hstops, h⟩
        refine ⟨t :: turns, rest, q₁, congrArg (s :: ·) hsplit, .cons (t := t) hfate hturns, ?_⟩
        obtain ⟨hrest, hgoes, hends⟩ | ⟨before, u, rfl, hgoes, hu, hends⟩ |
          ⟨s', after, q₂, hrest, hgoes, hstalled, hends⟩ := hends <;> rw [hends] at hrun
        · exact .inl ⟨hrest, hall _ hgoes, hrun⟩
        · exact .inr (.inl ⟨t :: before, u, rfl, hall _ hgoes, hu, hrun⟩)
        · exact .inr (.inr ⟨s', after, q₂, hrest, hall _ hgoes, hstalled, hrun⟩)
    · -- The panic of the program is its fate, so this one is that of the call.
      exact absurd (s.endsIn_fate.run_panicked (congrArg Prod.fst hfate)) (hs e)
    · exact ⟨[], s :: subs, q, rfl, .nil,
        .inr (.inr ⟨s, subs, q', rfl, List.forall_mem_nil _, hfate,
          run_surveyUntil_of_stalled subs hfate⟩)⟩

theorem ofFates_turns (turns : List Turn) (rest : List Subscriber) :
    ofFates (turns.map Turn.subscriber ++ rest) (turns.map Turn.fate) =
      turns.map Turn.delivery := by
  induction turns with
  | nil => cases rest <;> rfl
  | cons t turns ih => exact congrArg (t.delivery :: ·) ih

theorem run_inTurn {deliver : Action (Except Fatal (Outcome Unit))}
    {come : List Delivery → Except Fatal (Outcome Unit)} {subs : List Subscriber}
    (hdeliver : deliver =
      (fun fates => come (ofFates subs fates)) <$> surveyUntil stops n op subs)
    (wait : (World → Bool) → Scheduler World → Scheduler World)
    (h : ∀ s ∈ subs, ∀ payload, ¬s.Raises n op payload) (q : Scheduler World) :
    ∃ (turns : List Turn) (rest : List Subscriber) (q₁ : Scheduler World),
      subs = turns.map Turn.subscriber ++ rest ∧ Successive wait n op q turns q₁ ∧
      ((rest = [] ∧ (∀ t ∈ turns, stops t.delivery = false) ∧
          deliver.run wait q = (.returned (come (turns.map Turn.delivery)), q₁)) ∨
        (∃ before t, turns = before ++ [t] ∧ (∀ u ∈ before, stops u.delivery = false) ∧
          stops t.delivery = true ∧
          deliver.run wait q = (.returned (come (turns.map Turn.delivery)), q₁)) ∨
        ∃ s after q₂, rest = s :: after ∧ (∀ t ∈ turns, stops t.delivery = false) ∧
          (s.fate n op).run wait q₁ = (.stalled, q₂) ∧
          deliver.run wait q = (.stalled, q₂)) := by
  obtain ⟨turns, rest, q₁, hsplit, hturns, hends⟩ := run_surveyUntil wait stops h q
  have hfates : ofFates subs (turns.map Turn.fate) = turns.map Turn.delivery := by
    rw [hsplit, ofFates_turns]
  refine ⟨turns, rest, q₁, hsplit, hturns, ?_⟩
  obtain ⟨hrest, hgoes, hrun⟩ | ⟨before, t, hlast, hgoes, ht, hrun⟩ |
    ⟨s, after, q₂, hrest, hgoes, hstalled, hrun⟩ := hends <;>
    rw [hdeliver, Prog.run_map, hrun]
  · exact .inl ⟨hrest, hgoes, by rw [Ending.map, hfates]⟩
  · exact .inr (.inl ⟨before, t, hlast, hgoes, ht, by rw [Ending.map, hfates]⟩)
  · exact .inr (.inr ⟨s, after, q₂, hrest, hgoes, hstalled, rfl⟩)

theorem fatalKind?_of_not_stops {t : Turn} (h : t.delivery.fatal?.isSome = false) :
    t.fate.fatalKind? = none := by
  have hfatal : t.delivery.fatal? = none := by simpa using h
  exact Subscriber.fatal?_delivery_eq_none_iff.mp hfatal

theorem exists_of_stops {t : Turn} (h : t.delivery.fatal?.isSome = true) :
    ∃ e kind, t.fate = .ok (.error e) ∧ e.fatalKind? = some kind ∧
      t.delivery = .error ⟨kind, e⟩ := by
  obtain ⟨s, found, fate, left⟩ := t
  cases hkind : fate.fatalKind? with
  | none =>
    rw [Turn.delivery, Subscriber.fatal?_delivery_eq_none_iff.mpr hkind] at h
    cases h
  | some kind =>
    match fate with
    | .ok (.ok ()) => cases hkind
    | .ok (.error e) =>
      exact ⟨e, kind, rfl, hkind, Subscriber.delivery_of_fatalKind?_some hkind rfl⟩
    | .error payload => cases hkind

theorem filterMap_failure?_deliveries {turns : List Turn}
    (h : ∀ t ∈ turns, t.fate.fatalKind? = none) :
    (turns.map Turn.delivery).filterMap failure? = turns.filterMap Turn.failure? := by
  rw [List.filterMap_map]
  exact List.filterMap_congr fun t ht => Subscriber.failure?_delivery (h t ht)

-- ---------------------------------------------------------------------------
-- Sequential delivery
-- ---------------------------------------------------------------------------

theorem verdict_of_turns {turns : List Turn} (h : ∀ t ∈ turns, t.fate.fatalKind? = none)
    (attempted : Nat) :
    ((∀ t ∈ turns, t.fate = .ok (.ok ())) ∧
        verdict attempted (turns.map Turn.delivery) = .ok .completed) ∨
      ((∃ t ∈ turns, t.fate ≠ .ok (.ok ())) ∧
        verdict attempted (turns.map Turn.delivery) =
          .ok (.failed (.aggregate ⟨attempted, turns.filterMap Turn.failure?⟩))) := by
  by_cases hfine : ∀ t ∈ turns, t.fate = .ok (.ok ())
  · refine .inl ⟨hfine, verdict_of_fine (List.forall_mem_map.mpr fun t ht => ?_) _⟩
    exact Subscriber.delivery_eq_fine_iff.mpr (hfine t ht)
  · obtain ⟨t, ht, hfate⟩ : ∃ t ∈ turns, t.fate ≠ .ok (.ok ()) := by simpa using hfine
    have hfatal : ∀ d ∈ turns.map Turn.delivery, d.fatal? = none :=
      List.forall_mem_map.mpr fun u hu => Subscriber.fatal?_delivery_eq_none_iff.mpr (h u hu)
    obtain ⟨failure, hfailure⟩ := exists_failure (hfatal _ (List.mem_map_of_mem ht))
      (mt Subscriber.delivery_eq_fine_iff.mp hfate)
    have hne : (turns.map Turn.delivery).filterMap failure? ≠ [] :=
      List.ne_nil_of_mem (List.mem_filterMap.mpr ⟨_, List.mem_map_of_mem ht, hfailure⟩)
    refine .inr ⟨⟨t, ht, hfate⟩, ?_⟩
    rw [verdict_of_failures hfatal hne, filterMap_failure?_deliveries h]

/-- A sequential delivery gives its subscribers their turns in the order of registration, one after
the other and each of them once. It ends with the first of them that ends fatally, and then with
that error; or else with the last, and then it succeeds if none has failed, and reports all failures
in their order if some have. Only a subscriber that never ends keeps it from that. -/
theorem sequential_takes_turns (wait : (World → Bool) → Scheduler World → Scheduler World)
    {subs : List Subscriber} (h : ∀ s ∈ subs, ∀ payload, ¬s.Raises n op payload)
    (q : Scheduler World) :
    let delivered := (sequential n op subs).run wait q
    ∃ (turns : List Turn) (rest : List Subscriber) (q₁ : Scheduler World),
      subs = turns.map Turn.subscriber ++ rest ∧ Successive wait n op q turns q₁ ∧
      ((∃ before t e kind, turns = before ++ [t] ∧ (∀ u ∈ before, u.fate.fatalKind? = none) ∧
          t.fate = .ok (.error e) ∧ e.fatalKind? = some kind ∧
          delivered = (.returned (.error ⟨kind, e⟩), q₁)) ∨
        (rest = [] ∧ (∀ t ∈ turns, t.fate.fatalKind? = none) ∧
          (((∀ t ∈ turns, t.fate = .ok (.ok ())) ∧ delivered = (.returned (.ok .completed), q₁)) ∨
            ((∃ t ∈ turns, t.fate ≠ .ok (.ok ())) ∧ delivered = (.returned (.ok (.failed
              (.aggregate ⟨subs.length, turns.filterMap Turn.failure?⟩))), q₁)))) ∨
        ∃ s after q₂, rest = s :: after ∧ (∀ t ∈ turns, t.fate.fatalKind? = none) ∧
          (s.fate n op).run wait q₁ = (.stalled, q₂) ∧ delivered = (.stalled, q₂)) := by
  intro delivered
  obtain ⟨turns, rest, q₁, hsplit, hturns, hends⟩ :=
    run_inTurn (sequential_eq n op subs) wait h q
  refine ⟨turns, rest, q₁, hsplit, hturns, ?_⟩
  obtain ⟨rfl, hgoes, hrun⟩ | ⟨before, t, rfl, hgoes, ht, hrun⟩ |
    ⟨s, after, q₂, hrest, hgoes, hstalled, hrun⟩ := hends
  · have hnone := fun t ht => fatalKind?_of_not_stops (hgoes t ht)
    refine .inr (.inl ⟨rfl, hnone, ?_⟩)
    obtain ⟨hfine, hverdict⟩ | ⟨hfailed, hverdict⟩ := verdict_of_turns hnone subs.length <;>
      rw [hverdict] at hrun
    · exact .inl ⟨hfine, hrun⟩
    · exact .inr ⟨hfailed, hrun⟩
  · obtain ⟨e, kind, hfate, hkind, hdelivery⟩ := exists_of_stops ht
    have hnone := fun u hu => fatalKind?_of_not_stops (hgoes u hu)
    have hbefore : ∀ d ∈ before.map Turn.delivery, d.fatal? = none :=
      List.forall_mem_map.mpr fun u hu =>
        Subscriber.fatal?_delivery_eq_none_iff.mpr (hnone u hu)
    rw [List.map_append, List.map_singleton, hdelivery, verdict_of_fatal hbefore] at hrun
    exact .inl ⟨before, t, e, kind, rfl, hnone, hfate, hkind, hrun⟩
  · exact .inr (.inr ⟨s, after, q₂, hrest, fun t ht => fatalKind?_of_not_stops (hgoes t ht),
      hstalled, hrun⟩)

/-- The first subscriber cancels the operation and fails, the second one waits for just that, and
the third one panics. -/
theorem three_turns_taken :
    let n : Notification := ⟨⟨⟨0⟩, "Paid", none⟩, .null⟩
    let op : Operation := .anonymous .development ⟨0⟩
    let guardian : Subscriber := ⟨"guardian", fun _ op => Call.pure do
      Action.cancel op.token
      return .error (.message "no funds")⟩
    let ledger : Subscriber := ⟨"ledger", fun _ op => Call.pure do
      Action.awaitCanceled op.token
      return .ok ()⟩
    let mailer : Subscriber := ⟨"mailer", fun _ _ => Call.pure (.panic (.fixed "no connection"))⟩
    let subs := [guardian, ledger, mailer]
    (∀ s ∈ subs, ∀ payload, ¬s.Raises n op payload) ∧
      ∃ turns q₁, turns.map Turn.subscriber = subs ∧
        Successive Scheduler.alone n op (.start .empty) turns q₁ ∧
        (sequential n op subs).run Scheduler.alone (.start .empty) =
          (.returned (.ok (.failed (.aggregate ⟨3, [⟨"guardian", .message "no funds"⟩,
            ⟨"mailer", .panicked ⟨"no connection"⟩⟩]⟩))), q₁) := by
  intro n op guardian ledger mailer subs
  have hraises : ∀ s ∈ subs, ∀ payload, ¬s.Raises n op payload := by
    rintro s hs payload ⟨w, hw⟩
    simp only [subs, List.mem_cons, List.not_mem_nil, or_false] at hs
    rcases hs with rfl | rfl | rfl <;> cases hw
  have hreturned : ((sequential n op subs).run Scheduler.alone (.start .empty)).1 =
      .returned (.ok (.failed (.aggregate ⟨3, [⟨"guardian", .message "no funds"⟩,
        ⟨"mailer", .panicked ⟨"no connection"⟩⟩]⟩))) := rfl
  obtain ⟨turns, rest, q₁, hsplit, hturns, hends⟩ :=
    sequential_takes_turns Scheduler.alone hraises (.start .empty)
  obtain ⟨_, _, _, _, -, -, -, -, hrun⟩ | ⟨rfl, -, hrun⟩ | ⟨_, _, _, -, -, -, hrun⟩ := hends
  · rw [hrun] at hreturned
    cases hreturned
  · rw [List.append_nil] at hsplit
    refine ⟨hraises, turns, q₁, hsplit.symm, hturns, Prod.ext hreturned ?_⟩
    obtain ⟨-, hrun⟩ | ⟨-, hrun⟩ := hrun <;> rw [hrun]
  · rw [hrun] at hreturned
    cases hreturned

end Delivery

end Mediator
