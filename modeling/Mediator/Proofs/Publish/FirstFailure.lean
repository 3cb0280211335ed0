import Mediator.Proofs.Publish.Turns

/-!
# The first failure

A fast delivery is a delivery in turn that any failure stops, so its last turn is that of the first
subscriber that fails, and what became of that one is its result. A sequential delivery gives turns
to the same subscribers up to there, and then goes on. Where it makes no difference to a subscriber
when it has its turn, the two can be compared (`firstVerdict_survey_of_fixed`): the first thing that
went wrong is the same in both.
-/

namespace Mediator

variable {n : Notification} {op : Operation}
  {wait : (World → Bool) → Scheduler World → Scheduler World} {q : Scheduler World}

namespace Delivery

variable {d : Delivery} {ds ds' : List Delivery}

-- ---------------------------------------------------------------------------
-- Verdicts up to the first failure
-- ---------------------------------------------------------------------------

theorem not_isFine_eq_false_iff : (!d.isFine) = false ↔ d = .ok (.ok ()) := by
  match d with
  | .ok (.ok ()) => simp [isFine]
  | .ok (.error _) => simp [isFine]
  | .error _ => simp [isFine]

theorem firstVerdict_append (h : ∀ d ∈ ds, d = .ok (.ok ())) :
    firstVerdict (ds ++ ds') = firstVerdict ds' := by
  induction ds with
  | nil => rfl
  | cons d ds ih =>
    obtain ⟨rfl, hds⟩ := List.forall_mem_cons.mp h
    exact ih hds

theorem firstVerdict_cons_congr (h : firstVerdict ds = firstVerdict ds') :
    firstVerdict (d :: ds) = firstVerdict (d :: ds') := by
  match d with
  | .ok (.ok ()) => exact h
  | .ok (.error _) => rfl
  | .error _ => rfl

theorem firstVerdict_cons_of_not_isFine (h : d.isFine = false) :
    firstVerdict (d :: ds) = firstVerdict [d] := by
  match d with
  | .ok (.ok ()) => cases h
  | .ok (.error _) => rfl
  | .error _ => rfl

theorem verdict_cons_failure (failure : SubscriberFailure) (attempted : Nat) :
    verdict attempted (.ok (.error failure) :: ds) = match ds.findSome? fatal? with
      | some fatal => .error fatal
      | none => .ok (.failed (.aggregate ⟨attempted, failure :: ds.filterMap failure?⟩)) :=
  rfl

theorem firstVerdict_eq_completed_iff {attempted : Nat} :
    firstVerdict ds = .ok .completed ↔ verdict attempted ds = .ok .completed := by
  induction ds with
  | nil => exact iff_of_true rfl rfl
  | cons d ds ih =>
    match d with
    | .ok (.ok ()) => exact ih
    | .error f => exact iff_of_false nofun nofun
    | .ok (.error failure) =>
      refine iff_of_false nofun ?_
      rw [verdict_cons_failure]
      split <;> exact nofun

theorem firstVerdict_of_aggregate {attempted : Nat} {report : Aggregate}
    (h : verdict attempted ds = .ok (.failed (.aggregate report))) :
    ∃ failure, report.failures.head? = some failure ∧
      firstVerdict ds = .ok (.failed (.subscriber failure)) := by
  induction ds with
  | nil => cases h
  | cons d ds ih =>
    match d with
    | .ok (.ok ()) => exact ih h
    | .error f => cases h
    | .ok (.error failure) =>
      rw [verdict_cons_failure] at h
      split at h <;> cases h
      exact ⟨failure, rfl, rfl⟩

end Delivery

-- ---------------------------------------------------------------------------
-- Fixed results
-- ---------------------------------------------------------------------------

/-- Whenever the subscriber has its turn in such a state, this becomes of it, and it leaves such a
state to the next one. -/
def Subscriber.Fixed (s : Subscriber) (n : Notification) (op : Operation)
    (wait : (World → Bool) → Scheduler World → Scheduler World) (K : Scheduler World → Prop)
    (fate : Fate) : Prop :=
  ∀ q, K q → ∃ q', (s.fate n op).run wait q = (.returned fate, q') ∧
    K ((s.delivery fate).reported op q')

namespace Delivery

/-- However much further it goes, a delivery in turn that no fine subscriber stops comes to the
first thing that goes wrong for any of its subscribers. -/
theorem firstVerdict_survey_of_fixed {stops : Delivery → Bool} {subs : List Subscriber}
    {fate : Subscriber → Fate} {K : Scheduler World → Prop}
    (hstops : ∀ d, stops d = true → d.isFine = false)
    (hfixed : ∀ s ∈ subs, s.Fixed n op wait K (fate s)) (hq : K q) :
    ∃ fates q', (surveyUntil stops n op subs).run wait q = (.returned fates, q') ∧
      firstVerdict (ofFates subs fates) = firstVerdict (subs.map fun s => s.delivery (fate s)) := by
  induction subs generalizing q with
  | nil => exact ⟨[], q, rfl, rfl⟩
  | cons s subs ih =>
    obtain ⟨hs, hsubs⟩ := List.forall_mem_cons.mp hfixed
    obtain ⟨q', hfate, hkept⟩ := hs q hq
    cases hstop : stops (s.delivery (fate s)) with
    | true =>
      -- What stops the delivery has gone wrong, so the other subscribers do not matter.
      refine ⟨[fate s], _, run_surveyUntil_of_stops subs hfate hstop, ?_⟩
      have hfails := hstops _ hstop
      calc firstVerdict (ofFates (s :: subs) [fate s])
          = firstVerdict [s.delivery (fate s)] := by simp [ofFates]
        _ = _ := (firstVerdict_cons_of_not_isFine hfails).symm
    | false =>
      obtain ⟨fates, q'', hrun, hfirst⟩ := ih hsubs hkept
      refine ⟨fate s :: fates, q'', ?_, firstVerdict_cons_congr hfirst⟩
      rw [run_surveyUntil_of_not_stops subs hfate hstop, hrun]
      rfl

theorem fixed_results_agree {subs : List Subscriber} {fate : Subscriber → Fate}
    {K : Scheduler World → Prop} (hfixed : ∀ s ∈ subs, s.Fixed n op wait K (fate s))
    {q₁ q₂ : Scheduler World} (hq₁ : K q₁) (hq₂ : K q₂) :
    ∃ slow fast, ((sequential n op subs).run wait q₁).1 = .returned slow ∧
      ((failFast n op subs).run wait q₂).1 = .returned fast ∧
      (fast = .ok .completed ↔ slow = .ok .completed) ∧
      ∀ report, slow = .ok (.failed (.aggregate report)) →
        ∃ failure, report.failures.head? = some failure ∧
          fast = .ok (.failed (.subscriber failure)) := by
  have hfatal : ∀ d : Delivery, d.fatal?.isSome = true → d.isFine = false := by
    rintro (_ | _) h
    · rfl
    · cases h
  have hfailed : ∀ d : Delivery, (!d.isFine) = true → d.isFine = false := by
    intro d h
    simpa using h
  obtain ⟨slow, q₁', hslow, hfirst⟩ := firstVerdict_survey_of_fixed hfatal hfixed hq₁
  obtain ⟨fast, q₂', hfast, hfast_first⟩ := firstVerdict_survey_of_fixed hfailed hfixed hq₂
  refine ⟨verdict subs.length (ofFates subs slow), firstVerdict (ofFates subs fast), ?_, ?_, ?_⟩
  · rw [sequential_eq, Prog.run_map, hslow]
    rfl
  · rw [failFast_eq, Prog.run_map, hfast]
    rfl
  · rw [hfast_first, ← hfirst]
    exact ⟨firstVerdict_eq_completed_iff, fun report => firstVerdict_of_aggregate⟩

-- ---------------------------------------------------------------------------
-- Fast delivery
-- ---------------------------------------------------------------------------

theorem firstVerdict_of_error {t : Turn} {e : Error} (h : t.fate.error? = some e) :
    (∃ kind, t.fate.fatalKind? = some kind ∧ firstVerdict [t.delivery] = .error ⟨kind, e⟩) ∨
      (t.fate.fatalKind? = none ∧
        firstVerdict [t.delivery] = .ok (.failed (.subscriber ⟨t.subscriber.name, e⟩))) := by
  rw [Turn.delivery]
  cases hkind : t.fate.fatalKind? with
  | some kind =>
    rw [Subscriber.delivery_of_fatalKind?_some hkind h]
    exact .inl ⟨kind, rfl, rfl⟩
  | none =>
    rw [Subscriber.delivery_of_fatalKind?_none hkind h]
    exact .inr ⟨rfl, rfl⟩

theorem exists_error_of_stops {t : Turn} (h : (!t.delivery.isFine) = true) :
    ∃ e, t.fate.error? = some e := by
  cases he : t.fate.error? with
  | some e => exact ⟨e, rfl⟩
  | none =>
    rw [Turn.delivery, Subscriber.delivery_of_error?_none he] at h
    cases h

theorem fate_of_not_stops {t : Turn} (h : (!t.delivery.isFine) = false) :
    t.fate = .ok (.ok ()) :=
  Subscriber.delivery_eq_fine_iff.mp (not_isFine_eq_false_iff.mp h)

theorem firstVerdict_of_not_stops (ds : List Delivery) {turns : List Turn}
    (h : ∀ t ∈ turns, (!t.delivery.isFine) = false) :
    firstVerdict (turns.map Turn.delivery ++ ds) = firstVerdict ds :=
  firstVerdict_append (List.forall_mem_map.mpr fun t ht => not_isFine_eq_false_iff.mp (h t ht))

/-- A fast delivery gives its subscribers their turns in the order of registration, up to the first
one that fails. It succeeds if there is none, ends fatally with the error of a fatal one, and is
failed with that of any other. For subscribers that always end in the same way it succeeds just if a
sequential delivery does, and where that one reports several failures it fails with the first. -/
theorem failFast_stops_at_first_failure
    (wait : (World → Bool) → Scheduler World → Scheduler World) {subs : List Subscriber}
    (h : ∀ s ∈ subs, ∀ payload, ¬s.Raises n op payload) :
    (∀ q, let delivered := (failFast n op subs).run wait q
      ∃ (turns : List Turn) (rest : List Subscriber) (q₁ : Scheduler World),
        subs = turns.map Turn.subscriber ++ rest ∧ Turn.Successive wait n op q turns q₁ ∧
        ((rest = [] ∧ (∀ t ∈ turns, t.fate = .ok (.ok ())) ∧
            delivered = (.returned (.ok .completed), q₁)) ∨
          (∃ before t e, turns = before ++ [t] ∧ (∀ u ∈ before, u.fate = .ok (.ok ())) ∧
            t.fate.error? = some e ∧
            ((∃ kind, t.fate.fatalKind? = some kind ∧
                delivered = (.returned (.error ⟨kind, e⟩), q₁)) ∨
              (t.fate.fatalKind? = none ∧ delivered =
                (.returned (.ok (.failed (.subscriber ⟨t.subscriber.name, e⟩))), q₁)))) ∨
          ∃ s after q₂, rest = s :: after ∧ (∀ t ∈ turns, t.fate = .ok (.ok ())) ∧
            (s.fate n op).run wait q₁ = (.stalled, q₂) ∧ delivered = (.stalled, q₂))) ∧
    ∀ (fate : Subscriber → Fate) (K : Scheduler World → Prop),
      (∀ s ∈ subs, s.Fixed n op wait K (fate s)) → ∀ q₁ q₂, K q₁ → K q₂ →
        ∃ slow fast, ((sequential n op subs).run wait q₁).1 = .returned slow ∧
          ((failFast n op subs).run wait q₂).1 = .returned fast ∧
          (fast = .ok .completed ↔ slow = .ok .completed) ∧
          ∀ report, slow = .ok (.failed (.aggregate report)) →
            ∃ failure, report.failures.head? = some failure ∧
              fast = .ok (.failed (.subscriber failure)) := by
  refine ⟨?_, fun _ _ hfixed _ _ => fixed_results_agree hfixed⟩
  intro q delivered
  obtain ⟨turns, rest, q₁, hsplit, hturns, hends⟩ := run_inTurn (failFast_eq n op subs) wait h q
  refine ⟨turns, rest, q₁, hsplit, hturns, ?_⟩
  obtain ⟨rfl, hgoes, hrun⟩ | ⟨before, t, rfl, hgoes, ht, hrun⟩ |
    ⟨s, after, q₂, hrest, hgoes, hstalled, hrun⟩ := hends
  · have hfirst := firstVerdict_of_not_stops [] hgoes
    rw [List.append_nil] at hfirst
    rw [hfirst] at hrun
    exact .inl ⟨rfl, fun t ht => fate_of_not_stops (hgoes t ht), hrun⟩
  · obtain ⟨e, he⟩ := exists_error_of_stops ht
    refine .inr (.inl ⟨before, t, e, rfl, fun u hu => fate_of_not_stops (hgoes u hu), he, ?_⟩)
    rw [List.map_append, List.map_singleton, firstVerdict_of_not_stops [t.delivery] hgoes] at hrun
    obtain ⟨kind, hkind, hfirst⟩ | ⟨hkind, hfirst⟩ := firstVerdict_of_error he <;>
      rw [hfirst] at hrun
    · exact .inl ⟨kind, hkind, hrun⟩
    · exact .inr ⟨hkind, hrun⟩
  · exact .inr (.inr ⟨s, after, q₂, hrest, fun t ht => fate_of_not_stops (hgoes t ht), hstalled,
      hrun⟩)

/-- The second of three subscribers panics and the third one fails. -/
theorem second_of_three_fails :
    let n : Notification := ⟨⟨⟨0⟩, "Paid", none⟩, .null⟩
    let op : Operation := .anonymous .development ⟨0⟩
    let ledger : Subscriber := ⟨"ledger", fun _ _ => Call.pure (.done (.ok ()))⟩
    let mailer : Subscriber := ⟨"mailer", fun _ _ => Call.pure (.panic (.fixed "no connection"))⟩
    let guardian : Subscriber :=
      ⟨"guardian", fun _ _ => Call.pure (.done (.error (.message "no funds")))⟩
    let subs := [ledger, mailer, guardian]
    let panicked : SubscriberFailure := ⟨"mailer", .panicked ⟨"no connection"⟩⟩
    ∃ before t rest q₁, subs = (before ++ [t]).map Turn.subscriber ++ rest ∧
      Turn.Successive Scheduler.alone n op (.start .empty) (before ++ [t]) q₁ ∧
      (∀ u ∈ before, u.fate = .ok (.ok ())) ∧ t.subscriber.name = "mailer" ∧
      (failFast n op subs).run Scheduler.alone (.start .empty) =
        (.returned (.ok (.failed (.subscriber panicked))), q₁) ∧
      ∃ failure, [panicked, ⟨"guardian", .message "no funds"⟩].head? = some failure ∧
        ((failFast n op subs).run Scheduler.alone (.start .empty)).1 =
          .returned (.ok (.failed (.subscriber failure))) := by
  intro n op ledger mailer guardian subs panicked
  have hraises : ∀ s ∈ subs, ∀ payload, ¬s.Raises n op payload := by
    rintro s hs payload ⟨w, hw⟩
    simp only [subs, List.mem_cons, List.not_mem_nil, or_false] at hs
    rcases hs with rfl | rfl | rfl <;> cases hw
  obtain ⟨hturns, hagree⟩ := failFast_stops_at_first_failure Scheduler.alone hraises
  -- What becomes of each of them, by its name.
  let fate (s : Subscriber) : Fate :=
    if s.name = "ledger" then .ok (.ok ())
    else if s.name = "mailer" then .error (.fixed "no connection")
    else .ok (.error (.message "no funds"))
  have hfixed : ∀ s ∈ subs, s.Fixed n op Scheduler.alone (fun _ => True) (fate s) := by
    intro s hs q _
    simp only [subs, List.mem_cons, List.not_mem_nil, or_false] at hs
    rcases hs with rfl | rfl | rfl <;> exact ⟨_, rfl, trivial⟩
  obtain ⟨slow, fast, hslow, hfast, -, hfirst⟩ :=
    hagree fate (fun _ => True) hfixed (.start .empty) (.start .empty) trivial trivial
  obtain ⟨failure, hhead, hfailure⟩ :
      ∃ failure, [panicked, ⟨"guardian", .message "no funds"⟩].head? = some failure ∧
        fast = .ok (.failed (.subscriber failure)) := by
    cases hslow
    exact hfirst _ rfl
  obtain ⟨turns, rest, q₁, hsplit, hsuccessive, hends⟩ := hturns (.start .empty)
  obtain ⟨-, -, hrun⟩ | ⟨before, t, e, rfl, hbefore, he, hend⟩ | ⟨_, _, _, -, -, -, hrun⟩ := hends
  · cases congrArg Prod.fst hrun
  · obtain ⟨_, -, hrun⟩ | ⟨-, hrun⟩ := hend
    · cases congrArg Prod.fst hrun
    · obtain ⟨hreturned, hleft⟩ := Prod.ext_iff.mp hrun
      have hfailed : Ending.returned (Except.ok (Outcome.failed (.subscriber panicked))) =
        .returned (.ok (.failed (.subscriber ⟨t.subscriber.name, e⟩))) := hreturned
      obtain ⟨hname, -⟩ : t.subscriber.name = "mailer" ∧ e = .panicked ⟨"no connection"⟩ := by
        simpa [panicked, Outcome.failed, Shared.new, eq_comm] using hfailed
      exact ⟨before, t, rest, q₁, hsplit, hsuccessive, hbefore, hname, Prod.ext rfl hleft, failure,
        hhead, by rw [hfast, hfailure]⟩
  · cases congrArg Prod.fst hrun

end Delivery

end Mediator
