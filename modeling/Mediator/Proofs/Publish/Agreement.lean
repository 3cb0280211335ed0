import Mediator.Proofs.Prog.Together
import Mediator.Proofs.Publish.Fates

/-!
# Parallel delivery against delivery in turn

Where the fates of the subscribers do not depend on each other, it makes no difference to the result
whether a notification is delivered to all together or in turn. What differs is who has run in the
end: all of them (`run_survey_parallel`), or those up to the first one that ended fatally
(`run_survey_sequential`).
-/

namespace Mediator

/-- A subscriber, the part of the world that its fate depends on, and what becomes of both when that
part is as it is at the start. -/
structure Participant where
  subscriber : Subscriber
  Own : Type
  part : World → Own
  /-- Reports are no part of it. -/
  part_emit : ∀ w spans e, part (w.emit spans e) = part w
  start : Own
  fate : Fate
  final : Own

namespace Participant

variable {env : Setting World} {n : Notification} {op : Operation}

def worker (n : Notification) (op : Operation) (m : Participant) : Worker World Fate :=
  ⟨m.subscriber.fate n op, m.Own, m.part, m.start, m.fate, m.final⟩

def observer (n : Notification) (op : Operation) (m : Participant) : Worker World Fate :=
  { m.worker n op with program := m.subscriber.observe n op }

def delivery (m : Participant) : Delivery := m.subscriber.delivery m.fate

def isFatal (m : Participant) : Bool := m.delivery.fatal?.isSome

-- ---------------------------------------------------------------------------
-- Reports
-- ---------------------------------------------------------------------------

theorem keeps_iff {ms : List Participant} {s s' : World} :
    env.Keeps (ms.map (observer n op)) s s' ↔
      env.steps s s' ∧ ∀ m ∈ ms, m.part s' = m.part s := by
  simp only [Setting.Keeps, List.forall_mem_map]
  rfl

theorem keeps_workers_iff {ms : List Participant} {s s' : World} :
    env.Keeps (ms.map (worker n op)) s s' ↔ env.Keeps (ms.map (observer n op)) s s' := by
  simp only [Setting.Keeps, List.forall_mem_map]
  rfl

theorem keeps_emit (hemit : ∀ w spans e, env.steps w (w.emit spans e)) (ms : List Participant)
    (w : World) (spans : List Span) (e : Event) :
    env.Keeps (ms.map (observer n op)) w (w.emit spans e) :=
  ⟨hemit w spans e, List.forall_mem_map.mpr fun m _ => m.part_emit w spans e⟩

theorem meets_report (hemit : ∀ w spans e, env.steps w (w.emit spans e)) (m : Participant)
    (others : List Participant) (rely : World → World → Prop) (d : Delivery) {s : World}
    (h : m.part s = m.final) :
    (Subscriber.report op d).Meets env rely (env.Keeps (others.map (observer n op)))
      (fun _ s => m.part s = m.final) s := by
  match d with
  | .error _ => exact h
  | .ok (.ok ()) => exact h
  | .ok (.error failure) => exact ⟨keeps_emit hemit others s _ _, (m.part_emit s _ _).trans h⟩

theorem independent_observers (hemit : ∀ w spans e, env.steps w (w.emit spans e))
    {ms : List Participant} (h : Worker.Independent env (ms.map (worker n op))) :
    Worker.Independent env (ms.map (observer n op)) := by
  rw [Worker.independent_map_iff] at h ⊢
  intro before m after heq s hs
  have hminds := h before m after heq s hs
  have hfate : (m.subscriber.fate n op).Meets env (env.Keeps [m.observer n op])
      (env.Keeps ((before ++ after).map (observer n op)))
      (fun fate s => fate = m.fate ∧ m.part s = m.final) s :=
    hminds.mono (fun s s' (h : env.Keeps ([m].map (observer n op)) s s') =>
      keeps_workers_iff.mpr h) (fun _ _ h => keeps_workers_iff.mp h) fun _ _ h => h
  refine hfate.bind ?_
  rintro fate s ⟨rfl, hfinal⟩
  exact (meets_report hemit m _ _ _ hfinal).bind fun _ _ h => ⟨rfl, h⟩

-- ---------------------------------------------------------------------------
-- Who is reached in turn
-- ---------------------------------------------------------------------------

/-- Up to the first participant that ends fatally. -/
def reached : List Participant → List Participant
  | [] => []
  | m :: rest => if m.isFatal then [m] else m :: reached rest

def skipped : List Participant → List Participant
  | [] => []
  | m :: rest => if m.isFatal then rest else skipped rest

theorem reached_append_skipped (ms : List Participant) : reached ms ++ skipped ms = ms := by
  induction ms with
  | nil => rfl
  | cons m ms ih =>
    cases h : m.isFatal with
    | true => simp [reached, skipped, h]
    | false => simpa [reached, skipped, h] using ih

theorem ofFates_all (ms : List Participant) :
    Delivery.ofFates (ms.map subscriber) (ms.map fate) = ms.map delivery := by
  simp [Delivery.ofFates, List.zipWith_map, delivery, List.zipWith_self]

theorem ofFates_reached (ms : List Participant) :
    Delivery.ofFates (ms.map subscriber) ((reached ms).map fate) = (reached ms).map delivery := by
  induction ms with
  | nil => rfl
  | cons m ms ih =>
    cases h : m.isFatal with
    | true => simp [reached, h, Delivery.ofFates, delivery]
    | false => simpa [reached, h, Delivery.ofFates, delivery] using ih

/-- Those who are not reached have no say. -/
theorem gather_reached (ms : List Participant) :
    gather ((reached ms).map delivery) = gather (ms.map delivery) := by
  induction ms with
  | nil => rfl
  | cons m ms ih =>
    match h : m.delivery with
    | .error f => simp [reached, isFatal, h, Delivery.fatal?, gather]
    | .ok (.ok ()) => simpa [reached, isFatal, h, Delivery.fatal?, gather] using ih
    | .ok (.error failure) => simp [reached, isFatal, h, Delivery.fatal?, gather, ih]

theorem verdict_reached (attempted : Nat) (ms : List Participant) :
    Delivery.verdict attempted ((reached ms).map delivery)
      = Delivery.verdict attempted (ms.map delivery) := by
  simp only [← Delivery.map_summarize_gather, gather_reached]

variable {before ms : List Participant} {s : World}

theorem meets_observe {m : Participant}
    (h : Worker.Independent env ((before ++ m :: ms).map (observer n op)))
    (hs : ∀ o ∈ m :: ms, o.part s = o.start) :
    (m.subscriber.observe n op).Meets env (env.Keeps ((m :: ms).map (observer n op)))
      (env.Keeps (before.map (observer n op)))
      (fun fate s => (fate = m.fate ∧ m.part s = m.final) ∧ ∀ o ∈ ms, o.part s = o.start) s := by
  obtain ⟨hstart, hstarts⟩ := List.forall_mem_cons.mp hs
  have hminds : (m.observer n op).Minds env ((before ++ ms).map (observer n op)) :=
    Worker.independent_map_iff.mp h before m ms rfl
  refine (hminds s hstart).frame (fun s => ∀ o ∈ ms, o.part s = o.start) ?_ ?_ hstarts ?_ ?_
    fun _ _ h hkept => ⟨h, hkept⟩
  · exact fun s s' h => Worker.keeps_mono h (by simp)
  · exact fun s s' h => Worker.keeps_mono h (List.map_subset _ (by simp))
  · exact fun s s' h hkept o ho => ((keeps_iff.mp h).2 o (by simp [ho])).trans (hkept o ho)
  · exact fun s s' h hkept o ho => ((keeps_iff.mp h).2 o (by simp [ho])).trans (hkept o ho)

theorem meets_others {α : Type} {p : Action α} {post : α → World → Prop} {m : Participant}
    (h : p.Meets env (env.Keeps (ms.map (observer n op)))
      (env.Keeps ((before ++ [m]).map (observer n op))) post s)
    (hfinal : m.part s = m.final) :
    p.Meets env (env.Keeps ((m :: ms).map (observer n op)))
      (env.Keeps (before.map (observer n op))) (fun a s => post a s ∧ m.part s = m.final) s := by
  refine h.frame (fun s => m.part s = m.final) ?_ ?_ hfinal ?_ ?_ fun _ _ h hkept => ⟨h, hkept⟩
  · exact fun s s' h => Worker.keeps_mono h (List.map_subset _ (by simp))
  · exact fun s s' h => Worker.keeps_mono h (List.map_subset _ (by simp))
  · exact fun s s' h hkept => ((keeps_iff.mp h).2 m (by simp)).trans hkept
  · exact fun s s' h hkept => ((keeps_iff.mp h).2 m (by simp)).trans hkept

theorem meets_surveyUntil (h : Worker.Independent env ((before ++ ms).map (observer n op)))
    (hs : ∀ m ∈ ms, m.part s = m.start) :
    (Delivery.surveyUntil (·.fatal?.isSome) n op (ms.map subscriber)).Meets env
      (env.Keeps (ms.map (observer n op))) (env.Keeps (before.map (observer n op)))
      (fun fates s => fates = (reached ms).map fate ∧ (∀ m ∈ reached ms, m.part s = m.final) ∧
        ∀ m ∈ skipped ms, m.part s = m.start) s := by
  induction ms generalizing before s with
  | nil => exact ⟨rfl, nofun, nofun⟩
  | cons m ms ih =>
    refine (meets_observe h hs).bind ?_
    rintro fate s ⟨⟨rfl, hfinal⟩, hstarts⟩
    cases hfatal : m.isFatal with
    | true =>
      have hstops : (m.subscriber.delivery m.fate).fatal?.isSome = true := hfatal
      simpa [hstops, reached, skipped, hfatal, Prog.Meets] using ⟨hfinal, hstarts⟩
    | false =>
      have hstops : (m.subscriber.delivery m.fate).fatal?.isSome = false := hfatal
      have hothers : Worker.Independent env (((before ++ [m]) ++ ms).map (observer n op)) := by
        simpa using h
      have hrest := ih hothers hstarts
      simp only [hstops, Bool.false_eq_true, if_false]
      refine (meets_others hrest hfinal).bind ?_
      rintro fates s ⟨⟨rfl, hfinals, hskipped⟩, hfinal⟩
      simpa [reached, skipped, hfatal, Prog.Meets] using ⟨⟨hfinal, hfinals⟩, hskipped⟩

-- ---------------------------------------------------------------------------
-- Deliveries
-- ---------------------------------------------------------------------------

/-- A delivery to these participants may begin: while it waits their parts are kept, and they are
as at the start. -/
structure Ready (env : Setting World) (n : Notification) (op : Operation) (ms : List Participant)
    (wait : (World → Bool) → Scheduler World → Scheduler World) (q : Scheduler World) : Prop where
  serves : env.Serves (env.Keeps (ms.map (worker n op))) wait
  tasks : ∀ t ∈ q.tasks, env.starts t
  start : ∀ m ∈ ms, m.part q.state = m.start

variable {wait wait₁ wait₂ : (World → Bool) → Scheduler World → Scheduler World}
  {q q₁ q₂ : Scheduler World}

theorem Ready.serves_observers (h : Ready env n op ms wait q) :
    env.Serves (env.Keeps (ms.map (observer n op))) wait := by
  intro ready q htasks
  obtain ⟨hkeeps, hrest⟩ := h.serves ready q htasks
  exact ⟨keeps_workers_iff.mp hkeeps, hrest⟩

theorem run_survey_parallel (hemit : ∀ w spans e, env.steps w (w.emit spans e))
    (hind : Worker.Independent env (ms.map (worker n op))) (h : Ready env n op ms wait q) :
    ∃ q', (Delivery.survey .parallel n op (ms.map subscriber)).run wait q
        = (.returned (ms.map fate), q') ∧ ∀ m ∈ ms, m.part q'.state = m.final := by
  have hmeets := Worker.meets_joinAll env [] (ms.map (observer n op))
    (independent_observers hemit hind) q.state (List.forall_mem_map.mpr h.start)
  obtain ⟨fates, q', hrun, hfates, hfinals⟩ := hmeets.run h.serves_observers h.tasks
  simp only [List.map_map] at hrun hfates
  refine ⟨q', ?_, List.forall_mem_map.mp hfinals⟩
  rw [Delivery.survey, List.map_map]
  exact hrun.trans (by rw [hfates]; rfl)

theorem run_survey_sequential (hemit : ∀ w spans e, env.steps w (w.emit spans e))
    (hind : Worker.Independent env (ms.map (worker n op))) (h : Ready env n op ms wait q) :
    ∃ q', (Delivery.survey .sequential n op (ms.map subscriber)).run wait q
        = (.returned ((reached ms).map fate), q') ∧
      (∀ m ∈ reached ms, m.part q'.state = m.final) ∧
      ∀ m ∈ skipped ms, m.part q'.state = m.start := by
  have hall : Worker.Independent env (([] ++ ms).map (observer n op)) :=
    independent_observers hemit hind
  have hmeets := meets_surveyUntil hall h.start
  obtain ⟨fates, q', hrun, rfl, hends⟩ := hmeets.run h.serves_observers h.tasks
  exact ⟨q', hrun, hends⟩

/-- Delivering to all together and delivering in turn return the same, whoever gives way how often
and ends when. With no failure that is a success; the first fatal error in the order of registration
if there is one; and else all failures in that order. In the end all participants have run, or in
turn those up to the first one that ended fatally. -/
theorem parallel_agrees_with_sequential (hemit : ∀ w spans e, env.steps w (w.emit spans e))
    (hind : Worker.Independent env (ms.map (worker n op)))
    (h₁ : Ready env n op ms wait₁ q₁) (h₂ : Ready env n op ms wait₂ q₂) :
    ∃ result q₁' q₂',
      (Delivery.parallel n op (ms.map subscriber)).run wait₁ q₁ = (.returned result, q₁') ∧
      (Delivery.sequential n op (ms.map subscriber)).run wait₂ q₂ = (.returned result, q₂') ∧
      ((∀ m ∈ ms, m.fate = .ok (.ok ())) → result = .ok .completed) ∧
      (∀ before m after f, ms = before ++ m :: after →
        (∀ o ∈ before, o.delivery.fatal? = none) → m.delivery = .error f → result = .error f) ∧
      ((∀ m ∈ ms, m.delivery.fatal? = none) → (∃ m ∈ ms, m.fate ≠ .ok (.ok ())) →
        result = .ok (.failed (.aggregate
          ⟨ms.length, ms.filterMap fun m => m.delivery.failure?⟩))) ∧
      ((Delivery.survey .parallel n op (ms.map subscriber)).run wait₁ q₁
          = (.returned (ms.map fate), q₁') ∧
        ∀ m ∈ ms, m.part q₁'.state = m.final) ∧
      (reached ms ++ skipped ms = ms ∧
        (Delivery.survey .sequential n op (ms.map subscriber)).run wait₂ q₂
          = (.returned ((reached ms).map fate), q₂') ∧
        (∀ m ∈ reached ms, m.part q₂'.state = m.final) ∧
        ∀ m ∈ skipped ms, m.part q₂'.state = m.start) := by
  obtain ⟨q₁', hrun₁, hends₁⟩ := run_survey_parallel hemit hind h₁
  obtain ⟨q₂', hrun₂, hends₂⟩ := run_survey_sequential hemit hind h₂
  refine ⟨Delivery.verdict ms.length (ms.map delivery), q₁', q₂', ?_, ?_, fun hfine => ?_, ?_,
    fun hall hsome => ?_, ⟨hrun₁, hends₁⟩, ⟨reached_append_skipped ms, hrun₂, hends₂⟩⟩
  · have hwaits : Strategy.parallel ≠ .fireAndForget := by decide
    show (Delivery.run .parallel n op (ms.map subscriber)).run wait₁ q₁ = _
    rw [Delivery.run_eq hwaits, Prog.run_map, hrun₁]
    simp [Ending.map, Delivery.result, ofFates_all]
  · have hwaits : Strategy.sequential ≠ .fireAndForget := by decide
    show (Delivery.run .sequential n op (ms.map subscriber)).run wait₂ q₂ = _
    rw [Delivery.run_eq hwaits, Prog.run_map, hrun₂]
    simp [Ending.map, Delivery.result, ofFates_reached, verdict_reached]
  · exact Delivery.verdict_of_fine (List.forall_mem_map.mpr fun m hm =>
      Subscriber.delivery_eq_fine_iff.mpr (hfine m hm)) _
  · rintro before m after f rfl hbefore hm
    rw [List.map_append, List.map_cons, hm]
    exact Delivery.verdict_of_fatal (List.forall_mem_map.mpr hbefore) _
  · obtain ⟨m, hm, hfate⟩ := hsome
    obtain ⟨failure, hfailure⟩ := Delivery.exists_failure (hall m hm)
      (mt Subscriber.delivery_eq_fine_iff.mp hfate)
    have hne : (ms.map delivery).filterMap Delivery.failure? ≠ [] :=
      List.ne_nil_of_mem (List.mem_filterMap.mpr ⟨_, List.mem_map_of_mem hm, hfailure⟩)
    rw [Delivery.verdict_of_failures (List.forall_mem_map.mpr hall) hne, List.filterMap_map]
    rfl

-- ---------------------------------------------------------------------------
-- Visitors
-- ---------------------------------------------------------------------------

def visitor (name : String) (i turns : Nat) (fate : Fate) : Participant where
  subscriber := ⟨name, fun _ _ => Call.pure do
    .modify (·.count i)
    .turns turns
    match fate with
    | .ok result => return result
    | .error payload => .panic payload⟩
  Own := Nat
  part w := w.tally i
  part_emit w spans e := by
    unfold World.emit
    split
    · rfl
    · split <;> rfl
  start := 0
  fate
  final := 1

theorem meets_turns {α : Type} {p : Action α} {rely guar : World → World → Prop}
    {post : Except Panic α → World → Prop} (keeps : World → Prop)
    (hrely : ∀ s s', rely s s' → keeps s → keeps s')
    (hp : ∀ s, keeps s → p.attempt.Meets (.turns World) rely guar post s) (turns : Nat)
    (hs : keeps s) :
    ((Prog.turns turns).bind fun _ => p).attempt.Meets (.turns World) rely guar post s := by
  induction turns generalizing s with
  | zero => exact hp s hs
  | succ turns ih => exact ⟨fun _ => rfl, fun s' hs' _ => ih (hrely s s' hs' hs)⟩

theorem minds_visitor (name : String) (i turns : Nat) (fate : Fate)
    {others : List (Worker World Fate)} (h : ∀ w ∈ others, ∀ s, w.part (s.count i) = w.part s) :
    ((visitor name i turns fate).worker n op).Minds (.turns World) others := by
  intro s (hs : s.tally i = 0)
  have hcounted : (s.count i).tally i = 1 := by simp [World.count, hs]
  have hothers : (Setting.turns World).Keeps others s (s.count i) :=
    ⟨trivial, fun w hw => h w hw s⟩
  refine ⟨Worker.keeps_refl s, hothers,
    meets_turns (fun w => w.tally i = 1) ?_ ?_ turns hcounted⟩
  · intro s s' hs' hs
    exact (hs'.2 _ List.mem_cons_self).trans hs
  · intro s hs
    cases fate with
    | ok result => exact ⟨rfl, hs⟩
    | error payload => exact ⟨rfl, hs⟩

theorem independent_visitors (name : Nat → String) (turns : Nat → Nat) (fate : Nat → Fate)
    {is : List Nat} (h : is.Nodup) :
    Worker.Independent (.turns World)
      ((is.map fun i => visitor (name i) i (turns i) (fate i)).map (worker n op)) := by
  rw [List.map_map, Worker.independent_map_iff]
  rintro before i after rfl
  refine minds_visitor _ i _ _ (List.forall_mem_map.mpr fun j hj w => ?_)
  have hne : j ≠ i := by
    rintro rfl
    exact (List.nodup_cons.mp (List.perm_middle.nodup_iff.mp h)).1 hj
  simp [visitor, worker, World.count, hne]

theorem tally_of_mem_idle {ready : World → Bool} {w w' : World} (h : w' ∈ w.idle ready) :
    w'.tally = w.tally := by
  unfold World.idle at h
  generalize w.alarms.mergeSort _ = ts at h
  induction ts generalizing w with
  | nil => cases h
  | cons t ts ih =>
    simp only [World.idleThrough] at h
    split at h
    · cases h
    · obtain rfl | h := List.mem_cons.mp h
      · rfl
      · exact (ih h).trans rfl

theorem visitors_ready (name : Nat → String) (turns : Nat → Nat) (fate : Nat → Fate)
    (is : List Nat) :
    Ready (.turns World) n op (is.map fun i => visitor (name i) i (turns i) (fate i))
      (fun ready q => q.attend World.idle ready) (.start .empty) where
  serves := by
    refine Setting.turns_serves_attend Worker.keeps_refl fun ready s s' hs' => ⟨trivial, ?_⟩
    simp only [List.forall_mem_map]
    intro i _
    exact congrFun (tally_of_mem_idle hs') i
  tasks := nofun
  start := List.forall_mem_map.mpr fun _ _ => rfl

/-- Three visitors, of which the first one panics and ends last and the second one is canceled. -/
theorem three_visitors_agree :
    let n : Notification := ⟨⟨⟨0⟩, "Paid", none⟩, .null⟩
    let op : Operation := .anonymous .development ⟨0⟩
    let fate : Nat → Fate
      | 0 => .error (.fixed "no connection")
      | 1 => .ok (.error .canceled)
      | _ => .ok (.ok ())
    let ms := [0, 1, 2].map fun i => visitor "visitor" i (2 - i) (fate i)
    let wait (ready : World → Bool) (q : Scheduler World) := q.attend World.idle ready
    ∃ q₁ q₂,
      (Delivery.parallel n op (ms.map subscriber)).run wait (.start .empty)
        = (.returned (.error .canceled), q₁) ∧
      (Delivery.sequential n op (ms.map subscriber)).run wait (.start .empty)
        = (.returned (.error .canceled), q₂) ∧
      q₁.state.tally 2 = 1 ∧ q₂.state.tally 2 = 0 := by
  intro n op fate ms wait
  have hready : Ready (.turns World) n op ms wait (.start .empty) := visitors_ready _ _ fate _
  have hind : Worker.Independent (.turns World) (ms.map (worker n op)) :=
    independent_visitors _ _ fate (by decide)
  obtain ⟨result, q₁, q₂, h₁, h₂, -, hfatal, -, ⟨-, hends⟩, -, -, -, hskipped⟩ :=
    parallel_agrees_with_sequential (fun _ _ _ => trivial) hind hready hready
  obtain rfl : result = .error .canceled :=
    hfatal [visitor "visitor" 0 2 (fate 0)] (visitor "visitor" 1 1 (fate 1))
      [visitor "visitor" 2 0 (fate 2)] .canceled rfl (List.forall_mem_singleton.mpr rfl) rfl
  refine ⟨q₁, q₂, h₁, h₂, ?_, ?_⟩
  · exact hends (visitor "visitor" 2 0 (fate 2)) (by simp [ms])
  · exact hskipped (visitor "visitor" 2 0 (fate 2)) List.mem_cons_self

end Participant

end Mediator
