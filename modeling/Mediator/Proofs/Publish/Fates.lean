import Mediator.Proofs.Prog.Join
import Mediator.Publish

/-!
# What becomes of subscribers

The program of a subscriber ends with a result or in a panic: its *fate*. A delivery that waits for
its subscribers observes their fates, one after the other (`surveyUntil`) or all together, and reads
its result off those that it has observed (`sequential_eq`, `failFast_eq`, `parallel_eq`). So there
are two things to say about such a delivery, which fates it observes and what they come to, and the
second one is about lists only.
-/

namespace Mediator

/-- How the program of a subscriber ended: with its result, or in a panic. -/
abbrev Fate : Type := Except Panic (Except Error Unit)

-- ---------------------------------------------------------------------------
-- One subscriber
-- ---------------------------------------------------------------------------

namespace Subscriber

def delivery (s : Subscriber) : Fate → Delivery
  | .ok (.ok ()) => .ok (.ok ())
  | .ok (.error e) =>
    match e.classify with
    | .ok e => .ok (.error ⟨s.name, e⟩)
    | .error fatal => .error fatal
  | .error payload => .ok (.error ⟨s.name, .panicked (.of payload)⟩)

def fate (s : Subscriber) (n : Notification) (op : Operation) : Action Fate := do
  let program ← .call (s.handle n op)
  program.attempt

def report (op : Operation) : Delivery → Action Unit
  | .ok (.error failure) =>
    .emit op.spans (.debug "subscriber failed"
      [("subscriber", failure.subscriber), ("error", failure.error.text)])
  | _ => return ()

/-- The fate of the subscriber, once it has been reported. -/
def observe (s : Subscriber) (n : Notification) (op : Operation) : Action Fate := do
  let fate ← s.fate n op
  report op (s.delivery fate)
  return fate

@[simp] theorem delivery_panicked (s : Subscriber) (payload : Panic) :
    s.delivery (.error payload) = .ok (.error ⟨s.name, .panicked (.of payload)⟩) := rfl

theorem delivery_eq_fine_iff {s : Subscriber} {fate : Fate} :
    s.delivery fate = .ok (.ok ()) ↔ fate = .ok (.ok ()) := by
  match fate with
  | .ok (.ok ()) => simp [delivery]
  | .ok (.error e) => cases h : e.classify <;> simp [delivery, h]
  | .error payload => simp

theorem invoke_eq (s : Subscriber) (n : Notification) (op : Operation) :
    s.invoke n op = s.delivery <$> s.observe n op := by
  simp only [invoke, observe, fate, Prog.bind_eq, Prog.map_eq, Prog.bind_assoc, Prog.pure_eq,
    Prog.done_bind]
  refine congrArg _ (funext fun program => congrArg _ (funext fun fate => ?_))
  match fate with
  | .ok (.ok ()) => rfl
  | .ok (.error e) =>
    cases h : e.classify with
    | ok e => simp [delivery, h, failWith, report]
    | error fatal => simp [delivery, h, report]
  | .error payload => simp [failWith, report]

end Subscriber

-- ---------------------------------------------------------------------------
-- What deliveries come to
-- ---------------------------------------------------------------------------

namespace Delivery

def fatal? : Delivery → Option Fatal
  | .error fatal => some fatal
  | .ok _ => none

def failure? : Delivery → Option SubscriberFailure
  | .ok (.error failure) => some failure
  | _ => none

def isFine : Delivery → Bool
  | .ok (.ok ()) => true
  | _ => false

theorem exists_failure {d : Delivery} (hfatal : d.fatal? = none) (hfine : d ≠ .ok (.ok ())) :
    ∃ failure, d.failure? = some failure := by
  match d with
  | .error f => cases hfatal
  | .ok (.ok ()) => exact absurd rfl hfine
  | .ok (.error failure) => exact ⟨failure, rfl⟩

/-- The first fatal error, or else the failures in their order. -/
def verdict (attempted : Nat) (ds : List Delivery) : Except Fatal (Outcome Unit) :=
  match ds.findSome? fatal? with
  | some fatal => .error fatal
  | none => .ok (summarize attempted (ds.filterMap failure?))

/-- The first thing that went wrong. -/
def firstVerdict : List Delivery → Except Fatal (Outcome Unit)
  | [] => .ok .completed
  | .error fatal :: _ => .error fatal
  | .ok (.error failure) :: _ => .ok (.failed (.subscriber failure))
  | .ok (.ok ()) :: rest => firstVerdict rest

/-- What the fates of these subscribers count as, as far as they are known. -/
def ofFates (subs : List Subscriber) (fates : List Fate) : List Delivery :=
  List.zipWith Subscriber.delivery subs fates

theorem gather_eq (ds : List Delivery) :
    gather ds = match ds.findSome? fatal? with
      | some fatal => .error fatal
      | none => .ok (ds.filterMap failure?) := by
  induction ds with
  | nil => rfl
  | cons d ds ih =>
    match d with
    | .error fatal => rfl
    | .ok (.ok ()) =>
      simp only [gather, ih, List.findSome?_cons, fatal?, List.filterMap_cons, failure?]
    | .ok (.error failure) =>
      simp only [gather, ih, List.findSome?_cons, fatal?, List.filterMap_cons, failure?]
      cases ds.findSome? fatal? <;> rfl

theorem map_summarize_gather (attempted : Nat) (ds : List Delivery) :
    (gather ds).map (summarize attempted) = verdict attempted ds := by
  rw [gather_eq, verdict]
  cases ds.findSome? fatal? <;> rfl

-- ---------------------------------------------------------------------------
-- Deliveries that wait
-- ---------------------------------------------------------------------------

/-- The fates of the subscribers, one after the other, up to the first one that stops it. -/
def surveyUntil (stops : Delivery → Bool) (n : Notification) (op : Operation) :
    List Subscriber → Action (List Fate)
  | [] => return []
  | s :: rest => do
    let fate ← s.observe n op
    if stops (s.delivery fate) then return [fate]
    else return fate :: (← surveyUntil stops n op rest)

theorem collect_eq (n : Notification) (op : Operation) (subs : List Subscriber) :
    collect n op subs
      = (fun fates => gather (ofFates subs fates)) <$> surveyUntil (·.fatal?.isSome) n op subs := by
  induction subs with
  | nil => rfl
  | cons s rest ih =>
    simp only [collect, surveyUntil, Subscriber.invoke_eq, ih, Prog.bind_eq, Prog.map_eq,
      Prog.bind_assoc, Prog.pure_eq, Prog.done_bind]
    refine congrArg _ (funext fun fate => ?_)
    match h : s.delivery fate with
    | .error fatal => simp [h, fatal?, ofFates, gather]
    | .ok (.ok ()) => simp [h, fatal?, ofFates, gather, Prog.bind_assoc]
    | .ok (.error failure) => simp [h, fatal?, ofFates, gather, Prog.bind_assoc]

theorem sequential_eq (n : Notification) (op : Operation) (subs : List Subscriber) :
    sequential n op subs
      = (fun fates => verdict subs.length (ofFates subs fates)) <$>
          surveyUntil (·.fatal?.isSome) n op subs := by
  simp only [sequential, collect_eq, Prog.bind_eq, Prog.map_eq, Prog.bind_assoc, Prog.pure_eq,
    Prog.done_bind, map_summarize_gather]

theorem failFast_eq (n : Notification) (op : Operation) (subs : List Subscriber) :
    failFast n op subs
      = (fun fates => firstVerdict (ofFates subs fates)) <$>
          surveyUntil (fun d => !d.isFine) n op subs := by
  induction subs with
  | nil => rfl
  | cons s rest ih =>
    simp only [failFast, surveyUntil, Subscriber.invoke_eq, ih, Prog.bind_eq, Prog.map_eq,
      Prog.bind_assoc, Prog.pure_eq, Prog.done_bind]
    refine congrArg _ (funext fun fate => ?_)
    match h : s.delivery fate with
    | .error fatal => simp [h, isFine, ofFates, firstVerdict]
    | .ok (.ok ()) => simp [h, isFine, ofFates, firstVerdict, Prog.bind_assoc]
    | .ok (.error failure) => simp [h, isFine, ofFates, firstVerdict]

theorem parallel_eq (n : Notification) (op : Operation) (subs : List Subscriber) :
    parallel n op subs
      = (fun fates => verdict subs.length (ofFates subs fates)) <$>
          Prog.joinAll (subs.map fun s => s.observe n op) := by
  simp only [parallel, Subscriber.invoke_eq, Prog.joinAll_map]
  simp only [Prog.bind_eq, Prog.map_eq, Prog.bind_assoc, Prog.pure_eq, Prog.done_bind,
    map_summarize_gather, ofFates]

-- ---------------------------------------------------------------------------
-- All strategies that wait
-- ---------------------------------------------------------------------------

/-- The fates that a delivery by this strategy observes. -/
def survey : Strategy → Notification → Operation → List Subscriber → Action (List Fate)
  | .sequential, n, op, subs => surveyUntil (·.fatal?.isSome) n op subs
  | .failFast, n, op, subs => surveyUntil (fun d => !d.isFine) n op subs
  | .parallel, n, op, subs => .joinAll (subs.map fun s => s.observe n op)
  | .fireAndForget, _, _, _ => return []

def result : Strategy → List Subscriber → List Fate → Except Fatal (Outcome Unit)
  | .failFast, subs, fates => firstVerdict (ofFates subs fates)
  | _, subs, fates => verdict subs.length (ofFates subs fates)

theorem run_eq {strategy : Strategy} (h : strategy ≠ .fireAndForget) (n : Notification)
    (op : Operation) (subs : List Subscriber) :
    run strategy n op subs = result strategy subs <$> survey strategy n op subs := by
  cases strategy with
  | sequential => exact sequential_eq n op subs
  | failFast => exact failFast_eq n op subs
  | parallel => exact parallel_eq n op subs
  | fireAndForget => exact absurd rfl h

-- ---------------------------------------------------------------------------
-- Lists of fates
-- ---------------------------------------------------------------------------

theorem mem_ofFates {subs : List Subscriber} {fates : List Fate} {i : Nat} {s : Subscriber}
    {fate : Fate} (hs : subs[i]? = some s) (hfate : fates[i]? = some fate) :
    s.delivery fate ∈ ofFates subs fates := by
  refine List.mem_of_getElem? (i := i) ?_
  simp [ofFates, List.getElem?_zipWith, hs, hfate]

theorem exists_of_mem_ofFates {subs : List Subscriber} {fates : List Fate} {d : Delivery}
    (h : d ∈ ofFates subs fates) :
    ∃ (i : Nat) (s : Subscriber) (fate : Fate),
      subs[i]? = some s ∧ fates[i]? = some fate ∧ s.delivery fate = d := by
  obtain ⟨i, hi⟩ := List.mem_iff_getElem?.mp h
  simp only [ofFates, List.getElem?_zipWith] at hi
  cases hs : subs[i]? with
  | none => simp [hs] at hi
  | some s =>
    cases hfate : fates[i]? with
    | none => simp [hs, hfate] at hi
    | some fate => exact ⟨i, s, fate, hs, hfate, by simpa [hs, hfate] using hi⟩

/-- The fates of the subscribers one after the other, up to the first one that stops it. -/
def Surveyed (stops : Delivery → Bool) : List Subscriber → List Fate → Prop
  | [], fates => fates = []
  | _ :: _, [] => False
  | s :: rest, fate :: fates =>
    if stops (s.delivery fate) then fates = [] else Surveyed stops rest fates

theorem Surveyed.length_eq {stops : Delivery → Bool} {subs : List Subscriber} {fates : List Fate}
    (h : Surveyed stops subs fates) (hall : ∀ d ∈ ofFates subs fates, stops d = false) :
    fates.length = subs.length := by
  induction subs generalizing fates with
  | nil => exact congrArg List.length (show fates = [] from h)
  | cons s rest ih =>
    cases fates with
    | nil => exact h.elim
    | cons fate fates =>
      obtain ⟨hfate, hrest⟩ := List.forall_mem_cons.mp hall
      rw [Surveyed, hfate] at h
      exact congrArg (· + 1) (ih h hrest)

theorem Surveyed.firstVerdict_eq {subs : List Subscriber} {fates : List Fate}
    {failure : SubscriberFailure} (h : Surveyed (fun d => !d.isFine) subs fates)
    (hmem : .ok (.error failure) ∈ ofFates subs fates) :
    firstVerdict (ofFates subs fates) = .ok (.failed (.subscriber failure)) := by
  induction subs generalizing fates with
  | nil => cases hmem
  | cons s rest ih =>
    cases fates with
    | nil => exact h.elim
    | cons fate fates =>
      simp only [ofFates, List.zipWith_cons_cons, List.mem_cons] at hmem ⊢
      match hd : s.delivery fate with
      | .ok (.ok ()) =>
        simp only [Surveyed, hd, isFine, Bool.not_true, Bool.false_eq_true, if_false] at h
        exact ih h (hmem.resolve_left (by simp [hd]))
      | .ok (.error other) =>
        simp only [Surveyed, hd, isFine, Bool.not_false, if_true] at h
        subst h
        have hother : failure = other := by simpa [hd] using hmem
        rw [firstVerdict, hother]
      | .error fatal =>
        simp only [Surveyed, hd, isFine, Bool.not_false, if_true] at h
        subst h
        simp [hd] at hmem

/-- What a delivery by this strategy may observe. -/
def Observable : Strategy → List Subscriber → List Fate → Prop
  | .sequential, subs, fates => Surveyed (·.fatal?.isSome) subs fates
  | .failFast, subs, fates => Surveyed (fun d => !d.isFine) subs fates
  | .parallel, subs, fates => fates.length = subs.length
  | .fireAndForget, _, fates => fates = []

theorem Observable.length_eq {strategy : Strategy} {subs : List Subscriber} {fates : List Fate}
    (h : Observable strategy subs fates) (hfast : strategy ≠ .failFast)
    (hwaits : strategy ≠ .fireAndForget) (hall : ∀ d ∈ ofFates subs fates, d.fatal? = none) :
    fates.length = subs.length := by
  cases strategy with
  | sequential => exact Surveyed.length_eq h fun d hd => by simp [hall d hd]
  | failFast => exact absurd rfl hfast
  | parallel => exact h
  | fireAndForget => exact absurd rfl hwaits

-- ---------------------------------------------------------------------------
-- Verdicts
-- ---------------------------------------------------------------------------

theorem verdict_of_fine {ds : List Delivery} (h : ∀ d ∈ ds, d = .ok (.ok ())) (attempted : Nat) :
    verdict attempted ds = .ok .completed := by
  have hfatal : ds.findSome? fatal? = none :=
    List.findSome?_eq_none_iff.mpr fun d hd => by rw [h d hd]; rfl
  have hfailures : ds.filterMap failure? = [] :=
    List.filterMap_eq_nil_iff.mpr fun d hd => by rw [h d hd]; rfl
  rw [verdict, hfatal, hfailures]
  rfl

theorem verdict_of_fatal {before after : List Delivery} {f : Fatal}
    (h : ∀ d ∈ before, d.fatal? = none) (attempted : Nat) :
    verdict attempted (before ++ .error f :: after) = .error f := by
  have hfatal : (before ++ .error f :: after).findSome? fatal? = some f := by
    rw [List.findSome?_append, List.findSome?_eq_none_iff.mpr h]
    rfl
  rw [verdict, hfatal]

theorem verdict_of_failures {ds : List Delivery} (h : ∀ d ∈ ds, d.fatal? = none)
    (hne : ds.filterMap failure? ≠ []) (attempted : Nat) :
    verdict attempted ds
      = .ok (.failed (.aggregate ⟨attempted, ds.filterMap failure?⟩)) := by
  rw [verdict, List.findSome?_eq_none_iff.mpr h]
  cases hfailures : ds.filterMap failure? with
  | nil => exact absurd hfailures hne
  | cons failure others => rfl

theorem verdict_of_failure {ds : List Delivery} {failure : SubscriberFailure}
    (h : .ok (.error failure) ∈ ds) (attempted : Nat) :
    (∃ f, .error f ∈ ds ∧ verdict attempted ds = .error f) ∨
      ((∀ d ∈ ds, d.fatal? = none) ∧ ∃ failures,
        verdict attempted ds = .ok (.failed (.aggregate ⟨attempted, failures⟩)) ∧
          failure ∈ failures) := by
  cases hfatal : ds.findSome? fatal? with
  | some f =>
    obtain ⟨d, hd, hf⟩ := List.exists_of_findSome?_eq_some hfatal
    cases d with
    | ok result => cases hf
    | error f' =>
      cases hf
      exact .inl ⟨f, hd, by rw [verdict, hfatal]⟩
  | none =>
    have hall := List.findSome?_eq_none_iff.mp hfatal
    have hmem : failure ∈ ds.filterMap failure? := List.mem_filterMap.mpr ⟨_, h, rfl⟩
    exact .inr ⟨hall, ds.filterMap failure?,
      verdict_of_failures hall (List.ne_nil_of_mem hmem) attempted, hmem⟩

theorem result_of_failure {strategy : Strategy} {subs : List Subscriber} {fates : List Fate}
    {failure : SubscriberFailure} (h : Observable strategy subs fates)
    (hwaits : strategy ≠ .fireAndForget) (hmem : .ok (.error failure) ∈ ofFates subs fates) :
    (strategy = .failFast ∧
      result strategy subs fates = .ok (.failed (.subscriber failure))) ∨
    (strategy ≠ .failFast ∧
      ((∃ f, .error f ∈ ofFates subs fates ∧ result strategy subs fates = .error f) ∨
        (fates.length = subs.length ∧ ∃ failures,
          result strategy subs fates = .ok (.failed (.aggregate ⟨subs.length, failures⟩)) ∧
            failure ∈ failures))) := by
  by_cases hfast : strategy = .failFast
  · subst hfast
    exact .inl ⟨rfl, Surveyed.firstVerdict_eq h hmem⟩
  · have hresult : result strategy subs fates = verdict subs.length (ofFates subs fates) := by
      cases strategy <;> first | rfl | exact absurd rfl hfast
    rw [hresult]
    obtain hfatal | ⟨hall, hfailures⟩ := verdict_of_failure hmem subs.length
    · exact .inr ⟨hfast, .inl hfatal⟩
    · exact .inr ⟨hfast, .inr ⟨h.length_eq hfast hwaits hall, hfailures⟩⟩

end Delivery

end Mediator
