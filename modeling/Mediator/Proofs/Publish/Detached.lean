import Mediator.Proofs.Prog.Tasks
import Mediator.Proofs.Publish.Panics

/-!
# Detached deliveries

A delivery that detaches its subscribers starts one task for each of them, in their order, and
returns at once. What it returns has nothing to do with them (`Publisher.publishWith_along`). From
then on they are on their own: whatever the other tasks do, the caller, and anybody else, each of
them is handed the notification at the first turn of its task, and at no other, and its program goes
on at the turns after that (`Publisher.detached_reach_everyone`).
-/

namespace Mediator

variable {n : Notification} {op : Operation}

-- ---------------------------------------------------------------------------
-- One subscriber
-- ---------------------------------------------------------------------------

namespace Subscriber

/-- What is reported of a detached subscriber, as soon as its program has ended. -/
def aftermath (s : Subscriber) (op : Operation) (fate : Fate) : Action Unit := do
  report op (s.delivery fate)
  match s.delivery fate with
  | .ok (.ok ()) => return ()
  | .ok (.error failure) =>
    .emit op.spans (.warn "detached subscriber failed"
      [("subscriber", failure.subscriber), ("error", failure.error.text)])
  | .error fatal =>
    .emit op.spans (.warn "detached subscriber stopped"
      [("subscriber", s.name), ("error", fatal.text)])

theorem detached_eq (s : Subscriber) :
    Delivery.detached n op s =
      (Prog.call (s.handle n op)).bind fun program => program.attempt.bind (s.aftermath op) := by
  simp only [Delivery.detached, invoke_eq, observe, fate, Prog.bind_eq, Prog.map_eq,
    Prog.bind_assoc, Prog.pure_eq, Prog.done_bind]
  rfl

theorem aftermath_along (s : Subscriber) (op : Operation) (fate : Fate) (w : World)
    (ws : List World) :
    ∃ u w', (s.aftermath op fate).along w ws = ⟨.returned u, w', ws, []⟩ := by
  unfold aftermath
  match s.delivery fate with
  | .error fatal => exact ⟨(), _, rfl⟩
  | .ok (.ok ()) => exact ⟨(), _, rfl⟩
  | .ok (.error failure) => exact ⟨(), _, rfl⟩

/-- The subscriber is handed the notification in one world, and its program then runs to its end in
turns at which it finds the other ones. There is no program if the call panics. -/
def Served (s : Subscriber) (n : Notification) (op : Operation) (w : World) (ws : List World) :
    Prop :=
  match s.handle n op w with
  | (.error _, _) => ws = []
  | (.ok program, w') =>
    (program.along w' ws).progress.ending ≠ .stalled ∧ (program.along w' ws).turns = []

theorem served_of_through {s : Subscriber} {x : Progress World Unit} {ws : List World}
    (h : (Delivery.detached n op s).detach.Through x ws) (hx : x.ending ≠ .stalled) :
    ∃ w rest, ws = w :: rest ∧ s.Served n op w rest := by
  cases ws with
  | nil =>
    cases h
    exact (hx rfl).elim
  | cons w ws =>
    refine ⟨w, ws, rfl, ?_⟩
    obtain ⟨rfl, hturns⟩ := h
    rw [Prog.along_detach] at hx hturns
    have hended := mt Progress.ending_detach_eq_stalled_iff.mpr hx
    rw [detached_eq, Prog.along_bind, Prog.along_call] at hended hturns
    unfold Served
    rcases hhandle : s.handle n op w with ⟨e | program, w'⟩
    · simpa [hhandle] using hturns
    · obtain ⟨hending, hleft⟩ :=
        Prog.along_attempt_bind (p := program) (s.aftermath_along op) w' ws
      simp only [hhandle, Course.after_nil] at hended hturns
      exact ⟨mt hending.mpr hended, hleft.symm.trans hturns⟩

end Subscriber

-- ---------------------------------------------------------------------------
-- All subscribers
-- ---------------------------------------------------------------------------

namespace Delivery

theorem spawnAll_along (subs : List Subscriber) (w : World) (ws : List World) :
    (spawnAll n op subs).along w ws =
      ⟨.returned (), w, ws, subs.map fun s => (detached n op s).detach⟩ := by
  induction subs with
  | nil => rfl
  | cons s rest ih =>
    rw [spawnAll, Prog.along, ih]
    rfl

theorem fireAndForget_along (subs : List Subscriber) (w : World) (ws : List World) :
    (fireAndForget n op subs).along w ws =
      if w.attended then
        ⟨.returned (.ok .completed), w, ws, subs.map fun s => (detached n op s).detach⟩
      else
        ⟨.returned (.ok .completed), w.emit op.spans (.withCount
          (.warn "no tokio runtime available; notification dropped" []) "subscribers"
          subs.length), ws, []⟩ := by
  simp only [fireAndForget, Prog.bind_eq, Prog.along_bind, Prog.along_read]
  split <;> simp [Prog.along_bind, spawnAll_along]

end Delivery

namespace Publisher

variable {p : Publisher} {explicit : Option Strategy}

/-- The world when a publish comes to its subscribers: it has been reported. -/
def reported (p : Publisher) (n : Notification) (explicit : Option Strategy) (op : Operation)
    (w : World) : World :=
  w.emit (p.inner n explicit op).spans
    (.withCount (.debug "publishing notification" []) "subscribers"
      (p.provider.subscribers n.type).length)

def dropped (p : Publisher) (n : Notification) (explicit : Option Strategy) (op : Operation)
    (w : World) : World :=
  let subs := p.provider.subscribers n.type
  if subs.isEmpty then p.reported n explicit op w
  else (p.reported n explicit op w).emit (p.inner n explicit op).spans (.withCount
    (.warn "no tokio runtime available; notification dropped" []) "subscribers" subs.length)

def detached (p : Publisher) (n : Notification) (explicit : Option Strategy) (op : Operation) :
    List (Task World) :=
  (p.provider.subscribers n.type).map fun s =>
    (Delivery.detached n (p.inner n explicit op) s).detach

theorem publishWith_along (h : p.strategyFor n.type explicit = .fireAndForget) (w : World)
    (ws : List World) :
    (p.publishWith n explicit op).along w ws =
      if w.attended then
        ⟨.returned (.ok .completed), p.reported n explicit op w, ws, p.detached n explicit op⟩
      else ⟨.returned (.ok .completed), p.dropped n explicit op w, ws, []⟩ := by
  have hattended : (p.reported n explicit op w).attended = w.attended := by
    rw [reported, World.emit_eq]
  have hfirst : (p.publishWith n explicit op).along w ws =
      (if (p.provider.subscribers n.type).isEmpty then Prog.done (.ok .completed)
        else Delivery.run (p.strategyFor n.type explicit) n (p.inner n explicit op)
          (p.provider.subscribers n.type)).along (p.reported n explicit op w) ws := by
    simp only [publishWith, Prog.bind_eq, Prog.along_bind, Action.along_emit, Course.after_nil]
    rfl
  rw [hfirst, h, dropped, detached]
  cases hsubs : p.provider.subscribers n.type with
  | nil => cases hw : w.attended <;> simp
  | cons s rest =>
    simp only [List.isEmpty_cons, Bool.false_eq_true, if_false]
    rw [Delivery.run, Delivery.fireAndForget_along, hattended]

variable {ι α : Type} [DecidableEq ι] {c : Crew ι World α} {next : Action α}
  {k : Except Fatal (Outcome Unit) → Action α} {w : World} {l : List (Task World)}

/-- Whoever comes to the publish in its turn, having started other tasks before, starts those of the
subscribers, and may go on to start more. -/
theorem turn_tasks (h : p.strategyFor n.type explicit = .fireAndForget) (hw : w.attended = true)
    (hnext : next.along c.state [] = (((p.publishWith n explicit op).bind k).along w []).after l)
    (i : ι) :
    ∃ later, (c.turn i next).tasks = c.tasks ++ l.map Task.fresh ++
      (p.detached n explicit op).map Task.fresh ++ later := by
  have hcourse := Prog.along_bind (p.publishWith n explicit op) k w []
  rw [publishWith_along h, if_pos hw] at hcourse
  refine ⟨((k (.ok .completed)).along (p.reported n explicit op w) []).tasks.map Task.fresh, ?_⟩
  rw [Crew.turn, hnext, hcourse]
  simp [Course.after]

theorem turn_getElem? (h : p.strategyFor n.type explicit = .fireAndForget) (hw : w.attended = true)
    (hnext : next.along c.state [] = (((p.publishWith n explicit op).bind k).along w []).after l)
    (i : ι) {j : Nat} {s : Subscriber} (hs : (p.provider.subscribers n.type)[j]? = some s) :
    (c.turn i next).tasks[c.tasks.length + l.length + j]? =
      some (Delivery.detached n (p.inner n explicit op) s).detach.fresh := by
  obtain ⟨later, hlater⟩ := turn_tasks h hw hnext i
  have hj : j < (p.detached n explicit op).length := by
    simpa [detached] using (List.getElem?_eq_some_iff.mp hs).1
  rw [hlater, List.getElem?_append_left (by simp; omega),
    List.getElem?_append_right (by simp)]
  simp [detached, hs]

/-- A publish that detaches its subscribers returns at once, and the same whoever they are and
whether or not there is somebody to run their tasks. If so, it starts one task for each of them, in
their order. Whatever is done from then on by the tasks, by the caller, and by others, each of the
tasks gets just as far as its own turns take it. Once it has ended, its subscriber has been handed
the notification at the first of these turns, and the program for it has run to its end. -/
theorem detached_reach_everyone (h : p.strategyFor n.type explicit = .fireAndForget)
    (op : Operation) :
    let subs := p.provider.subscribers n.type
    let inner := p.inner n explicit op
    let publish := p.publishWith n explicit op
    (∀ (w : World) (ws : List World), publish.along w ws =
      if w.attended then
        ⟨.returned (.ok .completed), p.reported n explicit op w, ws, p.detached n explicit op⟩
      else ⟨.returned (.ok .completed), p.dropped n explicit op w, ws, []⟩) ∧
    (∀ (provider : Provider) (w : World) (ws : List World),
      ((({ p with provider } : Publisher).publishWith n explicit op).along w ws).progress =
        (publish.along w ws).progress) ∧
    inner = { op with spans := inner.spans } ∧
    ∀ {ι α : Type} [DecidableEq ι] {c : Crew ι World α} {next : Action α}
      {k : Except Fatal (Outcome Unit) → Action α} {w : World} {l : List (Task World)},
      w.attended = true →
      next.along c.state [] = ((publish.bind k).along w []).after l → ∀ i : ι,
      (∃ later, (c.turn i next).tasks = c.tasks ++ l.map Task.fresh ++
        (p.detached n explicit op).map Task.fresh ++ later) ∧
      ∀ (others : World → World → Prop) (turns : List (TaskTurn World)) (c' : Crew ι World α),
        Crew.Works others (c.turn i next) turns c' → ∀ (j : Nat) (s : Subscriber),
        subs[j]? = some s →
        let found := foundBy (c.tasks.length + l.length + j) turns
        ∃ x, c'.tasks[c.tasks.length + l.length + j]? = some x ∧
          (Delivery.detached n inner s).detach.Through x found ∧
          (x.ending ≠ .stalled →
            ∃ first rest, found = first :: rest ∧ s.Served n inner first rest) := by
  intro subs inner publish
  refine ⟨publishWith_along h, fun provider w ws => ?_, rfl, ?_⟩
  · have h' : ({ p with provider } : Publisher).strategyFor n.type explicit = .fireAndForget := h
    rw [publishWith_along h', publishWith_along h]
    split <;> rfl
  · intro ι α _ c next k w l hw hnext i
    refine ⟨turn_tasks h hw hnext i, fun others turns c' hworks j s hs => ?_⟩
    obtain ⟨x, hx, hthrough⟩ := hworks.through (turn_getElem? h hw hnext i hs)
    exact ⟨x, hx, hthrough, Subscriber.served_of_through hthrough⟩

/-- Of three detached subscribers one panics, one cancels the token that they share, and one that has
begun before them goes on after them. -/
theorem detached_reach_three :
    let n : Notification := ⟨⟨⟨0⟩, "Paid", none⟩, .null⟩
    let op : Operation := .anonymous .development ⟨0⟩
    let mailer : Subscriber := ⟨"mailer", fun _ _ => Call.pure (.panic (.fixed "no connection"))⟩
    let stopper : Subscriber := ⟨"stopper", fun _ op => Call.pure do
      Action.cancel op.token
      return .ok ()⟩
    let ledger : Subscriber := ⟨"ledger", fun _ _ => Call.pure do
      Prog.turn
      return .error .canceled⟩
    let p : Publisher :=
      ⟨⟨fun _ => none, fun _ => [mailer, stopper, ledger]⟩, .fireAndForget, .development⟩
    let publish := p.publishWith n none op
    let caller : Crew Unit World (Except Fatal (Outcome Unit)) := .start (fun _ => publish) .empty
    ∃ turns c', Crew.Works (fun _ _ => False) (caller.turn () publish) turns c' ∧
      turns.map (·.task) = [2, 1, 0, 2] ∧ (∀ x ∈ c'.tasks, x.ending ≠ .stalled) ∧
      ∀ (j : Nat) (s : Subscriber), [mailer, stopper, ledger][j]? = some s →
        ∃ first rest, foundBy j turns = first :: rest ∧
          s.Served n (p.inner n none op) first rest := by
  intro n op mailer stopper ledger p publish caller
  have hstrategy : p.strategyFor n.type none = .fireAndForget := rfl
  obtain ⟨-, -, -, hdelivered⟩ := detached_reach_everyone hstrategy op
  have hnext : publish.along caller.state [] = ((publish.bind .done).along .empty []).after [] := by
    rw [Prog.bind_done]
    rfl
  obtain ⟨-, hpublished⟩ := hdelivered rfl hnext ()
  obtain ⟨turns, c', hworks, htasks, hnumbers⟩ :
      ∃ turns c', Crew.Works (fun _ _ => False) (caller.turn () publish) turns c' ∧
        c'.tasks = [.returned (), .returned (), .returned ()] ∧
        turns.map (·.task) = [2, 1, 0, 2] := by
    -- The task that has begun first gives way to the two others.
    let c₀ := caller.turn () publish
    have hledger : Crew.Works (fun _ _ => False) c₀ _ (c₀.taskTurn [_, _] _ []) :=
      .task .refl rfl rfl
    have hstopper : Crew.Works (fun _ _ => False) c₀ _ (Crew.taskTurn _ [_] _ [_]) :=
      .task hledger rfl rfl
    have hmailer : Crew.Works (fun _ _ => False) c₀ _ (Crew.taskTurn _ [] _ [_, _]) :=
      .task hstopper rfl rfl
    have hagain : Crew.Works (fun _ _ => False) c₀ _ (Crew.taskTurn _ [_, _] _ []) :=
      .task hmailer rfl rfl
    exact ⟨_, _, hagain, rfl, rfl⟩
  have hended : ∀ x ∈ c'.tasks, x.ending ≠ .stalled := by simp [htasks, Progress.ending]
  refine ⟨turns, c', hworks, hnumbers, hended, fun j s hs => ?_⟩
  obtain ⟨x, hx, -, hserved⟩ := hpublished _ turns c' hworks j s hs
  have hnumber : caller.tasks.length + ([] : List (Task World)).length + j = j := Nat.zero_add j
  rw [hnumber] at hserved
  exact hserved (hended x (List.mem_of_getElem? hx))

end Publisher

end Mediator
