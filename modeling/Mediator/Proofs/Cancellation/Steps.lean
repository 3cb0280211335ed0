import Mediator.Cancellation
import Mediator.Proofs.Prog.Crew

/-!
# The steps of cancellation

What a step can be (`stepped`), what a run of steps makes of tokens and flags, and what of it is
seen by the tasks of one token (`Agree`). Tasks that take their steps are shown by programs that
take their turns (`Shown`).
-/

namespace Mediator

namespace Cancellation

namespace Stage

/-- A program that cancels a token, or waits for that, has come as far as a task at this stage.
Giving notice is not a matter of programs, nor is asking for it. -/
def Shown (t : Token) (p : Progress World Unit) : Stage → Prop
  | .asking | .looking _ =>
    p = .paused (fun _ => true) (Action.awaitCanceled t) ∨ p = .paused (·.canceled t) (.done ())
  | .waiting _ => p = .paused (·.canceled t) (.done ())
  | .raising => p = .paused (fun _ => true) (Action.cancel t)
  | .returned | .notifying | .canceled _ => p = .returned ()

@[simp] theorem shown_notified {t : Token} {p : Progress World Unit} (s : Stage) :
    s.notified.Shown t p ↔ s.Shown t p := by
  cases s <;> rfl

end Stage

namespace Scene

variable {ι : Type} [DecidableEq ι] {c c' : Scene ι} {i j : ι} {m : Move}

/-- What a step can be, and what it leads to. -/
inductive Stepped (c : Scene ι) (i : ι) : Move → Scene ι → Prop
  | ask (h : c.stage i = .asking) : Stepped c i .ask (c.put i (.looking false))
  | found {noticed : Bool} (h : c.stage i = .looking noticed) (hraised : c.raised i = true) :
      Stepped c i .look (c.put i .returned)
  | missed {noticed : Bool} (h : c.stage i = .looking noticed) (hraised : c.raised i = false) :
      Stepped c i .look (c.put i (.waiting noticed))
  | wake (h : c.stage i = .waiting true) : Stepped c i .wake (c.put i .asking)
  | raise (h : c.stage i = .raising) (hraised : c.raised i = false) :
      Stepped c i .raise ((c.raise (c.token i)).put i .notifying)
  | raiseAgain (h : c.stage i = .raising) (hraised : c.raised i = true) :
      Stepped c i .raise ((c.raise (c.token i)).put i (.canceled false))
  | notify (h : c.stage i = .notifying) :
      Stepped c i .notify ((c.notify (c.token i)).put i (.canceled true))
  | strayLooking {noticed : Bool} (h : c.stage i = .looking noticed) :
      Stepped c i .stray (c.put i (.looking true))
  | strayWaiting {noticed : Bool} (h : c.stage i = .waiting noticed) :
      Stepped c i .stray (c.put i (.waiting true))

theorem stepped (h : c.step i m = some c') : Stepped c i m c' := by
  obtain ⟨s, hs, rfl⟩ := Option.map_eq_some_iff.mp h
  unfold Stage.after at hs
  split at hs
  · next hstage => cases hs; exact .ask hstage
  · next hstage =>
    cases hs
    cases hraised : c.raised i with
    | true => exact .found hstage hraised
    | false => exact .missed hstage hraised
  · next hstage => cases hs; exact .wake hstage
  · next hstage =>
    cases hs
    cases hraised : c.raised i with
    | true => exact .raiseAgain hstage hraised
    | false => exact .raise hstage hraised
  · next hstage => cases hs; exact .notify hstage
  · next hstage => cases hs; exact .strayLooking hstage
  · next hstage => cases hs; exact .strayWaiting hstage
  · cases hs

-- ---------------------------------------------------------------------------
-- Runs
-- ---------------------------------------------------------------------------

variable {es : List (ι × Move)}

theorem run_cons_eq_some_iff :
    c.run ((i, m) :: es) = some c' ↔ ∃ c₁, c.step i m = some c₁ ∧ c₁.run es = some c' :=
  Option.bind_eq_some_iff

theorem run_append {later : List (ι × Move)} (h : c.run es = some c') :
    c.run (es ++ later) = c'.run later := by
  induction es generalizing c with
  | nil => cases h; rfl
  | cons e es ih =>
    obtain ⟨i, m⟩ := e
    obtain ⟨c₁, h₁, hrest⟩ := run_cons_eq_some_iff.mp h
    rw [List.cons_append, run, h₁]
    exact ih hrest

theorem run_induction {P : Scene ι → Prop}
    (hstep : ∀ {c c' : Scene ι} {i : ι} {m : Move}, c.step i m = some c' → P c → P c')
    (h : c.run es = some c') (hc : P c) : P c' := by
  induction es generalizing c with
  | nil => cases h; exact hc
  | cons e es ih =>
    obtain ⟨i, m⟩ := e
    obtain ⟨c₁, h₁, hrest⟩ := run_cons_eq_some_iff.mp h
    exact ih hrest (hstep h₁ hc)

theorem step_token (h : c.step i m = some c') (j : ι) : c'.token j = c.token j := by
  cases stepped h <;> simp

theorem run_token (h : c.run es = some c') (j : ι) : c'.token j = c.token j := by
  refine run_induction (P := fun d => d.token j = c.token j) (fun hstep hd => ?_) h rfl
  rw [step_token hstep, hd]

/-- A flag is raised by a move on its token, and stays as it is otherwise. -/
theorem step_canceled (h : c.step i m = some c') (t : Token) :
    c'.world.canceled t = true ↔ c.world.canceled t = true ∨ (c.token i = t ∧ m = .raise) := by
  have hraise : (c.world.cancel (c.token i)).canceled t = true ↔
      c.world.canceled t = true ∨ c.token i = t := by
    rw [World.cancel_canceled, Bool.or_eq_true, decide_eq_true_iff, or_comm, eq_comm (a := t)]
  cases stepped h with
  | raise | raiseAgain =>
    rw [put_world, raise_world, hraise]
    simp
  | _ => simp

theorem run_canceled (h : c.run es = some c') (t : Token) :
    c'.world.canceled t = true ↔
      c.world.canceled t = true ∨ ∃ i, c.token i = t ∧ (i, .raise) ∈ es := by
  induction es generalizing c with
  | nil => cases h; simp
  | cons e es ih =>
    obtain ⟨i, m⟩ := e
    obtain ⟨c₁, h₁, hrest⟩ := run_cons_eq_some_iff.mp h
    rw [ih hrest, step_canceled h₁, or_assoc]
    refine or_congr_right ?_
    simp only [step_token h₁, List.mem_cons, and_or_left, exists_or]
    refine or_congr_left ⟨?_, ?_⟩
    · rintro ⟨ht, hm⟩
      exact ⟨i, ht, by rw [hm]⟩
    · rintro ⟨i', ht, h⟩
      cases h
      exact ⟨ht, rfl⟩

/-- No flag that has been raised is ever taken down. -/
theorem run_keeps (h : c.run es = some c') {t : Token} (ht : c.world.canceled t = true) :
    c'.world.canceled t = true :=
  (run_canceled h t).mpr (.inl ht)

theorem step_raised (h : c.step i m = some c') {j : ι} (hj : c.raised j = true) :
    c'.raised j = true := by
  rw [Scene.raised, step_token h]
  exact (step_canceled h _).mpr (.inl hj)

-- ---------------------------------------------------------------------------
-- Unrelated tokens
-- ---------------------------------------------------------------------------

/-- The two scenes are the same to whoever knows of this token only. -/
structure Agree (t : Token) (c d : Scene ι) : Prop where
  token (i : ι) : d.token i = c.token i
  flag : d.world.canceled t = c.world.canceled t
  stage {i : ι} (h : c.token i = t) : d.stage i = c.stage i

section
variable {t u : Token} {d : Scene ι} {s : Stage}

omit [DecidableEq ι] in
theorem Agree.raised (h : Agree t c d) (hi : c.token i = t) : d.raised i = c.raised i := by
  rw [Scene.raised, Scene.raised, h.token, hi, h.flag]

omit [DecidableEq ι] in
theorem Agree.affect (h : Agree t c d) : Agree t (c.affect t m) (d.affect t m) := by
  cases m with
  | raise => exact ⟨h.token, by simp [Scene.affect], h.stage⟩
  | notify =>
    refine ⟨fun j => by simp [Scene.affect, h.token], h.flag, fun {j} hj => ?_⟩
    have hj : c.token j = t := by simpa [Scene.affect] using hj
    simp [Scene.affect, h.token, h.stage hj]
  | _ => exact h

omit [DecidableEq ι] in
theorem Agree.affect_other (h : Agree t c d) (hu : u ≠ t) : Agree t (c.affect u m) d := by
  cases m with
  | raise => exact ⟨h.token, by simp [Scene.affect, h.flag, hu.symm], h.stage⟩
  | notify =>
    refine ⟨fun j => by simp [Scene.affect, h.token], h.flag, fun {j} hj => ?_⟩
    have hj : c.token j = t := by simpa [Scene.affect] using hj
    simp [Scene.affect, hj, hu.symm, h.stage hj]
  | _ => exact h

theorem Agree.put (h : Agree t c d) : Agree t (c.put i s) (d.put i s) := by
  refine ⟨fun j => by simp [h.token], h.flag, fun {j} hj => ?_⟩
  rw [put_stage, put_stage, h.stage (by simpa using hj)]

theorem Agree.put_other (h : Agree t c d) (hi : c.token i ≠ t) : Agree t (c.put i s) d := by
  refine ⟨fun j => by simp [h.token], h.flag, fun {j} hj => ?_⟩
  have hj : c.token j = t := by simpa using hj
  have hji : j ≠ i := fun hji => hi (hji ▸ hj)
  rw [put_stage, if_neg hji, h.stage hj]

/-- Steps on a token can be made just so without those on others. -/
theorem Agree.step (h : Agree t c d) (hstep : c.step i m = some c') (hi : c.token i = t) :
    ∃ d', d.step i m = some d' ∧ Agree t c' d' := by
  obtain ⟨s, hs, rfl⟩ := Option.map_eq_some_iff.mp hstep
  refine ⟨(d.affect t m).put i s, ?_, hi ▸ h.affect.put⟩
  rw [Scene.step, h.stage hi, h.raised hi, hs, h.token, hi]
  rfl

theorem Agree.step_other (h : Agree t c d) (hstep : c.step i m = some c') (hi : c.token i ≠ t) :
    Agree t c' d := by
  obtain ⟨s, -, rfl⟩ := Option.map_eq_some_iff.mp hstep
  refine (h.affect_other hi).put_other ?_
  cases m <;> simpa [Scene.affect] using hi

theorem Agree.run (hcd : Agree t c d) (h : c.run es = some c') :
    ∃ d', d.run (es.filter fun e => c.token e.1 = t) = some d' ∧ Agree t c' d' := by
  induction es generalizing c d with
  | nil =>
    cases h
    exact ⟨d, rfl, hcd⟩
  | cons e es ih =>
    obtain ⟨i, m⟩ := e
    obtain ⟨c₁, h₁, hrest⟩ := run_cons_eq_some_iff.mp h
    have hsame : (fun e : ι × Move => decide (c.token e.1 = t)) =
        fun e => decide (c₁.token e.1 = t) := by
      simp only [step_token h₁]
    by_cases hi : c.token i = t
    · obtain ⟨d₁, hd₁, hcd₁⟩ := hcd.step h₁ hi
      obtain ⟨d', hd', hcd'⟩ := ih hcd₁ hrest
      refine ⟨d', ?_, hcd'⟩
      rw [List.filter_cons_of_pos (by simpa using hi), hsame]
      exact run_cons_eq_some_iff.mpr ⟨d₁, hd₁, hd'⟩
    · rw [List.filter_cons_of_neg (by simpa using hi), hsame]
      exact ih (hcd.step_other h₁ hi) hrest

end

-- ---------------------------------------------------------------------------
-- Tasks as programs
-- ---------------------------------------------------------------------------

def program (c : Scene ι) (i : ι) : Action Unit :=
  if c.stage i = .raising then .cancel (c.token i) else .awaitCanceled (c.token i)

structure Shown (c : Scene ι) (crew : Crew ι World Unit) : Prop where
  world : crew.state = c.world
  members (i : ι) : (c.stage i).Shown (c.token i) (crew.members i)
  tasks : crew.tasks = []

section
variable {crew : Crew ι World Unit} {s : Stage}

omit [DecidableEq ι] in
theorem Fresh.shown (h : c.Fresh) : c.Shown (.start c.program c.world) := by
  refine ⟨rfl, fun i => ?_, rfl⟩
  obtain hi | hi := h i <;> simp [Stage.Shown, Crew.start, program, hi]

theorem Shown.put (h : c.Shown crew) (hi : s.Shown (c.token i) (crew.members i)) :
    (c.put i s).Shown crew := by
  refine ⟨h.world, fun j => ?_, h.tasks⟩
  rw [put_token, put_stage]
  split
  · next hj => rw [hj]; exact hi
  · exact h.members j

omit [DecidableEq ι] in
theorem Shown.notify (h : c.Shown crew) (t : Token) : (c.notify t).Shown crew := by
  refine ⟨h.world, fun j => ?_, h.tasks⟩
  rw [notify_token, notify_stage]
  split
  · exact (Stage.shown_notified _).mpr (h.members j)
  · exact h.members j

theorem Shown.turn (h : c.Shown crew) {d : Scene ι} {next : Action Unit}
    (hd : d.members = c.members) (hworld : (next.along c.world []).state = d.world)
    (htasks : (next.along c.world []).tasks = [])
    (hs : s.Shown (c.token i) (next.along c.world []).progress) :
    (d.put i s).Shown (crew.turn i next) := by
  have hdtoken : ∀ j, d.token j = c.token j := fun j => by rw [Scene.token, hd]; rfl
  have hdstage : ∀ j, d.stage j = c.stage j := fun j => by rw [Scene.stage, hd]; rfl
  rw [← h.world] at hworld htasks hs
  refine ⟨hworld, fun j => ?_, by rw [Crew.turn, htasks, h.tasks]; rfl⟩
  rw [put_token, put_stage, hdtoken, hdstage]
  split
  · next hj =>
    rw [hj, Crew.turn_members_self]
    exact hs
  · next hj =>
    rw [Crew.turn_members_of_ne crew next hj]
    exact h.members j

theorem along_awaitCanceled (t : Token) (w : World) :
    (Action.awaitCanceled t).along w [] =
      ⟨if w.canceled t then .returned () else .paused (·.canceled t) (.done ()), w, [], []⟩ := by
  cases h : w.canceled t <;> simp [Action.awaitCanceled, Prog.await, Prog.along, h]

/-- Programs that cancel and wait take their turns as the tasks take their steps. -/
theorem Shown.step (h : c.Shown crew) (hstep : c.step i m = some c') :
    ∃ crew', Crew.Reaches (fun _ _ => False) crew crew' ∧ c'.Shown crew' := by
  have hi := h.members i
  cases stepped hstep with
  | ask hstage =>
    rw [hstage] at hi
    exact ⟨crew, .refl, h.put hi⟩
  | found hstage hraised =>
    rw [hstage] at hi
    obtain hi | hi := hi
    · refine ⟨_, .single (.turn hi rfl), h.turn rfl ?_ ?_ ?_⟩ <;> rw [along_awaitCanceled]
      exact if_pos hraised
    · have hready : crew.state.canceled (c.token i) = true := h.world ▸ hraised
      exact ⟨_, .single (.turn hi hready), h.turn rfl rfl rfl rfl⟩
  | missed hstage hraised =>
    rw [hstage] at hi
    obtain hi | hi := hi
    · refine ⟨_, .single (.turn hi rfl), h.turn rfl ?_ ?_ ?_⟩ <;> rw [along_awaitCanceled]
      exact if_neg (Bool.eq_false_iff.mp hraised)
    · exact ⟨crew, .refl, h.put hi⟩
  | wake hstage =>
    rw [hstage] at hi
    exact ⟨crew, .refl, h.put (.inr hi)⟩
  | raise hstage hraised | raiseAgain hstage hraised =>
    rw [hstage] at hi
    exact ⟨_, .single (.turn hi rfl), h.turn rfl rfl rfl rfl⟩
  | notify hstage =>
    rw [hstage] at hi
    exact ⟨crew, .refl, (h.notify _).put hi⟩
  | strayLooking hstage | strayWaiting hstage =>
    rw [hstage] at hi
    exact ⟨crew, .refl, h.put hi⟩

theorem Shown.run (h : c.Shown crew) (hrun : c.run es = some c') :
    ∃ crew', Crew.Reaches (fun _ _ => False) crew crew' ∧ c'.Shown crew' := by
  induction es generalizing c crew with
  | nil =>
    cases hrun
    exact ⟨crew, .refl, h⟩
  | cons e es ih =>
    obtain ⟨i, m⟩ := e
    obtain ⟨c₁, h₁, hrest⟩ := run_cons_eq_some_iff.mp hrun
    obtain ⟨crew₁, hreaches, hshown⟩ := h.step h₁
    obtain ⟨crew', hreaches', hshown'⟩ := ih hshown hrest
    exact ⟨crew', hreaches.trans hreaches', hshown'⟩

end

end Scene

end Cancellation

end Mediator
