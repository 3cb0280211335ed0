import Mediator.Proofs.Cancellation.Steps

/-!
# No wake-up is lost

Between asking for a notice and waiting for it a task looks at the flag, and between raising the
flag and giving notice others may do anything. What holds all the while is `Kept`: whoever waits
without a notice though the flag is raised is yet to get one from the only task that has raised it.
From that follows what all interleavings come to (`no_wakeup_lost`). They come to just what the
programs that cancel and wait come to, which do it all in one turn (`follows_reaches`).
-/

namespace Mediator

namespace Cancellation

variable {ι : Type}

namespace Stage

/-- Whoever has come this far has found the flag raised, or has raised it. -/
def knows : Stage → Bool
  | .returned => true
  | .notifying => true
  | .canceled _ => true
  | _ => false

def first : Stage → Bool
  | .notifying => true
  | .canceled first => first
  | _ => false

def hasNotice : Stage → Bool
  | .looking noticed => noticed
  | .waiting noticed => noticed
  | _ => false

section
variable (s : Stage)

@[simp] theorem knows_notified : s.notified.knows = s.knows := by cases s <;> rfl

@[simp] theorem first_notified : s.notified.first = s.first := by cases s <;> rfl

/-- How often a task at this stage goes on to ask for a notice, if the flag is raised or is not,
and no notice comes astray. -/
def asksLeft (raised : Bool) : Stage → Nat
  | .asking => if raised then 1 else 2
  | .looking noticed => if raised then 0 else if noticed then 2 else 1
  | .waiting noticed => if raised then 1 else if noticed then 2 else 1
  | _ => 0

theorem asksLeft_le {raised raised' : Bool} (h : raised = true → raised' = true) :
    s.asksLeft raised' ≤ s.asksLeft raised := by
  cases raised with
  | true => exact Nat.le_of_eq (by rw [h rfl])
  | false => cases raised' <;> cases s <;> grind [asksLeft]

@[simp] theorem asksLeft_notified : s.notified.asksLeft true = s.asksLeft true := by
  cases s <;> rfl

theorem asksLeft_after {raised : Bool} {m : Move} {s s' : Stage} (h : s.after raised m = some s') :
    (if m = .ask then 1 else 0) + s'.asksLeft raised ≤
      s.asksLeft raised + if m = .stray then 1 else 0 := by
  unfold after at h
  split at h <;> cases h <;> cases raised <;> grind [asksLeft]

theorem hasNotice_of_after {raised : Bool} {m : Move} {s s' : Stage}
    (h : s.after raised m = some s') (hstray : m ≠ .stray)
    (hnotice : s'.hasNotice = true ∨ m = .wake) : s.hasNotice = true := by
  unfold after at h
  split at h <;> cases h <;> cases raised <;> simp_all [hasNotice]

theorem knows_of_first {s : Stage} (h : s.first = true) : s.knows = true := by
  cases s <;> first | rfl | cases h

end

end Stage

namespace Scene

variable {c c' : Scene ι} {i j : ι} {t : Token} {m : Move} {s : Stage}

/-- Nobody waits in vain: as long as somebody waits without a notice though the flag is raised, the
only task that has raised the flag is still about to give notice. -/
structure Kept (c : Scene ι) : Prop where
  knows {i : ι} (h : (c.stage i).knows = true) : c.raised i = true
  unique {i j : ι} (h : c.token i = c.token j) (hi : (c.stage i).first = true)
    (hj : (c.stage j).first = true) : i = j
  pending {i : ι} (h : c.stage i = .waiting false) (hraised : c.raised i = true) :
    ∃ j, c.token j = c.token i ∧ c.stage j = .notifying

theorem Fresh.kept (h : c.Fresh) : c.Kept where
  knows {i} hi := by obtain hstage | hstage := h i <;> simp [hstage, Stage.knows] at hi
  unique {i _} _ hi _ := by obtain hstage | hstage := h i <;> simp [hstage, Stage.first] at hi
  pending {i} hi _ := by obtain hstage | hstage := h i <;> simp [hstage] at hi

variable [DecidableEq ι]

theorem Kept.put (hc : c.Kept) (hknows : s.knows = true → c.raised i = true)
    (hfirst : s.first = true → (c.stage i).first = true)
    (hwaiting : s = .waiting false → c.raised i = false) (hnotifying : c.stage i ≠ .notifying) :
    (c.put i s).Kept where
  knows {j} h := by
    rw [put_stage] at h
    rw [put_raised]
    split at h
    · next hj => exact hj ▸ hknows h
    · exact hc.knows h
  unique {j k} htoken hj hk := by
    have hwas : ∀ {l}, ((c.put i s).stage l).first = true → (c.stage l).first = true := by
      intro l hl
      rw [put_stage] at hl
      split at hl
      · next h => exact h ▸ hfirst hl
      · exact hl
    rw [put_token, put_token] at htoken
    exact hc.unique htoken (hwas hj) (hwas hk)
  pending {j} h hraised := by
    rw [put_raised] at hraised
    rw [put_stage] at h
    split at h
    · next hj =>
      rw [hj, hwaiting h] at hraised
      cases hraised
    · obtain ⟨k, htoken, hk⟩ := hc.pending h hraised
      have hne : k ≠ i := fun hki => hnotifying (hki ▸ hk)
      exact ⟨k, by rw [put_token, put_token, htoken], by rw [put_stage, if_neg hne, hk]⟩

theorem Kept.raise (hc : c.Kept) (h : c.stage i = .raising) (hraised : c.raised i = false) :
    ((c.raise (c.token i)).put i .notifying).Kept where
  knows {j} hj := by
    rw [put_stage] at hj
    rw [put_raised, raise_raised]
    split at hj
    · next hji => simp [hji]
    · simp [hc.knows hj]
  unique {j k} htoken hj hk := by
    -- Nobody else can have raised a flag that is down.
    have hothers : ∀ {l}, c.token l = c.token i → l ≠ i → (c.stage l).first ≠ true := by
      intro l hl hne hfirst
      have hknows := hc.knows (Stage.knows_of_first hfirst)
      rw [Scene.raised, hl] at hknows
      exact absurd hknows (by simpa [Scene.raised] using hraised)
    simp only [put_token, raise_token] at htoken
    rw [put_stage, raise_stage] at hj hk
    split at hj <;> split at hk
    · next hji hki => rw [hji, hki]
    · next hji hki => exact absurd hk (hothers (by rw [← htoken, hji]) hki)
    · next hji hki => exact absurd hj (hothers (by rw [htoken, hki]) hji)
    · exact hc.unique htoken hj hk
  pending {j} hj hraised' := by
    rw [put_stage, raise_stage] at hj
    split at hj
    · cases hj
    · by_cases htoken : c.token j = c.token i
      · exact ⟨i, by simp [htoken], by simp⟩
      · obtain ⟨k, hk, hnotifying⟩ := hc.pending hj (by simpa [htoken] using hraised')
        have hne : k ≠ i := by
          rintro rfl
          rw [h] at hnotifying
          cases hnotifying
        exact ⟨k, by simp [hk], by simp [hne, hnotifying]⟩

theorem Kept.notify (hc : c.Kept) (h : c.stage i = .notifying) :
    ((c.notify (c.token i)).put i (.canceled true)).Kept where
  knows {j} hj := by
    rw [put_raised, notify_raised]
    rw [put_stage, notify_stage] at hj
    split at hj
    · next hji => exact hji ▸ hc.knows (by rw [h]; rfl)
    · split at hj
      · exact hc.knows (by simpa using hj)
      · exact hc.knows hj
  unique {j k} htoken hj hk := by
    have hwas : ∀ {l}, (((c.notify (c.token i)).put i (.canceled true)).stage l).first = true →
        (c.stage l).first = true := by
      intro l hl
      rw [put_stage, notify_stage] at hl
      split at hl
      · next hli => rw [hli, h]; rfl
      · split at hl
        · simpa using hl
        · exact hl
    simp only [put_token, notify_token] at htoken
    exact hc.unique htoken (hwas hj) (hwas hk)
  pending {j} hj hraised := by
    rw [put_raised, notify_raised] at hraised
    rw [put_stage, notify_stage] at hj
    split at hj
    · cases hj
    · split at hj
      · cases hstage : c.stage j <;> simp [hstage, Stage.notified] at hj
      · next hji htoken =>
        -- The notice is one on another token, so it is not what this task waits for.
        obtain ⟨k, hk, hnotifying⟩ := hc.pending hj hraised
        have hki : c.token k ≠ c.token i := by rw [hk]; exact htoken
        have hne : k ≠ i := fun hki' => hki (by rw [hki'])
        exact ⟨k, by simp [hk], by simp [hne, hki, hnotifying]⟩

/-- Nothing depends on a task that knows nothing of the flag and does not wait without a notice. -/
theorem Kept.pass (hc : c.Kept) (hknows : s.knows = false) (hfirst : s.first = false)
    (hwaiting : s ≠ .waiting false) (hnotifying : c.stage i ≠ .notifying) : (c.put i s).Kept :=
  hc.put (by simp [hknows]) (by simp [hfirst]) (fun h => absurd h hwaiting) hnotifying

theorem Kept.step (hc : c.Kept) (hstep : c.step i m = some c') : c'.Kept := by
  cases stepped hstep with
  | ask h => exact hc.pass rfl rfl (by simp) (by simp [h])
  | found h hraised =>
    exact hc.put (fun _ => hraised) (by simp [Stage.first]) (by simp) (by simp [h])
  | missed h hraised =>
    exact hc.put (by simp [Stage.knows]) (by simp [Stage.first]) (fun _ => hraised) (by simp [h])
  | wake h => exact hc.pass rfl rfl (by simp) (by simp [h])
  | raise h hraised => exact hc.raise h hraised
  | raiseAgain h hraised =>
    have hsame : ∀ j, (c.raise (c.token i)).raised j = c.raised j := by
      intro j
      by_cases hj : c.token j = c.token i
      · have hj' : c.raised j = true := by rw [Scene.raised, hj]; exact hraised
        simp [hj']
      · simp [hj]
    have hc' : (c.raise (c.token i)).Kept :=
      ⟨fun hj => (hsame _).trans (hc.knows hj), fun htoken hj hk => hc.unique htoken hj hk,
        fun hj hr => hc.pending hj ((hsame _).symm.trans hr)⟩
    exact hc'.put (fun _ => by simp) (by simp [Stage.first]) (by simp) (by simp [h])
  | notify h => exact hc.notify h
  | strayLooking h => exact hc.pass rfl rfl (by simp) (by simp [h])
  | strayWaiting h => exact hc.pass rfl rfl (by simp) (by simp [h])

-- ---------------------------------------------------------------------------
-- Runs
-- ---------------------------------------------------------------------------

theorem Kept.run (hc : c.Kept) (h : c.run es = some c') : c'.Kept :=
  run_induction (fun hstep hc => hc.step hstep) h hc

-- ---------------------------------------------------------------------------
-- Rounds of waiting
-- ---------------------------------------------------------------------------

def asksLeft (c : Scene ι) (i : ι) : Nat := (c.stage i).asksLeft (c.raised i)

theorem asksLeft_put (j : ι) :
    (c.put i s).asksLeft j = if j = i then s.asksLeft (c.raised i) else c.asksLeft j := by
  unfold asksLeft
  rw [put_stage, put_raised]
  split
  · next h => rw [h]
  · rfl

omit [DecidableEq ι] in
theorem affect_raised (h : c.raised i = true) : (c.affect t m).raised i = true := by
  cases m <;> simp [affect, h]

omit [DecidableEq ι] in
/-- Notice is given only when the flag is raised, so it lets nobody ask more often. -/
theorem asksLeft_affect_le (h : m = .notify → ∀ j, c.token j = t → c.raised j = true) (j : ι) :
    (c.affect t m).asksLeft j ≤ c.asksLeft j := by
  cases m with
  | notify =>
    unfold asksLeft affect
    rw [notify_stage, notify_raised]
    split
    · next ht => exact Nat.le_of_eq (by rw [h rfl j ht, Stage.asksLeft_notified])
    · exact Nat.le_refl _
  | raise => exact Stage.asksLeft_le _ (affect_raised (m := .raise))
  | _ => exact Nat.le_refl _

theorem Kept.notify_raised (hc : c.Kept) (hstep : c.step i .notify = some c')
    (hj : c.token j = c.token i) : c.raised j = true := by
  cases stepped hstep with
  | notify h => rw [Scene.raised, hj]; exact hc.knows (by rw [h]; rfl)

theorem step_asksLeft (hc : c.Kept) (hstep : c.step i m = some c') (j : ι) :
    [(i, m)].count (j, .ask) + c'.asksLeft j ≤ c.asksLeft j + [(i, m)].count (j, .stray) := by
  have hnotify : m = .notify → ∀ k, c.token k = c.token i → c.raised k = true := by
    rintro rfl k hk
    exact hc.notify_raised hstep hk
  obtain ⟨s, hs, rfl⟩ := Option.map_eq_some_iff.mp hstep
  rw [asksLeft_put]
  by_cases hj : j = i
  · subst hj
    have hafter := Stage.asksLeft_after hs
    have hraised : s.asksLeft ((c.affect (c.token j) m).raised j) ≤ s.asksLeft (c.raised j) :=
      s.asksLeft_le affect_raised
    simp only [List.count_singleton, if_pos, Prod.mk.injEq, true_and, beq_iff_eq]
    unfold asksLeft
    omega
  · have hother := asksLeft_affect_le hnotify j
    have hne : ∀ m', (i, m) ≠ (j, m') := fun m' h => hj (congrArg Prod.fst h).symm
    simpa [hj, List.count_singleton, hne] using hother

/-- A task asks for a notice twice at most, and once more for each notice that comes astray. -/
theorem run_asksLeft (hc : c.Kept) (h : c.run es = some c') (j : ι) :
    es.count (j, .ask) + c'.asksLeft j ≤ c.asksLeft j + es.count (j, .stray) := by
  induction es generalizing c with
  | nil => cases h; simp
  | cons e es ih =>
    obtain ⟨i, m⟩ := e
    obtain ⟨c₁, h₁, hrest⟩ := run_cons_eq_some_iff.mp h
    have hfirst := step_asksLeft hc h₁ j
    have hrest := ih (hc.step h₁) hrest
    rw [← List.singleton_append, List.count_append, List.count_append]
    omega

/-- Unless a notice comes astray, whoever has one, and so whoever wakes, finds the flag raised. -/
theorem step_hasNotice (hc : c.Kept) (hstep : c.step i m = some c') {j : ι}
    (hstray : (i, m) ≠ (j, .stray)) (hnotice : (c.stage j).hasNotice = true → c.raised j = true)
    (h : (c'.stage j).hasNotice = true ∨ (i, m) = (j, .wake)) : c'.raised j = true := by
  refine step_raised hstep ?_
  have hstep' := hstep
  obtain ⟨s, hs, rfl⟩ := Option.map_eq_some_iff.mp hstep
  rw [put_stage] at h
  by_cases hj : j = i
  · subst hj
    refine hnotice (Stage.hasNotice_of_after hs (by simpa using hstray) ?_)
    simpa using h
  · have hne : (i, m) ≠ (j, .wake) := fun h => hj (congrArg Prod.fst h).symm
    have h := h.resolve_right hne
    rw [if_neg hj] at h
    cases m with
    | notify =>
      by_cases ht : c.token j = c.token i
      · exact hc.notify_raised hstep' ht
      · exact hnotice (by simpa [affect, ht] using h)
    | _ => exact hnotice h

theorem run_hasNotice (hc : c.Kept) (h : c.run es = some c') {j : ι} (hstray : (j, .stray) ∉ es)
    (hnotice : (c.stage j).hasNotice = true → c.raised j = true)
    (hj : (c'.stage j).hasNotice = true ∨ (j, .wake) ∈ es) : c'.raised j = true := by
  induction es generalizing c with
  | nil =>
    cases h
    exact hnotice (by simpa using hj)
  | cons e es ih =>
    obtain ⟨i, m⟩ := e
    obtain ⟨c₁, h₁, hrest⟩ := run_cons_eq_some_iff.mp h
    obtain ⟨hfirst, hstray⟩ := not_or.mp (List.mem_cons.not.mp hstray)
    have hstep := step_hasNotice hc h₁ (Ne.symm hfirst) hnotice
    by_cases hwake : (i, m) = (j, .wake)
    · rw [Scene.raised, run_token hrest]
      exact run_keeps hrest (hstep (.inr hwake))
    · refine ih (hc.step h₁) hrest hstray (fun h => hstep (.inl h)) (hj.imp_right fun h => ?_)
      exact (List.mem_cons.mp h).resolve_left (Ne.symm hwake)

-- ---------------------------------------------------------------------------
-- All interleavings
-- ---------------------------------------------------------------------------

omit [DecidableEq ι] in
/-- Once the call has returned that has raised the flag, whoever waits has a notice. -/
theorem Kept.not_waiting (hc : c.Kept) (htoken : c.token i = c.token j)
    (hj : c.stage j = .canceled true) : c.stage i ≠ .waiting false := by
  intro hi
  have hraised : c.raised i = true := by
    rw [Scene.raised, htoken]
    exact hc.knows (i := j) (by rw [hj]; rfl)
  obtain ⟨k, hk, hnotifying⟩ := hc.pending hi hraised
  have hkj : k = j := hc.unique (hk.trans htoken) (by rw [hnotifying]; rfl) (by rw [hj]; rfl)
  rw [hkj, hj] at hnotifying
  cases hnotifying

-- ---------------------------------------------------------------------------
-- Programs in steps
-- ---------------------------------------------------------------------------

/-- The tasks can take steps that show how far these programs have come. -/
def Follows (c : Scene ι) (crew : Crew ι World Unit) : Prop :=
  ∃ es c', c.run es = some c' ∧ c'.Shown crew

section
variable {crew : Crew ι World Unit} {ready : World → Bool} {next : Action Unit} {noticed : Bool}

theorem Follows.cons (hafter : (c.stage i).after (c.raised i) m = some s)
    (h : ((c.affect (c.token i) m).put i s).Follows crew) : c.Follows crew := by
  obtain ⟨es, c', hrun, hshown⟩ := h
  have hstep : c.step i m = some ((c.affect (c.token i) m).put i s) := by
    rw [Scene.step, hafter]
    rfl
  exact ⟨(i, m) :: es, c', run_cons_eq_some_iff.mpr ⟨_, hstep, hrun⟩, hshown⟩

theorem Shown.follows_looking (h : c.Shown crew) (hi : crew.members i = .paused ready next)
    (hready : ready c.world = true) (hstage : c.stage i = .looking noticed) :
    c.Follows (crew.turn i next) := by
  have hshown := h.members i
  rw [hi, hstage] at hshown
  have hafter := congrArg (Stage.after (c.raised i) .look) hstage
  refine .cons hafter ⟨[], _, rfl, ?_⟩
  obtain hnext | hnext := hshown <;> obtain ⟨rfl, rfl⟩ := Progress.paused.inj hnext
  · refine h.turn rfl ?_ ?_ ?_ <;> rw [along_awaitCanceled]
    · rfl
    · unfold Scene.raised
      cases c.world.canceled (c.token i) <;> rfl
  · exact h.turn rfl rfl rfl (by rw [if_pos (show c.raised i = true from hready)]; rfl)

theorem Shown.follows_asking (h : c.Shown crew) (hi : crew.members i = .paused ready next)
    (hready : ready c.world = true) (hstage : c.stage i = .asking) :
    c.Follows (crew.turn i next) := by
  have hshown := h.members i
  rw [hstage] at hshown
  have hlooking : (c.put i (.looking false)).Shown crew := h.put hshown
  have hafter := congrArg (Stage.after (c.raised i) .ask) hstage
  exact .cons hafter (hlooking.follows_looking hi hready (by rw [put_stage, if_pos rfl]))

theorem Shown.follows_waiting (h : c.Shown crew) (hi : crew.members i = .paused ready next)
    (hready : ready c.world = true) (hstage : c.stage i = .waiting true) :
    c.Follows (crew.turn i next) := by
  have hshown := h.members i
  rw [hstage] at hshown
  have hasking : (c.put i .asking).Shown crew := h.put (.inr hshown)
  have hafter := congrArg (Stage.after (c.raised i) .wake) hstage
  exact .cons hafter (hasking.follows_asking hi hready (by rw [put_stage, if_pos rfl]))

/-- A program goes on after waiting only if the flag is raised, so the notice can be given first. -/
theorem Shown.follows_pending (h : c.Shown crew) (hc : c.Kept)
    (hi : crew.members i = .paused ready next) (hready : ready c.world = true)
    (hstage : c.stage i = .waiting false) : c.Follows (crew.turn i next) := by
  have hshown := h.members i
  rw [hstage, hi] at hshown
  have hraised : c.raised i = true := by
    obtain ⟨rfl, -⟩ := Progress.paused.inj hshown
    exact hready
  obtain ⟨j, htoken, hnotifying⟩ := hc.pending hstage hraised
  have hne : i ≠ j := by
    rintro rfl
    rw [hstage] at hnotifying
    cases hnotifying
  have hgiven := h.members j
  rw [hnotifying] at hgiven
  have hwaiting : ((c.notify (c.token j)).put j (.canceled true)).Shown crew :=
    (h.notify _).put (by rw [notify_token]; exact hgiven)
  have hafter := congrArg (Stage.after (c.raised j) .notify) hnotifying
  refine .cons hafter (hwaiting.follows_waiting hi hready ?_)
  rw [put_stage, if_neg hne, notify_stage, if_pos htoken.symm, hstage]
  rfl

theorem Shown.follows_raising (h : c.Shown crew) (hi : crew.members i = .paused ready next)
    (hstage : c.stage i = .raising) : c.Follows (crew.turn i next) := by
  have hshown := h.members i
  rw [hi, hstage] at hshown
  obtain ⟨-, rfl⟩ := Progress.paused.inj hshown
  have hafter := congrArg (Stage.after (c.raised i) .raise) hstage
  refine .cons hafter ⟨[], _, rfl, h.turn rfl rfl rfl ?_⟩
  cases c.raised i <;> rfl

theorem Shown.follows_turn (h : c.Shown crew) (hc : c.Kept)
    (hi : crew.members i = .paused ready next) (hready : ready c.world = true) :
    c.Follows (crew.turn i next) := by
  cases hstage : c.stage i with
  | asking => exact h.follows_asking hi hready hstage
  | looking noticed => exact h.follows_looking hi hready hstage
  | waiting noticed =>
    cases noticed with
    | false => exact h.follows_pending hc hi hready hstage
    | true => exact h.follows_waiting hi hready hstage
  | raising => exact h.follows_raising hi hstage
  | _ =>
    have hshown := h.members i
    rw [hi, hstage] at hshown
    cases hshown

/-- Whatever programs that cancel and wait come to, in any order of their turns, tasks come to in
steps. -/
theorem follows_reaches (hc : c.Fresh)
    (h : Crew.Reaches (fun _ _ => False) (.start c.program c.world) crew) : c.Follows crew := by
  induction h with
  | refl => exact ⟨[], c, rfl, hc.shown⟩
  | tail _ hstep ih =>
    obtain ⟨es, c', hrun, hshown⟩ := ih
    cases hstep with
    | turn hi hready =>
      rw [hshown.world] at hready
      obtain ⟨later, c'', hlater, hshown'⟩ := hshown.follows_turn (hc.kept.run hrun) hi hready
      exact ⟨es ++ later, c'', (run_append hrun).trans hlater, hshown'⟩
    | task hnone _ =>
      rw [hshown.tasks] at hnone
      simp at hnone
    | disturb hothers => exact hothers.elim

end

/-- Any number of tasks wait for tokens or cancel them, and their steps are interleaved in any way.
No wake-up is lost, whoever waits goes on only when the flag is raised, and asks for a notice twice
at most; with each notice that comes astray it may have to ask once more. A flag that is raised is
so for all clones of its token, and stays so. The tasks of one token come to the same without the
steps that are made on other tokens. -/
theorem no_wakeup_lost (hc : c.Fresh) (h : c.run es = some c') :
    (∀ i j, c.token i = c.token j → c'.stage j = .canceled true → c'.stage i ≠ .waiting false) ∧
    (∀ i, c'.stage i = .returned → c'.raised i = true) ∧
    (∀ i, (i, .stray) ∉ es → (i, .wake) ∈ es → c'.raised i = true) ∧
    (∀ i, es.count (i, .ask) ≤ 2 + es.count (i, .stray)) ∧
    (∀ i, c'.raised i = true ↔
      c.raised i = true ∨ ∃ j, c.token j = c.token i ∧ (j, .raise) ∈ es) ∧
    (∀ later c'', c'.run later = some c'' →
      ∀ t, c'.world.canceled t = true → c''.world.canceled t = true) ∧
    (∀ t, ∃ d, c.run (es.filter fun e => c.token e.1 = t) = some d ∧
      d.world.canceled t = c'.world.canceled t ∧ ∀ i, c.token i = t → d.stage i = c'.stage i) ∧
    ∃ crew, Crew.Reaches (fun _ _ => False) (.start c.program c.world) crew ∧ c'.Shown crew := by
  have hc' : c'.Kept := hc.kept.run h
  have htoken := run_token h
  refine ⟨fun i j hij hj => ?_, fun i hi => hc'.knows (by rw [hi]; rfl), fun i hstray hwake => ?_,
    fun i => ?_, fun i => ?_, fun later c'' hlater t ht => run_keeps hlater ht, fun t => ?_,
    hc.shown.run h⟩
  · exact hc'.not_waiting (by rw [htoken, htoken, hij]) hj
  · refine run_hasNotice hc.kept h hstray (fun hnotice => ?_) (.inr hwake)
    obtain hi | hi := hc i <;> simp [hi, Stage.hasNotice] at hnotice
  · have hasks := run_asksLeft hc.kept h i
    have hstart : c.asksLeft i ≤ 2 := by
      obtain hi | hi := hc i <;> grind [asksLeft, Stage.asksLeft]
    omega
  · rw [Scene.raised, htoken]
    exact run_canceled h _
  · obtain ⟨d, hd, hagree⟩ := Agree.run (t := t) ⟨fun _ => rfl, rfl, fun _ => rfl⟩ h
    exact ⟨d, hd, hagree.flag, fun i hi => hagree.stage (by rw [htoken, hi])⟩

/-- Two tasks wait for a token, one of which has yet to look when it is canceled. -/
theorem two_waiters_woken :
    let c : Scene (Fin 3) := ⟨.empty, fun i => ⟨⟨7⟩, if i = 2 then .raising else .asking⟩⟩
    let es := [(0, .ask), (0, .look), (1, .ask), (2, .raise), (2, .notify), (1, .look), (0, .wake),
      (0, .ask)]
    ∃ c', c.Fresh ∧ c.run es = some c' ∧ c'.stage 1 = .returned ∧ c'.stage 2 = .canceled true ∧
      (∀ i, c'.stage i ≠ .waiting false) ∧ c'.raised 0 = true ∧
      ∀ i, es.count (i, .ask) ≤ 2 + es.count (i, .stray) := by
  intro c es
  have hc : c.Fresh := by unfold Fresh; decide
  have hrun : c.run es = some ((c.run es).get rfl) := rfl
  obtain ⟨hwaiting, -, hwake, hasks, -⟩ := no_wakeup_lost hc hrun
  have hnobody : ∀ i, ((c.run es).get rfl).stage i ≠ .waiting false := fun i => hwaiting i 2 rfl rfl
  exact ⟨_, hc, hrun, rfl, rfl, hnobody, hwake 0 (by decide) (by decide), hasks⟩

end Scene

end Cancellation

end Mediator
