import Mediator.Proofs.Prog.Endings

/-!
# What programs do

A program that ends has done certain deeds: it has found and left states, waited, and started tasks.
`Prog.Does` tells the deeds that a program may have done when it ends in a certain way, whatever the
states are that it finds. A program *inserts* something into another one if it ends in the same
ways, and its deeds are those of the other one with whole blocks of further deeds in between; that
is kept by all ways to compose programs (`Inserts.bind`, `Inserts.attempt`).
-/

namespace Mediator

variable {σ α β : Type}

inductive Deed (σ : Type) where
  | found (s : σ)
  | left (s : σ)
  | waited (ready : σ → Bool)
  | started (task : Task σ)

def Deed.IsWait : Deed σ → Prop
  | .waited _ => True
  | _ => False

namespace Prog

/-- The program may do these deeds and end so. -/
inductive Does : Prog σ α → List (Deed σ) → Except Panic α → Prop
  | done {a : α} : Does (.done a) [] (.ok a)
  | panic {e : Panic} : Does (.panic e) [] (.error e)
  | get {k : σ → Prog σ α} {s : σ} {ds : List (Deed σ)} {r : Except Panic α}
      (h : Does (k s) ds r) : Does (.get k) (.found s :: ds) r
  | set {s : σ} {next : Prog σ α} {ds : List (Deed σ)} {r : Except Panic α} (h : Does next ds r) :
      Does (.set s next) (.left s :: ds) r
  | pause {ready : σ → Bool} {next : Prog σ α} {ds : List (Deed σ)} {r : Except Panic α}
      (h : Does next ds r) : Does (.pause ready next) (.waited ready :: ds) r
  | spawn {task : Task σ} {next : Prog σ α} {ds : List (Deed σ)} {r : Except Panic α}
      (h : Does next ds r) : Does (.spawn task next) (.started task :: ds) r

variable {p p' : Prog σ α} {ds ds' es : List (Deed σ)}

-- ---------------------------------------------------------------------------
-- Composed programs
-- ---------------------------------------------------------------------------

@[simp] theorem does_done_iff {a : α} {r : Except Panic α} :
    (Prog.done a : Prog σ α).Does ds r ↔ ds = [] ∧ r = .ok a := by
  constructor
  · intro h
    cases h
    exact ⟨rfl, rfl⟩
  · rintro ⟨rfl, rfl⟩
    exact .done

theorem Does.bind {a : α} {f : α → Prog σ β} {r : Except Panic β} (h : p.Does ds (.ok a))
    (hf : (f a).Does es r) : (p.bind f).Does (ds ++ es) r := by
  generalize hr : (Except.ok a : Except Panic α) = r' at h
  induction h with
  | done => cases hr; exact hf
  | panic => cases hr
  | get _ ih => exact .get (ih hr)
  | set _ ih => exact .set (ih hr)
  | pause _ ih => exact .pause (ih hr)
  | spawn _ ih => exact .spawn (ih hr)

theorem Does.bind_error {e : Panic} {f : α → Prog σ β} (h : p.Does ds (.error e)) :
    (p.bind f).Does ds (.error e) := by
  generalize hr : (Except.error e : Except Panic α) = r' at h
  induction h with
  | done => cases hr
  | panic => cases hr; exact .panic
  | get _ ih => exact .get (ih hr)
  | set _ ih => exact .set (ih hr)
  | pause _ ih => exact .pause (ih hr)
  | spawn _ ih => exact .spawn (ih hr)

theorem does_bind {f : α → Prog σ β} {r : Except Panic β} (h : (p.bind f).Does ds r) :
    (∃ a ds₁ ds₂, p.Does ds₁ (.ok a) ∧ (f a).Does ds₂ r ∧ ds = ds₁ ++ ds₂) ∨
      ∃ e, p.Does ds (.error e) ∧ r = .error e := by
  induction p generalizing ds with
  | done a => exact .inl ⟨a, [], ds, .done, h, rfl⟩
  | panic e =>
    cases h
    exact .inr ⟨e, .panic, rfl⟩
  | get k ih =>
    cases h with
    | @get _ s ds _ h =>
      obtain ⟨a, ds₁, ds₂, h₁, h₂, rfl⟩ | ⟨e, he, rfl⟩ := ih s h
      · exact .inl ⟨a, _, ds₂, .get h₁, h₂, rfl⟩
      · exact .inr ⟨e, .get he, rfl⟩
  | set s next ih =>
    cases h with
    | set h =>
      obtain ⟨a, ds₁, ds₂, h₁, h₂, rfl⟩ | ⟨e, he, rfl⟩ := ih h
      · exact .inl ⟨a, _, ds₂, .set h₁, h₂, rfl⟩
      · exact .inr ⟨e, .set he, rfl⟩
  | pause ready next ih =>
    cases h with
    | pause h =>
      obtain ⟨a, ds₁, ds₂, h₁, h₂, rfl⟩ | ⟨e, he, rfl⟩ := ih h
      · exact .inl ⟨a, _, ds₂, .pause h₁, h₂, rfl⟩
      · exact .inr ⟨e, .pause he, rfl⟩
  | spawn task next ih =>
    cases h with
    | spawn h =>
      obtain ⟨a, ds₁, ds₂, h₁, h₂, rfl⟩ | ⟨e, he, rfl⟩ := ih h
      · exact .inl ⟨a, _, ds₂, .spawn h₁, h₂, rfl⟩
      · exact .inr ⟨e, .spawn he, rfl⟩

theorem does_attempt_iff {r : Except Panic (Except Panic α)} :
    p.attempt.Does ds r ↔ ∃ r', p.Does ds r' ∧ r = .ok r' := by
  constructor
  · intro h
    induction p generalizing ds with
    | done a => cases h; exact ⟨_, .done, rfl⟩
    | panic e => cases h; exact ⟨_, .panic, rfl⟩
    | get k ih =>
      cases h with
      | @get _ s _ _ h =>
        obtain ⟨r', hr', rfl⟩ := ih s h
        exact ⟨r', .get hr', rfl⟩
    | set s next ih =>
      cases h with
      | set h =>
        obtain ⟨r', hr', rfl⟩ := ih h
        exact ⟨r', .set hr', rfl⟩
    | pause ready next ih =>
      cases h with
      | pause h =>
        obtain ⟨r', hr', rfl⟩ := ih h
        exact ⟨r', .pause hr', rfl⟩
    | spawn task next ih =>
      cases h with
      | spawn h =>
        obtain ⟨r', hr', rfl⟩ := ih h
        exact ⟨r', .spawn hr', rfl⟩
  · rintro ⟨r', h, rfl⟩
    induction h with
    | done => exact .done
    | panic => exact .done
    | get _ ih => exact .get ih
    | set _ ih => exact .set ih
    | pause _ ih => exact .pause ih
    | spawn _ ih => exact .spawn ih

theorem exists_does [Nonempty σ] (p : Prog σ α) : ∃ ds r, p.Does ds r := by
  induction p with
  | done a => exact ⟨_, _, .done⟩
  | panic e => exact ⟨_, _, .panic⟩
  | get k ih =>
    obtain ⟨s⟩ := ‹Nonempty σ›
    obtain ⟨ds, r, h⟩ := ih s
    exact ⟨_, r, .get h⟩
  | set s next ih =>
    obtain ⟨ds, r, h⟩ := ih
    exact ⟨_, r, .set h⟩
  | pause ready next ih =>
    obtain ⟨ds, r, h⟩ := ih
    exact ⟨_, r, .pause h⟩
  | spawn task next ih =>
    obtain ⟨ds, r, h⟩ := ih
    exact ⟨_, r, .spawn h⟩

theorem EndsIn.does {P : Panic → Prop} {Q : α → Prop} {r : Except Panic α} (h : p.EndsIn P Q)
    (hdoes : p.Does ds r) : (∃ a, r = .ok a ∧ Q a) ∨ ∃ e, r = .error e ∧ P e := by
  induction hdoes with
  | done => exact .inl ⟨_, rfl, h⟩
  | panic => exact .inr ⟨_, rfl, h⟩
  | @get _ s _ _ _ ih => exact ih (h s)
  | set _ ih => exact ih h
  | pause _ ih => exact ih h
  | spawn _ ih => exact ih h

theorem Prompt.not_isWait {r : Except Panic α} (h : p.Prompt) (hdoes : p.Does ds r) :
    ∀ d ∈ ds, ¬ d.IsWait := by
  induction hdoes with
  | done => nofun
  | panic => nofun
  | @get _ s _ _ _ ih => exact List.forall_mem_cons.mpr ⟨id, ih (h s)⟩
  | set _ ih => exact List.forall_mem_cons.mpr ⟨id, ih h⟩
  | pause => exact h.elim
  | spawn _ ih => exact List.forall_mem_cons.mpr ⟨id, ih h⟩

theorem exists_does_of_run {wait : (σ → Bool) → Scheduler σ → Scheduler σ} {q : Scheduler σ}
    {r : Except Panic α} (h : (p.run wait q).1 = .ofCaught r) : ∃ ds, p.Does ds r := by
  induction p generalizing q with
  | done a =>
    cases r with
    | ok a' => cases h; exact ⟨_, .done⟩
    | error e => cases h
  | panic e =>
    cases r with
    | ok a => cases h
    | error e' => cases h; exact ⟨_, .panic⟩
  | get k ih =>
    obtain ⟨ds, hds⟩ := ih q.state h
    exact ⟨_, .get hds⟩
  | set s next ih =>
    obtain ⟨ds, hds⟩ := ih h
    exact ⟨_, .set hds⟩
  | spawn task next ih =>
    obtain ⟨ds, hds⟩ := ih h
    exact ⟨_, .spawn hds⟩
  | pause ready next ih =>
    rw [run] at h
    split at h
    · obtain ⟨ds, hds⟩ := ih h
      exact ⟨_, .pause hds⟩
    · cases r <;> cases h

end Prog

-- ---------------------------------------------------------------------------
-- Deeds under guard
-- ---------------------------------------------------------------------------

/-- The deeds under guard next to those without: whenever these wait the flag is looked at, and so
it is after that. The last argument tells whether the guard has let them through to their end. -/
inductive Guarded (flag : σ → Bool) : List (Deed σ) → List (Deed σ) → Bool → Prop
  | nil : Guarded flag [] [] true
  | keep {d : Deed σ} {ds es : List (Deed σ)} {through : Bool} (hd : ¬ d.IsWait)
      (h : Guarded flag ds es through) : Guarded flag (d :: ds) (d :: es) through
  | raised {ready : σ → Bool} {s : σ} {ds : List (Deed σ)} (hflag : flag s = true) :
      Guarded flag (.waited ready :: ds) [.found s] false
  | wait {ready : σ → Bool} {s t : σ} {ds es : List (Deed σ)} {through : Bool}
      (hflag : flag s = false) (hready : ready t = true) (h : Guarded flag ds es through) :
      Guarded flag (.waited ready :: ds)
        (.found s :: .waited (fun u => ready u || flag u) :: .found t :: es) through
  | dropped {ready : σ → Bool} {s t : σ} {ds : List (Deed σ)} (hflag : flag s = false)
      (hready : ready t = false) :
      Guarded flag (.waited ready :: ds)
        [.found s, .waited fun u => ready u || flag u, .found t] false

namespace Guarded

variable {flag : σ → Bool} {block ds es : List (Deed σ)} {through : Bool}

theorem append_left (hblock : ∀ d ∈ block, ¬ d.IsWait) (h : Guarded flag ds es through) :
    Guarded flag (block ++ ds) (block ++ es) through := by
  induction block with
  | nil => exact h
  | cons d block ih =>
    obtain ⟨hd, hblock⟩ := List.forall_mem_cons.mp hblock
    exact .keep hd (ih hblock)

theorem of_append_left (hblock : ∀ d ∈ block, ¬ d.IsWait)
    (h : Guarded flag (block ++ ds) es through) :
    ∃ es₂, es = block ++ es₂ ∧ Guarded flag ds es₂ through := by
  induction block generalizing es with
  | nil => exact ⟨es, rfl, h⟩
  | cons d block ih =>
    obtain ⟨hd, hblock⟩ := List.forall_mem_cons.mp hblock
    cases h with
    | keep _ h =>
      obtain ⟨es₂, rfl, h₂⟩ := ih hblock h
      exact ⟨es₂, rfl, h₂⟩
    | raised => exact (hd trivial).elim
    | wait => exact (hd trivial).elim
    | dropped => exact (hd trivial).elim

end Guarded

theorem Prog.does_guard_iff [Nonempty σ] {p : Prog σ α} {flag : σ → Bool} {es : List (Deed σ)}
    {r : Except Panic (Option α)} : (p.guard flag).Does es r ↔
      ∃ ds r' through, p.Does ds r' ∧ Guarded flag ds es through ∧
        r = if through then r'.map some else .ok none := by
  constructor
  · intro h
    induction p generalizing es with
    | done a => cases h; exact ⟨_, _, true, .done, .nil, rfl⟩
    | panic e => cases h; exact ⟨_, _, true, .panic, .nil, rfl⟩
    | get k ih =>
      cases h with
      | @get _ s _ _ h =>
        obtain ⟨ds, r', through, hdoes, hguarded, rfl⟩ := ih s h
        exact ⟨_, r', through, .get hdoes, .keep id hguarded, rfl⟩
    | set s next ih =>
      cases h with
      | set h =>
        obtain ⟨ds, r', through, hdoes, hguarded, rfl⟩ := ih h
        exact ⟨_, r', through, .set hdoes, .keep id hguarded, rfl⟩
    | spawn task next ih =>
      cases h with
      | spawn h =>
        obtain ⟨ds, r', through, hdoes, hguarded, rfl⟩ := ih h
        exact ⟨_, r', through, .spawn hdoes, .keep id hguarded, rfl⟩
    | pause ready next ih =>
      -- What is dropped would have ended somehow.
      obtain ⟨ds₀, r₀, hnext⟩ := exists_does next
      cases h with
      | @get _ s _ _ h =>
        cases hflag : flag s with
        | true =>
          simp only [hflag, if_true] at h
          cases h
          exact ⟨_, r₀, false, .pause hnext, .raised hflag, rfl⟩
        | false =>
          simp only [hflag, Bool.false_eq_true, if_false] at h
          cases h with
          | pause h =>
            cases h with
            | @get _ t _ _ h =>
              cases hready : ready t with
              | true =>
                simp only [hready, if_true] at h
                obtain ⟨ds, r', through, hdoes, hguarded, rfl⟩ := ih h
                exact ⟨_, r', through, .pause hdoes, .wait hflag hready hguarded, rfl⟩
              | false =>
                simp only [hready, Bool.false_eq_true, if_false] at h
                cases h
                exact ⟨_, r₀, false, .pause hnext, .dropped hflag hready, rfl⟩
  · rintro ⟨ds, r', through, h, hguarded, rfl⟩
    induction h generalizing es through with
    | done => cases hguarded; exact .done
    | panic => cases hguarded; exact .panic
    | get _ ih => cases hguarded with | keep _ h => exact .get (ih _ h)
    | set _ ih => cases hguarded with | keep _ h => exact .set (ih _ h)
    | spawn _ ih => cases hguarded with | keep _ h => exact .spawn (ih _ h)
    | pause _ ih =>
      cases hguarded with
      | keep hd => exact (hd trivial).elim
      | raised hflag => exact .get (by simp [hflag])
      | wait hflag hready h =>
        have hrest := ih _ h
        exact .get (by simpa [hflag] using .pause (.get (by simpa [hready] using hrest)))
      | dropped hflag hready =>
        exact .get (by simpa [hflag] using .pause (.get (by simp [hready])))

-- ---------------------------------------------------------------------------
-- Further deeds
-- ---------------------------------------------------------------------------

/-- The later list is the earlier one with some blocks of deeds in between, each of them an act. -/
inductive Inserted (acts : List (Deed σ) → Prop) : List (Deed σ) → List (Deed σ) → Prop
  | nil : Inserted acts [] []
  | keep {d : Deed σ} {ds ds' : List (Deed σ)} (h : Inserted acts ds ds') :
      Inserted acts (d :: ds) (d :: ds')
  | act {block ds ds' : List (Deed σ)} (hblock : acts block) (h : Inserted acts ds ds') :
      Inserted acts ds (block ++ ds')

namespace Inserted

variable {acts : List (Deed σ) → Prop} {ds ds' es es' : List (Deed σ)}

theorem refl (ds : List (Deed σ)) : Inserted acts ds ds := by
  induction ds with
  | nil => exact .nil
  | cons d ds ih => exact .keep ih

theorem mono {acts' : List (Deed σ) → Prop} (hacts : ∀ block, acts block → acts' block)
    (h : Inserted acts ds ds') : Inserted acts' ds ds' := by
  induction h with
  | nil => exact .nil
  | keep _ ih => exact .keep ih
  | act hblock _ ih => exact .act (hacts _ hblock) ih

theorem append (h : Inserted acts ds ds') (h' : Inserted acts es es') :
    Inserted acts (ds ++ es) (ds' ++ es') := by
  induction h with
  | nil => exact h'
  | keep _ ih => exact .keep ih
  | act hblock _ ih =>
    rw [List.append_assoc]
    exact .act hblock ih

variable {flag : σ → Bool} {through : Bool}

theorem guarded_without (hacts : ∀ block, acts block → ∀ d ∈ block, ¬ d.IsWait)
    (h : Inserted acts ds ds') (hguarded : Guarded flag ds' es' through) :
    ∃ es, Guarded flag ds es through ∧ Inserted acts es es' := by
  induction h generalizing es' with
  | nil => exact ⟨es', hguarded, refl es'⟩
  | keep _ ih =>
    cases hguarded with
    | keep hd h =>
      obtain ⟨es, hes, hinserted⟩ := ih h
      exact ⟨_, .keep hd hes, .keep hinserted⟩
    | raised hflag => exact ⟨_, .raised hflag, refl _⟩
    | wait hflag hready h =>
      obtain ⟨es, hes, hinserted⟩ := ih h
      exact ⟨_, .wait hflag hready hes, .keep (.keep (.keep hinserted))⟩
    | dropped hflag hready => exact ⟨_, .dropped hflag hready, refl _⟩
  | act hblock _ ih =>
    obtain ⟨es₂, rfl, h₂⟩ := hguarded.of_append_left (hacts _ hblock)
    obtain ⟨es, hes, hinserted⟩ := ih h₂
    exact ⟨es, hes, .act hblock hinserted⟩

theorem guarded_within (hacts : ∀ block, acts block → ∀ d ∈ block, ¬ d.IsWait)
    (h : Inserted acts ds ds') (hguarded : Guarded flag ds es through) :
    ∃ es', Guarded flag ds' es' through ∧ Inserted acts es es' := by
  induction h generalizing es with
  | nil => exact ⟨es, hguarded, refl es⟩
  | keep _ ih =>
    cases hguarded with
    | keep hd h =>
      obtain ⟨es', hes', hinserted⟩ := ih h
      exact ⟨_, .keep hd hes', .keep hinserted⟩
    | raised hflag => exact ⟨_, .raised hflag, refl _⟩
    | wait hflag hready h =>
      obtain ⟨es', hes', hinserted⟩ := ih h
      exact ⟨_, .wait hflag hready hes', .keep (.keep (.keep hinserted))⟩
    | dropped hflag hready => exact ⟨_, .dropped hflag hready, refl _⟩
  | act hblock _ ih =>
    obtain ⟨es', hes', hinserted⟩ := ih hguarded
    exact ⟨_, hes'.append_left (hacts _ hblock), .act hblock hinserted⟩

end Inserted

namespace Prog

/-- The first program ends just as the second one may, and does what that does, with acts in
between. -/
structure Inserts (acts : List (Deed σ) → Prop) (p' p : Prog σ α) : Prop where
  without {ds' : List (Deed σ)} {r : Except Panic α} (h : p'.Does ds' r) :
    ∃ ds, p.Does ds r ∧ Inserted acts ds ds'
  within {ds : List (Deed σ)} {r : Except Panic α} (h : p.Does ds r) :
    ∃ ds', p'.Does ds' r ∧ Inserted acts ds ds'

namespace Inserts

variable {acts : List (Deed σ) → Prop} {p' p : Prog σ α}

theorem refl (p : Prog σ α) : Inserts acts p p :=
  ⟨fun h => ⟨_, h, .refl _⟩, fun h => ⟨_, h, .refl _⟩⟩

theorem mono {acts' : List (Deed σ) → Prop} (hacts : ∀ block, acts block → acts' block)
    (h : Inserts acts p' p) : Inserts acts' p' p where
  without hdoes := by
    obtain ⟨ds, hp, hds⟩ := h.without hdoes
    exact ⟨ds, hp, hds.mono hacts⟩
  within hdoes := by
    obtain ⟨ds', hp', hds'⟩ := h.within hdoes
    exact ⟨ds', hp', hds'.mono hacts⟩

theorem bind {f' f : α → Prog σ β} (h : Inserts acts p' p) (hf : ∀ a, Inserts acts (f' a) (f a)) :
    Inserts acts (p'.bind f') (p.bind f) where
  without hdoes := by
    obtain ⟨a, ds₁, ds₂, h₁, h₂, rfl⟩ | ⟨e, he, rfl⟩ := does_bind hdoes
    · obtain ⟨es₁, hp, hes₁⟩ := h.without h₁
      obtain ⟨es₂, hfa, hes₂⟩ := (hf a).without h₂
      exact ⟨es₁ ++ es₂, hp.bind hfa, hes₁.append hes₂⟩
    · obtain ⟨es, hp, hes⟩ := h.without he
      exact ⟨es, hp.bind_error, hes⟩
  within hdoes := by
    obtain ⟨a, ds₁, ds₂, h₁, h₂, rfl⟩ | ⟨e, he, rfl⟩ := does_bind hdoes
    · obtain ⟨es₁, hp, hes₁⟩ := h.within h₁
      obtain ⟨es₂, hfa, hes₂⟩ := (hf a).within h₂
      exact ⟨es₁ ++ es₂, hp.bind hfa, hes₁.append hes₂⟩
    · obtain ⟨es, hp, hes⟩ := h.within he
      exact ⟨es, hp.bind_error, hes⟩

theorem attempt (h : Inserts acts p' p) : Inserts acts p'.attempt p.attempt where
  without hdoes := by
    obtain ⟨r, hr, rfl⟩ := does_attempt_iff.mp hdoes
    obtain ⟨ds, hp, hds⟩ := h.without hr
    exact ⟨ds, does_attempt_iff.mpr ⟨r, hp, rfl⟩, hds⟩
  within hdoes := by
    obtain ⟨r, hr, rfl⟩ := does_attempt_iff.mp hdoes
    obtain ⟨ds, hp, hds⟩ := h.within hr
    exact ⟨ds, does_attempt_iff.mpr ⟨r, hp, rfl⟩, hds⟩

/-- Acts that never wait leave the guard as many looks as there were without them. -/
theorem guard [Nonempty σ] (hacts : ∀ block, acts block → ∀ d ∈ block, ¬ d.IsWait)
    (h : Inserts acts p' p) (flag : σ → Bool) : Inserts acts (p'.guard flag) (p.guard flag) where
  without hdoes := by
    obtain ⟨ds', r, through, hp', hguarded, rfl⟩ := does_guard_iff.mp hdoes
    obtain ⟨ds, hp, hds⟩ := h.without hp'
    obtain ⟨es, hes, hinserted⟩ := hds.guarded_without hacts hguarded
    exact ⟨es, does_guard_iff.mpr ⟨ds, r, through, hp, hes, rfl⟩, hinserted⟩
  within hdoes := by
    obtain ⟨ds, r, through, hp, hguarded, rfl⟩ := does_guard_iff.mp hdoes
    obtain ⟨ds', hp', hds'⟩ := h.within hp
    obtain ⟨es', hes', hinserted⟩ := hds'.guarded_within hacts hguarded
    exact ⟨es', does_guard_iff.mpr ⟨ds', r, through, hp', hes', rfl⟩, hinserted⟩

/-- To return at once, or to do an act first, comes to the same. -/
theorem act [Nonempty σ] {act : Prog σ α} {a : α}
    (hact : ∀ {ds r}, act.Does ds r → r = .ok a ∧ acts ds) : Inserts acts act (.done a) where
  without hdoes := by
    obtain ⟨rfl, hacts⟩ := hact hdoes
    exact ⟨[], .done, by simpa using Inserted.act hacts .nil⟩
  within hdoes := by
    cases hdoes
    obtain ⟨block, r, hblock⟩ := exists_does act
    obtain ⟨rfl, hacts⟩ := hact hblock
    exact ⟨block, hblock, by simpa using Inserted.act hacts .nil⟩

theorem look [Nonempty σ] {k : σ → Prog σ α} (hacts : ∀ s, acts [.found s])
    (h : ∀ s, Inserts acts (k s) p) : Inserts acts (.get k) p where
  without hdoes := by
    cases hdoes with
    | @get _ s _ _ hk =>
      obtain ⟨ds, hp, hds⟩ := (h s).without hk
      exact ⟨ds, hp, .act (hacts s) hds⟩
  within hdoes := by
    obtain ⟨s⟩ := ‹Nonempty σ›
    obtain ⟨ds', hk, hds'⟩ := (h s).within hdoes
    exact ⟨_, .get hk, .act (hacts s) hds'⟩

end Inserts

end Prog

end Mediator
