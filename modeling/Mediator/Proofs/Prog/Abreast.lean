import Mediator.Proofs.Prog.Agree

/-!
# Programs that go abreast

`S` says which schedulers differ in nothing that matters. Two programs go abreast if they give way
at the same times and for the same, end alike, and leave related schedulers whenever they do either;
what they do in between is for each of them to choose. That is kept by all ways to compose programs,
those that drop a program before its end included (`Abreast.guard`). Programs that go abreast agree,
as long as what happens while they wait keeps schedulers related (`Abreast.agree`).
-/

namespace Mediator.Prog

variable {σ α β : Type} {wait : (σ → Bool) → Scheduler σ → Scheduler σ}
  {S : Scheduler σ → Scheduler σ → Prop} {q' q : Scheduler σ} {p' p : Prog σ α}

/-- In related schedulers both conditions hold, or neither. -/
def Concur (S : Scheduler σ → Scheduler σ → Prop) (c' c : σ → Bool) : Prop :=
  ∀ q' q, S q' q → c' q'.state = c q.state

/-- Whoever waits for the same in related schedulers finds related schedulers after that. -/
def WaitsAlike (wait : (σ → Bool) → Scheduler σ → Scheduler σ)
    (S : Scheduler σ → Scheduler σ → Prop) : Prop :=
  ∀ ready' ready q' q, Concur S ready' ready → S q' q → S (wait ready' q') (wait ready q)

inductive AbreastFrom (S : Scheduler σ → Scheduler σ → Prop) :
    Scheduler σ → Scheduler σ → Prog σ α → Prog σ α → Prop
  | done {q' q : Scheduler σ} {a : α} (hq : S q' q) : AbreastFrom S q' q (.done a) (.done a)
  | panic {q' q : Scheduler σ} {e : Panic} (hq : S q' q) :
      AbreastFrom S q' q (.panic e) (.panic e)
  | getLeft {q' q : Scheduler σ} {k' : σ → Prog σ α} {p : Prog σ α}
      (h : AbreastFrom S q' q (k' q'.state) p) : AbreastFrom S q' q (.get k') p
  | getRight {q' q : Scheduler σ} {p' : Prog σ α} {k : σ → Prog σ α}
      (h : AbreastFrom S q' q p' (k q.state)) : AbreastFrom S q' q p' (.get k)
  | setLeft {q' q : Scheduler σ} {s : σ} {next' p : Prog σ α}
      (h : AbreastFrom S (q'.put s) q next' p) : AbreastFrom S q' q (.set s next') p
  | setRight {q' q : Scheduler σ} {s : σ} {p' next : Prog σ α}
      (h : AbreastFrom S q' (q.put s) p' next) : AbreastFrom S q' q p' (.set s next)
  | spawnLeft {q' q : Scheduler σ} {task : Task σ} {next' p : Prog σ α}
      (h : AbreastFrom S (q'.enqueue task) q next' p) : AbreastFrom S q' q (.spawn task next') p
  | spawnRight {q' q : Scheduler σ} {task : Task σ} {p' next : Prog σ α}
      (h : AbreastFrom S q' (q.enqueue task) p' next) : AbreastFrom S q' q p' (.spawn task next)
  | pause {q' q : Scheduler σ} {ready' ready : σ → Bool} {next' next : Prog σ α} (hq : S q' q)
      (hready : Concur S ready' ready) (h : ∀ t' t, S t' t → AbreastFrom S t' t next' next) :
      AbreastFrom S q' q (.pause ready' next') (.pause ready next)

def Abreast (S : Scheduler σ → Scheduler σ → Prop) (p' p : Prog σ α) : Prop :=
  ∀ q' q, S q' q → AbreastFrom S q' q p' p

-- ---------------------------------------------------------------------------
-- Composed programs
-- ---------------------------------------------------------------------------

theorem abreast_done (a : α) : Abreast S (.done a) (.done a) := fun _ _ hq => .done hq

theorem abreast_panic (e : Panic) : Abreast S (.panic e : Prog σ α) (.panic e) :=
  fun _ _ hq => .panic hq

theorem AbreastFrom.bind {f' f : α → Prog σ β} (h : AbreastFrom S q' q p' p)
    (hf : ∀ a, Abreast S (f' a) (f a)) : AbreastFrom S q' q (p'.bind f') (p.bind f) := by
  induction h with
  | done hq => exact hf _ _ _ hq
  | panic hq => exact .panic hq
  | getLeft _ ih => exact .getLeft ih
  | getRight _ ih => exact .getRight ih
  | setLeft _ ih => exact .setLeft ih
  | setRight _ ih => exact .setRight ih
  | spawnLeft _ ih => exact .spawnLeft ih
  | spawnRight _ ih => exact .spawnRight ih
  | pause hq hready _ ih => exact .pause hq hready ih

theorem AbreastFrom.attempt (h : AbreastFrom S q' q p' p) :
    AbreastFrom S q' q p'.attempt p.attempt := by
  induction h with
  | done hq => exact .done hq
  | panic hq => exact .done hq
  | getLeft _ ih => exact .getLeft ih
  | getRight _ ih => exact .getRight ih
  | setLeft _ ih => exact .setLeft ih
  | setRight _ ih => exact .setRight ih
  | spawnLeft _ ih => exact .spawnLeft ih
  | spawnRight _ ih => exact .spawnRight ih
  | pause hq hready _ ih => exact .pause hq hready ih

theorem AbreastFrom.guard {flag : σ → Bool} (hflag : Concur S flag flag)
    (h : AbreastFrom S q' q p' p) : AbreastFrom S q' q (p'.guard flag) (p.guard flag) := by
  induction h with
  | done hq => exact .done hq
  | panic hq => exact .panic hq
  | getLeft _ ih => exact .getLeft ih
  | getRight _ ih => exact .getRight ih
  | setLeft _ ih => exact .setLeft ih
  | setRight _ ih => exact .setRight ih
  | spawnLeft _ ih => exact .spawnLeft ih
  | spawnRight _ ih => exact .spawnRight ih
  | pause hq hready _ ih =>
    refine .getLeft (.getRight ?_)
    rw [hflag _ _ hq]
    split
    · exact .done hq
    · refine .pause hq (fun t' t ht => by rw [hready t' t ht, hflag t' t ht]) fun t' t ht =>
        .getLeft (.getRight ?_)
      rw [hready t' t ht]
      split
      · exact ih t' t ht
      · exact .done ht

namespace Abreast

theorem bind {f' f : α → Prog σ β} (h : Abreast S p' p) (hf : ∀ a, Abreast S (f' a) (f a)) :
    Abreast S (p'.bind f') (p.bind f) := fun q' q hq => (h q' q hq).bind hf

theorem attempt (h : Abreast S p' p) : Abreast S p'.attempt p.attempt :=
  fun q' q hq => (h q' q hq).attempt

theorem guard {flag : σ → Bool} (hflag : Concur S flag flag) (h : Abreast S p' p) :
    Abreast S (p'.guard flag) (p.guard flag) := fun q' q hq => (h q' q hq).guard hflag

end Abreast

theorem Prompt.abreastFrom_done {a : α} (hp : p'.Prompt)
    (hreturn : (p'.run wait q').1 = .returned a) (h : S (p'.run wait q').2 q) :
    AbreastFrom S q' q p' (.done a) := by
  induction p' generalizing q' with
  | done b => cases hreturn; exact .done h
  | panic e => cases hreturn
  | get k ih => exact .getLeft (ih _ (hp _) hreturn h)
  | set s next ih => exact .setLeft (ih hp hreturn h)
  | spawn task next ih => exact .spawnLeft (ih hp hreturn h)
  | pause ready next => exact hp.elim

-- ---------------------------------------------------------------------------
-- Runs
-- ---------------------------------------------------------------------------

theorem AbreastFrom.run (hwait : WaitsAlike wait S) (h : AbreastFrom S q' q p' p) :
    (p'.run wait q').1 = (p.run wait q).1 ∧ S (p'.run wait q').2 (p.run wait q).2 := by
  induction h with
  | done hq => exact ⟨rfl, hq⟩
  | panic hq => exact ⟨rfl, hq⟩
  | getLeft _ ih => exact ih
  | getRight _ ih => exact ih
  | setLeft _ ih => exact ih
  | setRight _ ih => exact ih
  | spawnLeft _ ih => exact ih
  | spawnRight _ ih => exact ih
  | @pause q' q ready' ready next' next hq hready _ ih =>
    have ht := hwait ready' ready q' q hready hq
    simp only [Prog.run, hready _ _ ht]
    split
    · exact ih _ _ ht
    · exact ⟨rfl, ht⟩

theorem Abreast.agree (hwait : WaitsAlike wait S) (h : Abreast S p' p) : Agree wait S p' p :=
  fun q' q hq => (h q' q hq).run hwait

-- ---------------------------------------------------------------------------
-- Programs that may be dropped
-- ---------------------------------------------------------------------------

/-- The programs agree, and if one that `races` may drop them they also go abreast. -/
def Matches (races : Prop) (wait : (σ → Bool) → Scheduler σ → Scheduler σ)
    (S : Scheduler σ → Scheduler σ → Prop) (p' p : Prog σ α) : Prop :=
  Agree wait S p' p ∧ (races → Abreast S p' p)

variable {races : Prop}

theorem matches_done (a : α) : Matches races wait S (.done a) (.done a) :=
  ⟨agree_done a, fun _ => abreast_done a⟩

theorem matches_panic (e : Panic) : Matches races wait S (.panic e : Prog σ α) (.panic e) :=
  ⟨agree_panic e, fun _ => abreast_panic e⟩

theorem matches_look {k : σ → Prog σ α} (h : ∀ s, Matches races wait S (k s) p) :
    Matches races wait S (.get k) p :=
  ⟨agree_look fun s => (h s).1, fun hraces q' q hq => .getLeft ((h q'.state).2 hraces q' q hq)⟩

theorem matches_modify {f : σ → σ}
    (h : ∀ q' q, S q' q → S (q'.put (f q'.state)) (q.put (f q.state))) :
    Matches races wait S (.modify f) (.modify f) :=
  ⟨fun q' q hq => ⟨rfl, h q' q hq⟩,
    fun _ q' q hq => .getLeft (.getRight (.setLeft (.setRight (.done (h q' q hq)))))⟩

theorem matches_turn (hwait : WaitsAlike wait S) :
    Matches races wait S (.turn : Prog σ Unit) .turn := by
  have habreast : Abreast S (.turn : Prog σ Unit) .turn := fun _ _ hq =>
    .pause hq (fun _ _ _ => rfl) fun _ _ ht => .done ht
  exact ⟨habreast.agree hwait, fun _ => habreast⟩

theorem Agree.matches {a : α} (h : Agree wait S p' (.done a)) (hp : races → p'.Prompt) :
    Matches races wait S p' (.done a) :=
  ⟨h, fun hraces q' q hq => (hp hraces).abreastFrom_done (h q' q hq).1 (h q' q hq).2⟩

namespace Matches

theorem mono {races' : Prop} (hraces : races' → races) (h : Matches races wait S p' p) :
    Matches races' wait S p' p := ⟨h.1, fun hraces' => h.2 (hraces hraces')⟩

theorem look {k' k : σ → Prog σ α}
    (h : ∀ q' q, S q' q → Matches races wait S (k' q'.state) (k q.state)) :
    Matches races wait S (.get k') (.get k) :=
  ⟨fun q' q hq => (h q' q hq).1 q' q hq,
    fun hraces q' q hq => .getLeft (.getRight ((h q' q hq).2 hraces q' q hq))⟩

theorem bind {f' f : α → Prog σ β} (h : Matches races wait S p' p)
    (hf : ∀ a, Matches races wait S (f' a) (f a)) :
    Matches races wait S (p'.bind f') (p.bind f) :=
  ⟨h.1.bind fun a => (hf a).1, fun hraces => (h.2 hraces).bind fun a => (hf a).2 hraces⟩

theorem attempt (h : Matches races wait S p' p) : Matches races wait S p'.attempt p.attempt :=
  ⟨h.1.attempt, fun hraces => (h.2 hraces).attempt⟩

theorem guard {flag : σ → Bool} (hraces : races) (hwait : WaitsAlike wait S)
    (hflag : Agree wait S (.get fun s => .done (flag s)) (.get fun s => .done (flag s)))
    (h : Matches races wait S p' p) : Matches races wait S (p'.guard flag) (p.guard flag) := by
  have hconcur : Concur S flag flag := fun q' q hq => Ending.returned.inj (hflag q' q hq).1
  have habreast := (h.2 hraces).guard hconcur
  exact ⟨habreast.agree hwait, fun _ => habreast⟩

end Matches

end Mediator.Prog
