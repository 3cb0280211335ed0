import Mediator.Proofs.Chain.Planned
import Mediator.Proofs.Prog.Endings
import Mediator.Proofs.Prog.Passage

/-!
# Nodes that run the rest of the chain many times

A node may run the rest of the chain any number of times, one time after the other: it goes in
`Rounds`. A run of a chain is a tree of traversals. That of such a node has for every round one of
what is inside of the node, and that of the handler has none; each begins where its node has got to,
and its node goes on where it ends. The traversal of any other node that takes part is left closed.
All runs that end are such trees (`Traversal.exists_through`), and as long as nothing panics, the
same nodes take part and all of these go in rounds, the number of traversals at a depth is the
product of the numbers of rounds outside of it (`Traversal.Through.levels`).
-/

namespace Mediator

variable {wait : (World → Bool) → Scheduler World → Scheduler World} {q q' : Scheduler World}

/-- What a node does that runs the rest of the chain so many times: something of its own before each
time, which may depend on all that it knows by then, and in the end. Should the rest panic, anything
may come of it. -/
inductive Rounds : Nat → Type 1 where
  | last (own : Action Reply) : Rounds 0
  | again {α : Type} {k : Nat} (own : Action α) (go : α → Reply → Rounds k)
      (rescue : α → Panic → Action Reply) : Rounds (k + 1)

/-- One way of a request through the rest of a chain, from where it was entered to its end, with the
ways through what is inside of the first node. -/
structure Traversal where
  found : Scheduler World
  ending : Except Panic Reply
  left : Scheduler World
  inner : List Traversal

namespace Rounds

def around {k : Nat} : Rounds k → Action Reply → Action Reply
  | .last own, _ => own
  | .again own go rescue, next => own.bind fun a => next.attempt.bind fun
    | .ok reply => (go a reply).around next
    | .error e => rescue a e

inductive Played (wait : (World → Bool) → Scheduler World → Scheduler World)
    (P : Traversal → Prop) :
    {k : Nat} → Rounds k → Scheduler World → List Traversal → Except Panic Reply →
      Scheduler World → Prop
  | last {own : Action Reply} {q q' : Scheduler World} {r : Except Panic Reply}
      (h : own.run wait q = (.ofCaught r, q')) : Played wait P (.last own) q [] r q'
  | again {α : Type} {k : Nat} {own : Action α} {go : α → Reply → Rounds k}
      {rescue : α → Panic → Action Reply} {q q' : Scheduler World} {a : α} {v : Traversal}
      {vs : List Traversal} {reply : Reply} {r : Except Panic Reply}
      (h : own.run wait q = (.returned a, v.found)) (hv : P v) (hreply : v.ending = .ok reply)
      (hgo : Played wait P (go a reply) v.left vs r q') :
      Played wait P (.again own go rescue) q (v :: vs) r q'
  | panicked {α : Type} {k : Nat} {own : Action α} {go : α → Reply → Rounds k}
      {rescue : α → Panic → Action Reply} {q q' : Scheduler World} {e : Panic}
      (h : own.run wait q = (.panicked e, q')) :
      Played wait P (.again own go rescue) q [] (.error e) q'
  | rescued {α : Type} {k : Nat} {own : Action α} {go : α → Reply → Rounds k}
      {rescue : α → Panic → Action Reply} {q q' : Scheduler World} {a : α} {v : Traversal}
      {e : Panic} {r : Except Panic Reply} (h : own.run wait q = (.returned a, v.found)) (hv : P v)
      (he : v.ending = .error e) (hrescue : (rescue a e).run wait v.left = (.ofCaught r, q')) :
      Played wait P (.again own go rescue) q [v] r q'

variable {k : Nat} {rounds : Rounds k} {P : Traversal → Prop} {vs : List Traversal}
  {r : Except Panic Reply}

theorem Played.run {next : Action Reply} (h : rounds.Played wait P q vs r q')
    (hnext : ∀ v, P v → next.run wait v.found = (.ofCaught v.ending, v.left)) :
    (rounds.around next).run wait q = (.ofCaught r, q') := by
  induction h with
  | last h => exact h
  | again h hv hreply _ ih =>
    have hinside := hnext _ hv
    rw [hreply] at hinside
    simp only [around, Prog.run_bind, Prog.run_attempt, h, hinside, Ending.ofCaught, ih]
  | panicked h => simp only [around, Prog.run_bind, h, Ending.ofCaught]
  | rescued h hv he hrescue =>
    have hinside := hnext _ hv
    rw [he] at hinside
    simp only [around, Prog.run_bind, Prog.run_attempt, h, hinside, Ending.ofCaught, hrescue]

theorem exists_played {next : Action Reply}
    (hnext : ∀ q r q', next.run wait q = (.ofCaught r, q') →
      ∃ v, P v ∧ v.found = q ∧ v.ending = r ∧ v.left = q')
    (h : (rounds.around next).run wait q = (.ofCaught r, q')) :
    ∃ vs, rounds.Played wait P q vs r q' := by
  induction rounds generalizing q with
  | last own => exact ⟨[], .last h⟩
  | again own go rescue ih =>
    simp only [around, Prog.run_bind, Prog.run_attempt] at h
    rcases hown : own.run wait q with ⟨a | e | _, q₁⟩
    · rcases hrest : next.run wait q₁ with ⟨reply | e | _, q₂⟩
      · obtain ⟨v, hv, rfl, hreply, rfl⟩ := hnext q₁ (.ok reply) q₂ hrest
        simp only [hown, hrest] at h
        obtain ⟨vs, hvs⟩ := ih a reply h
        exact ⟨v :: vs, .again hown hv hreply hvs⟩
      · obtain ⟨v, hv, rfl, he, rfl⟩ := hnext q₁ (.error e) q₂ hrest
        simp only [hown, hrest] at h
        exact ⟨[v], .rescued hown hv he h⟩
      · simp only [hown, hrest] at h
        cases r <;> cases h
    · simp only [hown] at h
      cases r with
      | ok reply => cases h
      | error e => cases h; exact ⟨[], .panicked hown⟩
    · simp only [hown] at h
      cases r <;> cases h

theorem Played.forall_mem (h : rounds.Played wait P q vs r q') : ∀ v ∈ vs, P v := by
  induction h with
  | last _ => exact List.forall_mem_nil P
  | again _ hv _ _ ih => exact List.forall_mem_cons.mpr ⟨hv, ih⟩
  | panicked _ => exact List.forall_mem_nil P
  | rescued _ hv _ _ => exact List.forall_mem_singleton.mpr hv

theorem Played.imp {P' : Traversal → Prop} (h : rounds.Played wait P q vs r q')
    (hP : ∀ v ∈ vs, P v → P' v) : rounds.Played wait P' q vs r q' := by
  induction h with
  | last h => exact .last h
  | again h hv hreply _ ih =>
    obtain ⟨hfirst, hrest⟩ := List.forall_mem_cons.mp hP
    exact .again h (hfirst hv) hreply (ih hrest)
  | panicked h => exact .panicked h
  | rescued h hv he hrescue => exact .rescued h (hP _ List.mem_cons_self hv) he hrescue

theorem Played.length_eq (h : rounds.Played wait P q vs r q')
    (hreplies : ∀ v ∈ vs, ∃ reply, v.ending = .ok reply) (hr : ∃ reply, r = .ok reply) :
    vs.length = k := by
  induction h with
  | last _ => rfl
  | again _ _ _ _ ih => exact congrArg (· + 1) (ih (List.forall_mem_cons.mp hreplies).2 hr)
  | panicked _ => cases hr.choose_spec
  | rescued _ _ he _ =>
    obtain ⟨reply, hreply⟩ := hreplies _ List.mem_cons_self
    cases he.symm.trans hreply

def NeverPanics {k : Nat} : Rounds k → Prop
  | .last own => own.EndsIn (fun _ => False) fun _ => True
  | .again own go _ =>
    own.EndsIn (fun _ => False) (fun _ => True) ∧ ∀ a reply, (go a reply).NeverPanics

theorem Played.replied (h : rounds.Played wait P q vs r q') (hrounds : rounds.NeverPanics)
    (hP : ∀ v, P v → ∃ reply, v.ending = .ok reply) : ∃ reply, r = .ok reply := by
  induction h with
  | @last _ _ _ r h =>
    cases r with
    | ok reply => exact ⟨reply, rfl⟩
    | error e => exact (hrounds.run_panicked (congrArg Prod.fst h)).elim
  | again _ _ _ _ ih => exact ih (hrounds.2 _ _)
  | panicked h => exact (hrounds.1.run_panicked (congrArg Prod.fst h)).elim
  | rescued _ hv he _ =>
    obtain ⟨reply, hreply⟩ := hP _ hv
    cases he.symm.trans hreply

end Rounds

-- ---------------------------------------------------------------------------
-- Chains
-- ---------------------------------------------------------------------------

/-- An intercept that goes in so many rounds, behind any number of switches. -/
structure Repeater where
  link : Link
  times : Nat
  rounds : RequestContext → Rounds times
  intercept_core : ∀ ctx next, link.core.intercept ctx next = (rounds ctx).around next

namespace Repeater

def node (m : Repeater) : Intercept := m.link.intercept

def takesPart (m : Repeater) (w : World) (caps : Capabilities) : Bool := m.link.takesPart w caps

theorem appliesTo_node (m : Repeater) (w : World) (caps : Capabilities) :
    m.node.appliesTo w caps = m.takesPart w caps := m.link.appliesTo_intercept w caps

def product (ms : List Repeater) : Nat := (ms.map times).foldr (· * ·) 1

theorem product_eq_zero {ms : List Repeater} {m : Repeater} (hm : m ∈ ms) (h : m.times = 0) :
    product ms = 0 := by
  induction ms with
  | nil => cases hm
  | cons n ms ih =>
    show n.times * product ms = 0
    obtain rfl | hm := List.mem_cons.mp hm
    · rw [h, Nat.zero_mul]
    · rw [ih hm, Nat.mul_zero]

end Repeater

/-- A node of a chain, whether it goes in rounds or not. -/
abbrev Station : Type 1 := Repeater ⊕ Intercept

namespace Station

variable {l : List Station} {m : Repeater} {w : World} {caps : Capabilities}

def node : Station → Intercept := Sum.elim Repeater.node id

/-- Those of the nodes that go in rounds and take part in a request which comes to them now. -/
def present (l : List Station) (w : World) (caps : Capabilities) : List Repeater :=
  (l.filterMap Sum.getLeft?).filter (·.takesPart w caps)

theorem mem_present : m ∈ present l w caps ↔ .inl m ∈ l ∧ m.takesPart w caps = true := by
  simp [present, Sum.getLeft?_eq_some_iff]

theorem present_cons_of_takesPart (h : m.takesPart w caps = true) (l : List Station) :
    present (.inl m :: l) w caps = m :: present l w caps := List.filter_cons_of_pos h

theorem present_cons_of_not_takesPart (h : ¬m.takesPart w caps = true) (l : List Station) :
    present (.inl m :: l) w caps = present l w caps := List.filter_cons_of_neg h

theorem applicable_map_node (l : List Station)
    (h : ∀ node, .inr node ∈ l → node.appliesTo w caps = false) :
    Chain.applicable (l.map Station.node) w caps = (present l w caps).map Repeater.node := by
  induction l with
  | nil => rfl
  | cons x l ih =>
    have ih := ih fun node hnode => h node (List.mem_cons_of_mem _ hnode)
    rw [Chain.applicable] at ih ⊢
    cases x with
    | inl m =>
      by_cases hpart : m.takesPart w caps = true
      · rw [present_cons_of_takesPart hpart, List.map_cons, List.map_cons, ← ih]
        exact List.filter_cons_of_pos ((m.appliesTo_node w caps).trans hpart)
      · rw [present_cons_of_not_takesPart hpart, ← ih]
        exact List.filter_cons_of_neg fun h => hpart ((m.appliesTo_node w caps).symm.trans h)
    | inr node =>
      rw [List.map_cons]
      refine Eq.trans (List.filter_cons_of_neg ?_) ih
      simp [Station.node, h node List.mem_cons_self]

end Station

theorem Link.run_intercept {l : Link} (hon : l.isOn q.state = true) (ctx : RequestContext)
    (next : Action Reply) :
    (l.intercept.intercept ctx next).run wait q = (l.core.intercept ctx next).run wait q := by
  induction l with
  | bare node => rfl
  | switched switch inner ih =>
    obtain ⟨hswitch, hinner⟩ : q.state.switches switch = true ∧ inner.isOn q.state = true := by
      simpa [isOn] using hon
    show (if q.state.switches switch then inner.intercept.intercept ctx next else next).run wait q
      = (inner.core.intercept ctx next).run wait q
    rw [if_pos hswitch]
    exact ih hinner

namespace Traversal

variable {ctx : RequestContext} {handler : Handler} {l : List Station} {v u : Traversal}

/-- The traversals at this depth inside of one, in their order. -/
def level : Nat → Traversal → List Traversal
  | 0, v => [v]
  | j + 1, v => v.inner.flatMap (level j)

/-- The request goes through these nodes and the handler. It begins with the first node that takes
part; if that goes in rounds, these are traversals of the nodes after it. -/
def Through (wait : (World → Bool) → Scheduler World → Scheduler World) (ctx : RequestContext)
    (handler : Handler) : List Station → Traversal → Prop
  | [], v => v.inner = [] ∧
    (handler ctx.request ctx.operation).run wait v.found = (.ofCaught v.ending, v.left)
  | .inl m :: l, v =>
    if m.takesPart v.found.state ctx.capabilities then
      (m.rounds ctx).Played wait (Through wait ctx handler l) v.found v.inner v.ending v.left
    else Through wait ctx handler l v
  | .inr node :: l, v =>
    if node.appliesTo v.found.state ctx.capabilities then
      v.inner = [] ∧
        (node.intercept ctx (Chain.run (l.map Station.node) ctx handler)).run wait v.found =
          (.ofCaught v.ending, v.left)
    else Through wait ctx handler l v

theorem run_cons_of_takesPart {m : Repeater}
    (h : m.takesPart q.state ctx.capabilities = true) :
    (Chain.run ((.inl m :: l).map Station.node) ctx handler).run wait q =
      ((m.rounds ctx).around (Chain.run (l.map Station.node) ctx handler)).run wait q := by
  have hon : m.link.isOn q.state = true := by
    simp only [Repeater.takesPart, Link.takesPart, Bool.and_eq_true] at h
    exact h.1
  show (Chain.run (m.node :: l.map Station.node) ctx handler).run wait q = _
  rw [Chain.run, Prog.run_get, m.appliesTo_node, if_pos h, ← m.intercept_core]
  exact Link.run_intercept hon ctx _

theorem run_cons_of_not_takesPart {m : Repeater}
    (h : ¬m.takesPart q.state ctx.capabilities = true) :
    (Chain.run ((.inl m :: l).map Station.node) ctx handler).run wait q =
      (Chain.run (l.map Station.node) ctx handler).run wait q := by
  show (Chain.run (m.node :: l.map Station.node) ctx handler).run wait q = _
  rw [Chain.run, Prog.run_get, m.appliesTo_node, if_neg h]

theorem run_cons_other (node : Intercept) (q : Scheduler World) :
    (Chain.run ((.inr node :: l).map Station.node) ctx handler).run wait q =
      if node.appliesTo q.state ctx.capabilities = true then
        (node.intercept ctx (Chain.run (l.map Station.node) ctx handler)).run wait q
      else (Chain.run (l.map Station.node) ctx handler).run wait q := by
  show (Chain.run (node :: l.map Station.node) ctx handler).run wait q = _
  rw [Chain.run, Prog.run_get]
  split <;> rfl

theorem Through.run (h : v.Through wait ctx handler l) :
    (Chain.run (l.map Station.node) ctx handler).run wait v.found =
      (.ofCaught v.ending, v.left) := by
  induction l generalizing v with
  | nil => exact h.2
  | cons x l ih =>
    cases x with
    | inl m =>
      rw [Through] at h
      split at h
      · next hpart =>
        rw [run_cons_of_takesPart hpart]
        exact h.run fun _ => ih
      · next hpart =>
        rw [run_cons_of_not_takesPart hpart]
        exact ih h
    | inr node =>
      rw [Through] at h
      rw [run_cons_other]
      by_cases happlies : node.appliesTo v.found.state ctx.capabilities = true
      · rw [if_pos happlies] at h ⊢
        exact h.2
      · rw [if_neg happlies] at h ⊢
        exact ih h

theorem exists_through {r : Except Panic Reply}
    (h : (Chain.run (l.map Station.node) ctx handler).run wait q = (.ofCaught r, q')) :
    ∃ v : Traversal, v.Through wait ctx handler l ∧ v.found = q ∧ v.ending = r ∧ v.left = q' := by
  induction l generalizing q r q' with
  | nil => exact ⟨⟨q, r, q', []⟩, ⟨rfl, h⟩, rfl, rfl, rfl⟩
  | cons x l ih =>
    cases x with
    | inl m =>
      by_cases hpart : m.takesPart q.state ctx.capabilities = true
      · rw [run_cons_of_takesPart hpart] at h
        obtain ⟨vs, hvs⟩ := Rounds.exists_played (fun _ _ _ => ih) h
        exact ⟨⟨q, r, q', vs⟩, by rw [Through, if_pos hpart]; exact hvs, rfl, rfl, rfl⟩
      · rw [run_cons_of_not_takesPart hpart] at h
        obtain ⟨v, hv, rfl, rfl, rfl⟩ := ih h
        exact ⟨v, by rw [Through, if_neg hpart]; exact hv, rfl, rfl, rfl⟩
    | inr node =>
      rw [run_cons_other] at h
      split at h
      · next happlies =>
        exact ⟨⟨q, r, q', []⟩, by rw [Through, if_pos happlies]; exact ⟨rfl, h⟩, rfl, rfl, rfl⟩
      · next happlies =>
        obtain ⟨v, hv, rfl, rfl, rfl⟩ := ih h
        exact ⟨v, by rw [Through, if_neg happlies]; exact hv, rfl, rfl, rfl⟩

-- ---------------------------------------------------------------------------
-- Depths
-- ---------------------------------------------------------------------------

theorem mem_level_succ {j : Nat} {w : Traversal} :
    w ∈ v.level (j + 1) ↔ ∃ u ∈ v.inner, w ∈ u.level j := List.mem_flatMap

theorem level_add (i j : Nat) : v.level (i + j) = (v.level i).flatMap (level j) := by
  induction i generalizing v with
  | zero => simp [level]
  | succ i ih =>
    rw [Nat.add_right_comm, level, level, List.flatMap_assoc]
    exact congrArg (List.flatMap · v.inner) (funext fun u => ih)

theorem level_eq_nil {i j : Nat} (h : v.level i = []) (hij : i ≤ j) : v.level j = [] := by
  obtain ⟨d, rfl⟩ := Nat.exists_eq_add_of_le hij
  rw [level_add, h, List.flatMap_nil]

/-- Nothing panics, and whenever the turn of a node comes, the same nodes take part, all of which
go in rounds. -/
def Calm (v : Traversal) (l : List Station) (caps : Capabilities) : Prop :=
  ∀ j, ∀ u ∈ v.level j, (∃ reply, u.ending = .ok reply) ∧
    (∀ m, .inl m ∈ l → m.takesPart u.found.state caps = m.takesPart v.found.state caps) ∧
    ∀ node, .inr node ∈ l → node.appliesTo u.found.state caps = false

namespace Calm

variable {caps : Capabilities} {x : Station}

theorem tail (h : v.Calm (x :: l) caps) : v.Calm l caps := by
  intro j u hu
  obtain ⟨hreply, hsame, hothers⟩ := h j u hu
  exact ⟨hreply, fun m hm => hsame m (List.mem_cons_of_mem _ hm),
    fun node hnode => hothers node (List.mem_cons_of_mem _ hnode)⟩

theorem replied (h : v.Calm l caps) : ∃ reply, v.ending = .ok reply :=
  (h 0 v List.mem_cons_self).1

theorem others (h : v.Calm l caps) :
    ∀ node, .inr node ∈ l → node.appliesTo v.found.state caps = false :=
  (h 0 v List.mem_cons_self).2.2

theorem mem_level_one (hu : u ∈ v.inner) : u ∈ v.level 1 :=
  mem_level_succ.mpr ⟨u, hu, List.mem_cons_self⟩

theorem inner (h : v.Calm l caps) (hu : u ∈ v.inner) : u.Calm l caps := by
  intro j w hw
  obtain ⟨hreply, hsame, hothers⟩ := h (j + 1) w (mem_level_succ.mpr ⟨u, hu, hw⟩)
  obtain ⟨-, hsame', -⟩ := h 1 u (mem_level_one hu)
  exact ⟨hreply, fun m hm => (hsame m hm).trans (hsame' m hm).symm, hothers⟩

theorem present_inner (h : v.Calm l caps) (hu : u ∈ v.inner) :
    Station.present l u.found.state caps = Station.present l v.found.state caps := by
  obtain ⟨-, hsame, -⟩ := h 1 u (mem_level_one hu)
  refine List.filter_congr fun m hm => hsame m ?_
  simpa [Sum.getLeft?_eq_some_iff] using hm

end Calm

/-- At each depth there are as many traversals as the product of the numbers of rounds outside of
it, and each of them is one of the nodes inside of it. -/
theorem Through.levels (h : v.Through wait ctx handler l) (hcalm : v.Calm l ctx.capabilities)
    {j : Nat} (hj : j ≤ (Station.present l v.found.state ctx.capabilities).length) :
    let ns := Station.present l v.found.state ctx.capabilities
    (v.level j).length = Repeater.product (ns.take j) ∧
      ∀ u ∈ v.level j, u.Through wait ctx handler ((ns.drop j).map .inl) := by
  induction l generalizing v j with
  | nil =>
    obtain rfl : j = 0 := Nat.le_zero.mp hj
    exact ⟨rfl, List.forall_mem_singleton.mpr h⟩
  | cons x l ih =>
    cases x with
    | inl m =>
      rw [Through] at h
      by_cases hpart : m.takesPart v.found.state ctx.capabilities = true
      · rw [if_pos hpart] at h
        rw [Station.present_cons_of_takesPart hpart] at hj ⊢
        -- What is inside goes through those of the other nodes that take part here.
        have hinner : ∀ u ∈ v.inner, ∀ {j : Nat},
            j ≤ (Station.present l v.found.state ctx.capabilities).length →
            (u.level j).length =
              Repeater.product ((Station.present l v.found.state ctx.capabilities).take j) ∧
            ∀ w ∈ u.level j, w.Through wait ctx handler
              (((Station.present l v.found.state ctx.capabilities).drop j).map .inl) := by
          intro u hu
          rw [← hcalm.tail.present_inner hu]
          exact ih (h.forall_mem u hu) (hcalm.tail.inner hu)
        cases j with
        | zero =>
          refine ⟨rfl, List.forall_mem_singleton.mpr ?_⟩
          rw [List.drop_zero, List.map_cons, Through, if_pos hpart]
          exact h.imp fun u hu _ => (hinner u hu (Nat.zero_le _)).2 u List.mem_cons_self
        | succ j =>
          have hj := Nat.le_of_succ_le_succ hj
          have hrounds : v.inner.length = m.times :=
            h.length_eq (fun u hu => (hcalm.inner hu).replied) hcalm.replied
          constructor
          · have hconst : v.inner.map (fun u => (u.level j).length) =
                List.replicate v.inner.length _ :=
              List.map_eq_replicate_iff.mpr fun u hu => (hinner u hu hj).1
            rw [level, List.length_flatMap, hconst, List.sum_replicate_nat, hrounds]
            rfl
          · intro w hw
            obtain ⟨u, hu, hw⟩ := mem_level_succ.mp hw
            exact (hinner u hu hj).2 w hw
      · rw [if_neg hpart] at h
        rw [Station.present_cons_of_not_takesPart hpart] at hj ⊢
        exact ih h hcalm.tail hj
    | inr node =>
      rw [Through, if_neg (by simp [hcalm.others node List.mem_cons_self])] at h
      exact ih h hcalm.tail hj

theorem Through.played (h : v.Through wait ctx handler l) (hcalm : v.Calm l ctx.capabilities)
    {i : Nat} {m : Repeater}
    (hm : (Station.present l v.found.state ctx.capabilities)[i]? = some m)
    (hu : u ∈ v.level i) :
    (m.rounds ctx).Played wait
      (Through wait ctx handler
        (((Station.present l v.found.state ctx.capabilities).drop (i + 1)).map .inl))
      u.found u.inner u.ending u.left := by
  obtain ⟨hi, rfl⟩ := List.getElem?_eq_some_iff.mp hm
  obtain ⟨hmem, hpart⟩ := Station.mem_present.mp (List.getElem_mem hi)
  obtain ⟨-, hsame, -⟩ := hcalm i u hu
  have hthrough := (h.levels hcalm (Nat.le_of_lt hi)).2 u hu
  rw [List.drop_eq_getElem_cons hi, List.map_cons, Through,
    if_pos ((hsame _ hmem).trans hpart)] at hthrough
  exact hthrough

theorem Through.level_eq_nil_of_times_zero (h : v.Through wait ctx handler l)
    (hcalm : v.Calm l ctx.capabilities) {i j : Nat} {m : Repeater}
    (hm : (Station.present l v.found.state ctx.capabilities)[i]? = some m)
    (hzero : m.times = 0) (hij : i < j) : v.level j = [] := by
  obtain ⟨hi, rfl⟩ := List.getElem?_eq_some_iff.mp hm
  have hlength := (h.levels hcalm (Nat.succ_le_of_lt hi)).1
  rw [Repeater.product_eq_zero
    (List.mem_take_iff_getElem.mpr ⟨i, by omega, rfl⟩) hzero] at hlength
  exact level_eq_nil (List.length_eq_zero_iff.mp hlength) hij

/-- Where nothing panics by itself, no node looks at anything that may change to see whether it
takes part, and those that do not go in rounds never take part, every traversal is calm. -/
theorem Through.calm (hms : ∀ m, .inl m ∈ l → (m.rounds ctx).NeverPanics ∧
      ∀ w w', m.takesPart w ctx.capabilities = m.takesPart w' ctx.capabilities)
    (hothers : ∀ node, .inr node ∈ l → ∀ w, node.appliesTo w ctx.capabilities = false)
    (hhandler : (handler ctx.request ctx.operation).EndsIn (fun _ => False) fun _ => True)
    (h : v.Through wait ctx handler l) : v.Calm l ctx.capabilities := by
  refine fun j u hu => ⟨?_, fun m hm => (hms m hm).2 _ _, fun node hnode => hothers node hnode _⟩
  induction l generalizing v u j with
  | nil =>
    obtain ⟨hinner, hrun⟩ := h
    cases j with
    | zero =>
      obtain rfl := List.mem_singleton.mp hu
      cases hending : u.ending with
      | ok reply => exact ⟨reply, rfl⟩
      | error e =>
        rw [hending] at hrun
        exact (hhandler.run_panicked (congrArg Prod.fst hrun)).elim
    | succ j =>
      obtain ⟨w, hw, -⟩ := mem_level_succ.mp hu
      rw [hinner] at hw
      cases hw
  | cons x l ih =>
    have ih {v : Traversal} := @ih v (fun m hm => hms m (List.mem_cons_of_mem _ hm))
      fun node hnode => hothers node (List.mem_cons_of_mem _ hnode)
    cases x with
    | inl m =>
      rw [Through] at h
      split at h
      · cases j with
        | zero =>
          obtain rfl := List.mem_singleton.mp hu
          exact h.replied (hms m List.mem_cons_self).1 fun w hw => ih hw 0 w List.mem_cons_self
        | succ j =>
          obtain ⟨w, hw, hu⟩ := mem_level_succ.mp hu
          exact ih (h.forall_mem w hw) j u hu
      · exact ih h j u hu
    | inr node =>
      rw [Through, if_neg (by simp [hothers node List.mem_cons_self])] at h
      exact ih h j u hu

end Traversal

namespace Chain

/-- The runs of a chain that end are traversals of its nodes. As long as nothing panics and the same
nodes take part, which go in rounds, each of them is entered as often as the product of the numbers
of rounds outside of it, and so is the handler; the request is the same every time, and what comes
of it is what comes of a run through the nodes inside alone. -/
theorem runs_multiply (l : List Station) (ctx : RequestContext) (handler : Handler)
    (wait : (World → Bool) → Scheduler World → Scheduler World) :
    let runFrom (l : List Station) (q : Scheduler World) :=
      (Chain.run (l.map Station.node) ctx handler).run wait q
    (∀ q r q', runFrom l q = (.ofCaught r, q') ↔ ∃ v : Traversal,
      v.Through wait ctx handler l ∧ v.found = q ∧ v.ending = r ∧ v.left = q') ∧
    ∀ v : Traversal, v.Through wait ctx handler l → v.Calm l ctx.capabilities →
      let ns := Station.present l v.found.state ctx.capabilities
      Chain.applicable (l.map Station.node) v.found.state ctx.capabilities =
        ns.map Repeater.node ∧
      (∀ j ≤ ns.length, (v.level j).length = Repeater.product (ns.take j) ∧
        ∀ u ∈ v.level j,
          runFrom ((ns.drop j).map .inl) u.found = (.ofCaught u.ending, u.left)) ∧
      (∀ i m, ns[i]? = some m → ∀ u ∈ v.level i,
        (m.rounds ctx).Played wait
          (Traversal.Through wait ctx handler ((ns.drop (i + 1)).map .inl))
          u.found u.inner u.ending u.left) ∧
      (∀ u ∈ v.level ns.length, u.inner = [] ∧
        (handler ctx.request ctx.operation).run wait u.found = (.ofCaught u.ending, u.left)) ∧
      ∀ i m, ns[i]? = some m → m.times = 0 → ∀ j, i < j → v.level j = [] := by
  intro runFrom
  refine ⟨fun q r q' => ⟨Traversal.exists_through, ?_⟩, fun v hv hcalm => ?_⟩
  · rintro ⟨v, hv, rfl, rfl, rfl⟩
    exact hv.run
  · refine ⟨Station.applicable_map_node l hcalm.others, fun j hj => ?_, fun i m hm u hu => ?_,
      fun u hu => ?_, fun i m hm hzero j hij => ?_⟩
    · obtain ⟨hlength, hthrough⟩ := hv.levels hcalm hj
      exact ⟨hlength, fun u hu => (hthrough u hu).run⟩
    · exact hv.played hcalm hm hu
    · have hthrough := (hv.levels hcalm (Nat.le_refl _)).2 u hu
      rw [List.drop_length] at hthrough
      exact hthrough
    · exact hv.level_eq_nil_of_times_zero hcalm hm hzero hij

end Chain

-- ---------------------------------------------------------------------------
-- Repetitions
-- ---------------------------------------------------------------------------

namespace Repeater

open Rehearsal

def repetition : (times : Nat) → Reply → Rounds times
  | 0, last => .last (return last)
  | n + 1, _ => .again (.done ()) (fun _ reply => repetition n reply) fun _ e => .panic e

theorem runTimes_eq (next : Action Reply) (times : Nat) (last : Reply) :
    runTimes false next times last = (repetition times last).around next := by
  induction times generalizing last with
  | zero => rfl
  | succ n ih =>
    simp only [runTimes, repetition, Rounds.around, Prog.bind_eq, Prog.done_bind]
    rw [Prog.bind_eq_attempt_bind]
    refine congrArg _ (funext fun r => ?_)
    match r with
    | .ok (.ok (.success _)) => exact ih _
    | .ok (.ok (.failure _)) => exact ih _
    | .ok (.error _) => exact ih _
    | .error _ => rfl

def repeating (times : Nat) (required : Option Capabilities) : Repeater where
  link := .bare (Rehearsal.repeating times false required)
  times := times
  rounds _ := repetition times (.ok (.fail "never ran"))
  intercept_core _ next := runTimes_eq next times _

theorem repetition_neverPanics (times : Nat) (last : Reply) :
    (repetition times last).NeverPanics := by
  induction times generalizing last with
  | zero => trivial
  | succ n ih => exact ⟨trivial, fun _ reply => ih reply⟩

theorem repeating_neverPanics (times : Nat) (required : Option Capabilities)
    (ctx : RequestContext) : ((repeating times required).rounds ctx).NeverPanics :=
  repetition_neverPanics times _

end Repeater

/-- The nodes in the middle do not apply, and one of them is no repetition. -/
theorem Chain.two_rounds_of_three :
    let l : List Station := [.inl (.repeating 2 none), .inl (.repeating 5 (some .full)),
      .inr (.audit .recording), .inl (.repeating 3 none)]
    let ctx : RequestContext := ⟨.plain ⟨⟨0⟩, "shop::Ping", .empty, .unit⟩ .null, default⟩
    let handler : Handler := fun _ _ => (Prog.modify (·.count 0)).bind fun _ =>
      .pause (fun _ => true) (.done (.ok (.success .unit)))
    ∃ v : Traversal, v.Through Scheduler.alone ctx handler l ∧ v.found = .start .empty ∧
      v.ending = .ok (.ok (.success .unit)) ∧ (v.level 1).length = 2 ∧ (v.level 2).length = 6 ∧
      v.left.state.tally 0 = 6 := by
  intro l ctx handler
  let course := (Chain.run (l.map Station.node) ctx handler).run Scheduler.alone (.start .empty)
  obtain ⟨hruns, hcounts⟩ := runs_multiply l ctx handler Scheduler.alone
  obtain ⟨v, hv, hfound, hending, hleft⟩ :=
    (hruns (.start .empty) (.ok (.ok (.success .unit))) course.2).mp rfl
  have hhandler : (handler ctx.request ctx.operation).EndsIn (fun _ => False) fun _ => True :=
    fun _ => trivial
  have hcalm : v.Calm l ctx.capabilities := by
    refine hv.calm (fun m hm => ?_) (fun node hnode w => ?_) hhandler
    · simp only [l, List.mem_cons, Sum.inl.injEq, reduceCtorEq, List.not_mem_nil, or_false,
        false_or] at hm
      obtain rfl | rfl | rfl := hm <;>
        exact ⟨Repeater.repeating_neverPanics _ _ ctx, fun _ _ => rfl⟩
    · simp only [l, List.mem_cons, Sum.inr.injEq, reduceCtorEq, List.not_mem_nil, or_false,
        false_or] at hnode
      obtain rfl := hnode
      rfl
  have hpresent : Station.present l v.found.state ctx.capabilities =
      [.repeating 2 none, .repeating 3 none] := rfl
  obtain ⟨-, hlevels, -⟩ := hcounts v hv hcalm
  simp only [hpresent] at hlevels
  refine ⟨v, hv, hfound, hending, (hlevels 1 (by decide)).1, (hlevels 2 (by decide)).1, ?_⟩
  rw [hleft]
  rfl

end Mediator
