import Mediator.Proofs.Caching.Visit
import Mediator.Proofs.Prog.Crew
import Mediator.Proofs.Store.TimedMap
import Mathlib.Data.List.Basic

/-!
# The ledger of a store

A ledger is kept beside the world: which worlds have been left behind, and which responses caching
nodes have stored, each with the visit that stored it. `Ledger.Step` says what may happen to a world
whose store only caching nodes touch: something that leaves the store alone, a look-up, or a deposit
by a visit whose inner part has returned the response. Step by step the store balances with its
ledger (`Balances`): it holds nothing but the latest deposits under their keys, and it holds each of
these until that expires.
-/

namespace Mediator

-- ---------------------------------------------------------------------------
-- Ledgers
-- ---------------------------------------------------------------------------

structure World.Quiet (w w' : World) : Prop where
  store : w'.store = w.store
  now : w'.now.before w.now = false

structure Deposit where
  visit : Visit
  key : String
  value : Value
  time : Instant
  expires : Instant

namespace Deposit

def entry (d : Deposit) : Entry := ⟨d.value, d.expires⟩

/-- In these worlds the visit, one of `V`, has come to store the response that its inner part has
returned, under its own full key and for as long as it should last. -/
structure Genuine (V : Visit → Prop) (passed : List World) (d : Deposit) : Prop where
  visited : V d.visit
  key : d.visit.key? = some d.key
  returned : d.visit.inner.Returned passed (.ok (.success d.value))
  time : ∃ w ∈ passed, w.now = d.time
  expires : d.time.add? d.visit.lasts = some d.expires

theorem Genuine.mono {V : Visit → Prop} {passed passed' : List World} {d : Deposit}
    (h : d.Genuine V passed) (hsub : passed ⊆ passed') : d.Genuine V passed' where
  visited := h.visited
  key := h.key
  returned := h.returned.mono hsub
  time := by
    obtain ⟨w, hw, htime⟩ := h.time
    exact ⟨w, hsub hw, htime⟩
  expires := h.expires

end Deposit

structure Ledger where
  /-- The worlds that are left behind, the oldest first. -/
  past : List World
  /-- The latest first. -/
  deposits : List Deposit

namespace Ledger

def empty : Ledger := ⟨[], []⟩

def latest (g : Ledger) (key : String) : Option Deposit := g.deposits.find? (·.key == key)

def passed (x : Ledger × World) : List World := x.1.past ++ [x.2]

def leave (g : Ledger) (w : World) : Ledger := { g with past := g.past ++ [w] }

inductive Step (V : Visit → Prop) : Ledger × World → Ledger × World → Prop
  | quiet {g : Ledger} {w w' : World} (h : w.Quiet w') : Step V (g, w) (g.leave w, w')
  | look (g : Ledger) (w : World) (key : String) :
      Step V (g, w) (g.leave w, { w with store := (w.store.lookup w.now key).2 })
  | deposit {g : Ledger} {w : World} {d : Deposit} (hd : d.Genuine V (passed (g, w)))
      (hnow : d.time = w.now) :
      Step V (g, w) ({ g.leave w with deposits := d :: g.deposits },
        { w with store := w.store.insert d.key d.entry })

variable {V : Visit → Prop}

theorem Step.past {x y : Ledger × World} (h : Step V x y) : y.1.past = x.1.past ++ [x.2] := by
  cases h <;> rfl

theorem Step.passed {x y : Ledger × World} (h : Step V x y) :
    Ledger.passed x ⊆ Ledger.passed y := by
  unfold Ledger.passed
  rw [h.past]
  exact List.subset_append_left _ _

theorem mem_passed (x : Ledger × World) : x.2 ∈ passed x := by simp [passed]

-- ---------------------------------------------------------------------------
-- The balance
-- ---------------------------------------------------------------------------

structure Balances (V : Visit → Prop) (g : Ledger) (w : World) : Prop where
  genuine : ∀ d ∈ g.deposits, d.Genuine V (passed (g, w))
  elapsed : ∀ d ∈ g.deposits, w.now.before d.time = false
  ordered : g.deposits.Pairwise fun later earlier => later.time.before earlier.time = false
  /-- Every entry of the store is the latest deposit under its key. -/
  held : ∀ key e, (key, e) ∈ w.store.entries → ∃ d, g.latest key = some d ∧ d.entry = e
  /-- The latest deposit under a key is in the store until it expires. -/
  kept : ∀ key d, g.latest key = some d → w.now.before d.expires = true →
    w.store.find? key = some d.entry

theorem balances_empty {w : World} (h : w.store = .empty) : Balances V .empty w where
  genuine := List.forall_mem_nil _
  elapsed := List.forall_mem_nil _
  ordered := .nil
  held key e he := by simp [h, Store.empty] at he
  kept key d hd := by simp [latest, empty] at hd

theorem Balances.leave {g : Ledger} {w w' : World} (h : Balances V g w) (hquiet : w.Quiet w') :
    Balances V (g.leave w) w' where
  genuine d hd := (h.genuine d hd).mono (Step.quiet (V := V) hquiet).passed
  elapsed d hd := Instant.not_before_trans (h.elapsed d hd) hquiet.now
  ordered := h.ordered
  held key e he := h.held key e (hquiet.store ▸ he)
  kept key d hd hlive := by
    rw [hquiet.store]
    exact h.kept key d hd (Instant.before_of_not_before hquiet.now hlive)

theorem Balances.look {g : Ledger} {w : World} (h : Balances V g w) (key : String) :
    Balances V (g.leave w) { w with store := (w.store.lookup w.now key).2 } where
  genuine d hd := (h.genuine d hd).mono (Step.look (V := V) g w key).passed
  elapsed := h.elapsed
  ordered := h.ordered
  held k e he := h.held k e (Store.mem_of_mem_lookup he)
  kept k d hd hlive := by
    have hd' : d.entry.isLive w.now = true := hlive
    rw [Store.find?_lookup, h.kept k d hd hlive]
    simp [hd']

theorem Balances.deposit {g : Ledger} {w : World} {d : Deposit} (h : Balances V g w)
    (hd : d.Genuine V (passed (g, w))) (hnow : d.time = w.now) :
    Balances V { g.leave w with deposits := d :: g.deposits }
      { w with store := w.store.insert d.key d.entry } := by
  have hstep := Step.deposit hd hnow
  -- Under its key the new deposit takes the place of the one before; no other key sees it.
  have hlatest : ∀ k, ({ g.leave w with deposits := d :: g.deposits } : Ledger).latest k =
      if k = d.key then some d else g.latest k := by
    intro k
    by_cases hk : d.key = k
    · simp [latest, hk]
    · simp [latest, hk, Ne.symm hk]
  refine ⟨?_, ?_, ?_, fun k e he => ?_, fun k d' hd' hlive => ?_⟩
  · exact List.forall_mem_cons.mpr
      ⟨hd.mono hstep.passed, fun d' hd' => (h.genuine d' hd').mono hstep.passed⟩
  · exact List.forall_mem_cons.mpr ⟨by simp [hnow, Instant.before], h.elapsed⟩
  · exact .cons (fun d' hd' => by rw [hnow]; exact h.elapsed d' hd') h.ordered
  · rw [hlatest]
    obtain ⟨hk, he⟩ | ⟨rfl, rfl⟩ := Store.mem_insert.mp he
    · rw [if_neg hk]
      exact h.held k e he
    · exact ⟨d, if_pos rfl, rfl⟩
  · rw [hlatest] at hd'
    simp only [Store.find?_insert]
    split
    · next hk =>
      rw [if_pos hk] at hd'
      obtain rfl := Option.some.inj hd'
      rfl
    · next hk =>
      rw [if_neg hk] at hd'
      exact h.kept k d' hd' hlive

theorem Step.balances {x y : Ledger × World} (hstep : Step V x y) (h : Balances V x.1 x.2) :
    Balances V y.1 y.2 := by
  cases hstep with
  | quiet hquiet => exact h.leave hquiet
  | look g w key => exact h.look key
  | deposit hd hnow => exact h.deposit hd hnow

theorem Balances.tracks {g : Ledger} {w : World} (h : Balances V g w) :
    w.store.Tracks (fun key => (g.latest key).map Deposit.entry) w.now where
  held key e he := by
    obtain ⟨d, hd, rfl⟩ := h.held key e he
    simp [hd]
  kept key e he hlive := by
    obtain ⟨d, hd, rfl⟩ := Option.map_eq_some_iff.mp he
    exact h.kept key d hd hlive

/-- A balanced store is worth what its ledger says: the latest deposit under a key, as long as that
has not expired. -/
theorem Balances.live?_eq {g : Ledger} {w : World} (h : Balances V g w) (key : String) :
    w.store.live? w.now key =
      ((g.latest key).filter (·.entry.isLive w.now)).map Deposit.value := by
  rw [h.tracks.live?_eq, Option.filter_map, Option.map_map]
  rfl

-- ---------------------------------------------------------------------------
-- Histories
-- ---------------------------------------------------------------------------

def History (V : Visit → Prop) (w₀ : World) (g : Ledger) (w : World) : Prop :=
  Relation.ReflTransGen (Step V) (.empty, w₀) (g, w)

variable {w₀ w : World} {g : Ledger}

theorem History.balances (h : History V w₀ g w) (hempty : w₀.store = .empty) :
    Balances V g w := by
  suffices ∀ y, Relation.ReflTransGen (Step V) (.empty, w₀) y → Balances V y.1 y.2 from this _ h
  intro y hy
  induction hy with
  | refl => exact balances_empty hempty
  | tail _ hstep ih => exact hstep.balances ih

theorem History.through (h : History V w₀ g w) {before after : List World} {w' : World}
    (hpassed : passed (g, w) = before ++ w' :: after) :
    ∃ deposits, History V w₀ ⟨before, deposits⟩ w' := by
  suffices ∀ y, Relation.ReflTransGen (Step V) (.empty, w₀) y → ∀ before w' after,
      passed y = before ++ w' :: after → ∃ deposits, History V w₀ ⟨before, deposits⟩ w' from
    this _ h before w' after hpassed
  intro y hy
  induction hy with
  | refl =>
    intro before w' after hy
    obtain rfl : before = [] := by
      cases before with
      | nil => rfl
      | cons _ _ => simp [passed, empty] at hy
    obtain ⟨rfl, -⟩ : w₀ = w' ∧ after = [] := by simpa [passed, empty] using hy
    exact ⟨[], .refl⟩
  | @tail y z hsteps hstep ih =>
    intro before w' after hz
    -- The world is either the last one or was passed before the last step.
    obtain rfl | ⟨after, u, rfl⟩ := List.eq_nil_or_concat after
    · obtain ⟨hpast, hnow⟩ := List.append_inj' hz rfl
      obtain ⟨⟨past, deposits⟩, w''⟩ := z
      obtain rfl : past = before := hpast
      obtain rfl : w'' = w' := by simpa using hnow
      exact ⟨deposits, hsteps.tail hstep⟩
    · have hz : z.1.past ++ [z.2] = (before ++ w' :: after) ++ [u] := by
        simpa [passed] using hz
      exact ih before w' after (hstep.past.symm.trans (List.append_inj' hz rfl).1)

end Ledger

end Mediator
