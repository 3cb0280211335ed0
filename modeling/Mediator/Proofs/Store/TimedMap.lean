import Mediator.Store
import Mathlib.Data.Set.Card
import Mathlib.Logic.Function.Basic

/-!
# The store as a timed map

A timed map says what was set last under each key and has not been taken away since, together with
the instant at which it expires. A store tracks such a map (`Store.Tracks`): of what has expired it
may hold any part, as look-ups and purges come upon it or not, and no look-up can tell which. So what
a look-up finds depends on nothing but what was set, invalidated and cleared before
(`History.answers_by_history`). Clones of a store are the same store, and their operations make one
history.
-/

namespace Mediator

/-- What stands under each key, whether it has expired or not. -/
abbrev TimedMap : Type := String → Option Entry

namespace Store

-- ---------------------------------------------------------------------------
-- Stores that track a timed map
-- ---------------------------------------------------------------------------

structure Tracks (m : TimedMap) (now : Instant) (st : Store) : Prop where
  held : ∀ key e, (key, e) ∈ st.entries → m key = some e
  kept : ∀ key e, m key = some e → e.isLive now = true → st.find? key = some e

variable {m : TimedMap} {now now' : Instant} {st : Store}

theorem tracks_empty : Tracks (fun _ => none) now .empty where
  held _ _ he := nomatch he
  kept _ _ he := nomatch he

theorem Tracks.live?_eq (h : Tracks m now st) (key : String) :
    st.live? now key = ((m key).filter (·.isLive now)).map Entry.value := by
  unfold live?
  cases hfind : st.find? key with
  | some e =>
    rw [h.held key e (mem_of_find? hfind), Option.filter_some]
    by_cases hlive : e.isLive now <;> simp [hlive]
  | none =>
    cases hm : m key with
    | none => rfl
    | some e =>
      have hexpired : e.isLive now = false := by
        by_contra hlive
        have := h.kept key e hm (by simpa using hlive)
        simp [hfind] at this
      simp [hexpired, Option.filter_some]

theorem Tracks.later (h : Tracks m now st) (hle : now'.before now = false) :
    Tracks m now' st where
  held := h.held
  kept key e he hlive := h.kept key e he (Instant.before_of_not_before hle hlive)

theorem Tracks.lookup (h : Tracks m now st) (key : String) :
    Tracks m now (st.lookup now key).2 where
  held k e he := h.held k e (mem_of_mem_lookup he)
  kept k e he hlive := by
    rw [find?_lookup, h.kept k e he hlive]
    simp [hlive]

theorem Tracks.insert (h : Tracks m now st) (key : String) (e : Entry) :
    Tracks (Function.update m key (some e)) now (st.insert key e) where
  held k e' he := by
    obtain ⟨hk, he⟩ | ⟨rfl, rfl⟩ := mem_insert.mp he
    · rw [Function.update_of_ne hk]
      exact h.held k e' he
    · exact Function.update_self ..
  kept k e' he hlive := by
    rw [find?_insert]
    split
    · next hk => simpa [hk] using he
    · next hk => exact h.kept k e' (by simpa [hk] using he) hlive

theorem Tracks.erase (h : Tracks m now st) (key : String) :
    Tracks (Function.update m key none) now (st.erase key) where
  held k e he := by
    obtain ⟨he, hk⟩ := List.mem_filter.mp he
    rw [Function.update_of_ne (by simpa using hk)]
    exact h.held k e he
  kept k e he hlive := by
    rw [find?_erase]
    split
    · next hk => simp [hk] at he
    · next hk => exact h.kept k e (by simpa [hk] using he) hlive

theorem Tracks.purge (h : Tracks m now st) : Tracks m now (st.purge now) where
  held k e he := h.held k e (List.mem_filter.mp he).1
  kept k e he hlive := find?_purge_of_live (h.kept k e he hlive) hlive

theorem Tracks.mem_keys_purge (h : Tracks m now st) {key : String} :
    key ∈ (st.purge now).entries.map (·.1) ↔ ∃ e, m key = some e ∧ e.isLive now = true := by
  constructor
  · intro hkey
    obtain ⟨⟨k, e⟩, he, rfl⟩ := List.mem_map.mp hkey
    obtain ⟨he, hlive⟩ := List.mem_filter.mp he
    exact ⟨e, h.held k e he, hlive⟩
  · rintro ⟨e, he, hlive⟩
    have hmem := mem_of_find? (h.purge.kept key e he hlive)
    exact List.mem_map.mpr ⟨_, hmem, rfl⟩

-- ---------------------------------------------------------------------------
-- Histories
-- ---------------------------------------------------------------------------

inductive Op where
  | set (key : String) (value : Value) (lasts : Duration)
  | get (key : String)
  | invalidate (key : String)
  | clear
  | purge

def Op.settles (key : String) : Op → Bool
  | .set k _ _ | .invalidate k => k == key
  | .clear => true
  | .get _ | .purge => false

def Op.isWrite : Op → Bool
  | .set .. | .invalidate _ | .clear => true
  | .get _ | .purge => false

structure Access where
  time : Instant
  op : Op

namespace Access

def apply (st : Store) (e : Access) : Store :=
  match e.op with
  | .set key value lasts => (st.keep? e.time key value lasts).getD st
  | .get key => (st.lookup e.time key).2
  | .invalidate key => (st.invalidate key).2
  | .clear => .empty
  | .purge => st.purge e.time

def record (m : TimedMap) (e : Access) : TimedMap :=
  match e.op with
  | .set key value lasts => Function.update m key (some ⟨value, e.time.later lasts⟩)
  | .invalidate key => Function.update m key none
  | .clear => fun _ => none
  | .get _ | .purge => m

def Representable (e : Access) : Prop :=
  ∀ key value lasts, e.op = .set key value lasts → (e.time.add? lasts).isSome = true

theorem tracks_apply {e : Access} (he : e.Representable) (h : Tracks m e.time st) :
    Tracks (e.record m) e.time (e.apply st) := by
  obtain ⟨time, op⟩ := e
  cases op with
  | set key value lasts =>
    have hadd : time.add? lasts = some (time.later lasts) :=
      Instant.add?_of_isSome (he key value lasts rfl)
    simp only [apply, record, keep?, hadd, Option.map_some, Option.getD_some]
    exact h.insert key _
  | get key => exact h.lookup key
  | invalidate key => exact h.erase key
  | clear => exact tracks_empty
  | purge => exact h.purge

theorem record_of_unsettled {e : Access} {key : String} (he : e.op.settles key = false) :
    e.record m key = m key := by
  obtain ⟨time, op⟩ := e
  cases op with
  | set k value lasts =>
    exact Function.update_of_ne (Ne.symm (by simpa [Op.settles] using he)) ..
  | get k => rfl
  | invalidate k => exact Function.update_of_ne (Ne.symm (by simpa [Op.settles] using he)) ..
  | clear => cases he
  | purge => rfl

theorem record_of_read {e : Access} (he : e.op.isWrite = false) : e.record m = m := by
  obtain ⟨time, op⟩ := e
  cases op with
  | set k value lasts => cases he
  | get k => rfl
  | invalidate k => cases he
  | clear => cases he
  | purge => rfl

theorem nodup_keys_apply (e : Access) (h : (st.entries.map (·.1)).Nodup) :
    ((e.apply st).entries.map (·.1)).Nodup := by
  obtain ⟨time, op⟩ := e
  cases op with
  | set key value lasts =>
    simp only [apply, keep?]
    cases time.add? lasts with
    | none => exact h
    | some t => exact nodup_keys_insert h key _
  | get key =>
    simp only [apply, Store.lookup]
    split
    · split
      · exact h
      · exact nodup_keys_filter h _
    · exact h
  | invalidate key => exact nodup_keys_filter h _
  | clear => exact List.nodup_nil
  | purge => exact nodup_keys_filter h _

end Access

abbrev History : Type := List Access

namespace History

def store (h : History) : Store := h.foldl Access.apply .empty

def timedMap (h : History) : TimedMap := h.foldl Access.record fun _ => none

/-- The readings of the clock, and the present one after them, never decrease. -/
def InOrder (h : History) (now : Instant) : Prop :=
  (h.map (·.time.nanos) ++ [now.nanos]).Pairwise (· ≤ ·)

instance (h : History) (now : Instant) : Decidable (h.InOrder now) :=
  inferInstanceAs (Decidable (List.Pairwise _ _))

/-- The key was last set to this value, nothing has taken it away since, and it has not expired. -/
def Holds (h : History) (now : Instant) (key : String) (value : Value) : Prop :=
  ∃ before time lasts after, h = before ++ ⟨time, .set key value lasts⟩ :: after ∧
    (∀ e ∈ after, e.op.settles key = false) ∧ now.nanos < time.nanos + lasts.nanos

variable {h h' : History} {key : String} {value : Value}

theorem InOrder.of_snoc {e : Access} (hordered : InOrder (h ++ [e]) now) :
    InOrder h e.time ∧ now.before e.time = false := by
  unfold InOrder at hordered
  rw [List.map_append, List.pairwise_append] at hordered
  obtain ⟨hpast, -, hnow⟩ := hordered
  have he : e.time.nanos ≤ now.nanos := hnow _ (by simp) _ (by simp)
  exact ⟨hpast, by simpa [Instant.before] using he⟩

theorem tracks (hordered : h.InOrder now) (hfits : ∀ e ∈ h, e.Representable) :
    Tracks h.timedMap now h.store := by
  induction h using List.reverseRecOn generalizing now with
  | nil => exact tracks_empty
  | append_singleton h e ih =>
    obtain ⟨hpast, he⟩ := hordered.of_snoc
    have hbefore := ih hpast fun e he => hfits e (List.mem_append_left _ he)
    have hstep := (Access.tracks_apply (hfits e (by simp)) hbefore).later he
    simpa [timedMap, store] using hstep

theorem nodup_keys (h : History) : (h.store.entries.map (·.1)).Nodup := by
  induction h using List.reverseRecOn with
  | nil => exact List.nodup_nil
  | append_singleton h e ih =>
    have hstep := e.nodup_keys_apply ih
    simpa [store] using hstep

theorem foldl_record_of_unsettled (m : TimedMap) (hkey : ∀ e ∈ h, e.op.settles key = false) :
    h.foldl Access.record m key = m key := by
  induction h generalizing m with
  | nil => rfl
  | cons e rest ih =>
    obtain ⟨he, hrest⟩ := List.forall_mem_cons.mp hkey
    rw [List.foldl_cons, ih _ hrest, Access.record_of_unsettled he]

theorem exists_set_of_timedMap {e : Entry} (he : h.timedMap key = some e) :
    ∃ before time lasts after, h = before ++ ⟨time, .set key e.value lasts⟩ :: after ∧
      (∀ e' ∈ after, e'.op.settles key = false) ∧ e.expires = time.later lasts := by
  induction h using List.reverseRecOn with
  | nil => cases he
  | append_singleton h ev ih =>
    have hlast : ev.record (timedMap h) key = some e := by simpa [timedMap] using he
    cases hsettles : ev.op.settles key with
    | false =>
      rw [Access.record_of_unsettled hsettles] at hlast
      obtain ⟨before, time, lasts, after, rfl, hafter, hexpires⟩ := ih hlast
      refine ⟨before, time, lasts, after ++ [ev], by simp, ?_, hexpires⟩
      intro e' he'
      obtain he' | he' := List.mem_append.mp he'
      · exact hafter e' he'
      · rwa [List.mem_singleton.mp he']
    | true =>
      -- What takes the key away leaves nothing under it, so the last event has set it.
      obtain ⟨time, op⟩ := ev
      cases op with
      | set k value lasts =>
        obtain rfl : k = key := by simpa [Op.settles] using hsettles
        obtain rfl : ⟨value, time.later lasts⟩ = e := by simpa [Access.record] using hlast
        exact ⟨h, time, lasts, [], rfl, List.forall_mem_nil _, rfl⟩
      | get k => cases hsettles
      | invalidate k =>
        obtain rfl : k = key := by simpa [Op.settles] using hsettles
        simp [Access.record] at hlast
      | clear => cases hlast
      | purge => cases hsettles

theorem holds_iff : h.Holds now key value ↔
    ∃ e, h.timedMap key = some e ∧ e.isLive now = true ∧ e.value = value := by
  constructor
  · rintro ⟨before, time, lasts, after, rfl, hafter, hlive⟩
    refine ⟨⟨value, time.later lasts⟩, ?_, decide_eq_true hlive, rfl⟩
    rw [timedMap, List.foldl_append, List.foldl_cons, foldl_record_of_unsettled _ hafter]
    exact Function.update_self ..
  · rintro ⟨e, he, hlive, rfl⟩
    obtain ⟨before, time, lasts, after, hsplit, hafter, hexpires⟩ := exists_set_of_timedMap he
    refine ⟨before, time, lasts, after, hsplit, hafter, ?_⟩
    simpa [Entry.isLive, Instant.before, hexpires, Instant.later] using hlive

theorem timedMap_filter_isWrite (h : History) :
    timedMap (h.filter (·.op.isWrite)) = h.timedMap := by
  unfold timedMap
  rw [List.foldl_filter]
  congr 1
  funext m e
  cases he : e.op.isWrite with
  | false => simp [Access.record_of_read he]
  | true => simp

theorem representable_of_filter (hfits : ∀ e ∈ h, e.Representable)
    (hsame : h'.filter (·.op.isWrite) = h.filter (·.op.isWrite)) :
    ∀ e ∈ h', e.Representable := by
  intro e he key value lasts hset
  have hmem : e ∈ h'.filter (·.op.isWrite) := List.mem_filter.mpr ⟨he, by simp [hset, Op.isWrite]⟩
  rw [hsame] at hmem
  exact hfits e (List.mem_filter.mp hmem).1 key value lasts hset

theorem lookup_eq_some_iff (hordered : h.InOrder now) (hfits : ∀ e ∈ h, e.Representable) :
    (h.store.lookup now key).1 = some value ↔ h.Holds now key value := by
  rw [lookup_fst, (tracks hordered hfits).live?_eq, holds_iff]
  simp [Option.filter_eq_some_iff, and_assoc]

theorem size_purge (hordered : h.InOrder now) (hfits : ∀ e ∈ h, e.Representable) :
    ((h.store.purge now).size : ℕ∞) = {key | ∃ value, h.Holds now key value}.encard := by
  have hkeys : {key | ∃ value, h.Holds now key value} =
      ((h.store.purge now).entries.map (·.1)).toFinset := by
    ext key
    rw [List.coe_toFinset, Set.mem_ofPred_eq, Set.mem_ofPred_eq,
      (tracks hordered hfits).mem_keys_purge]
    simp [holds_iff]
  have hnodup : ((h.store.purge now).entries.map (·.1)).Nodup :=
    nodup_keys_filter h.nodup_keys _
  rw [hkeys, Set.encard_coe_eq_coe_finsetCard, List.toFinset_card_of_nodup hnodup, List.length_map]
  rfl

/-- What a store answers is told by its history alone: a look-up finds the value that was set last,
until it expires or is taken away; what a look-up finds can be invalidated; a purge leaves what can
be found. Look-ups and purges in between make no difference. -/
theorem answers_by_history (h : History) (now : Instant) (hordered : h.InOrder now)
    (hfits : ∀ e ∈ h, e.Representable) :
    (∀ key value, (h.store.lookup now key).1 = some value ↔ h.Holds now key value) ∧
    (∀ key value, h.Holds now key value → (h.store.invalidate key).1 = true) ∧
    ((h.store.purge now).size : ℕ∞) = {key | ∃ value, h.Holds now key value}.encard ∧
    ∀ h' : History, h'.InOrder now → h'.filter (·.op.isWrite) = h.filter (·.op.isWrite) →
      ∀ key, (h'.store.lookup now key).1 = (h.store.lookup now key).1 := by
  refine ⟨fun _ _ => lookup_eq_some_iff hordered hfits, ?_, size_purge hordered hfits, ?_⟩
  · intro key value hholds
    obtain ⟨e, he, hlive, -⟩ := holds_iff.mp hholds
    simp [invalidate, (tracks hordered hfits).kept key e he hlive]
  · intro h' hordered' hsame key
    have htracks' := tracks hordered' (representable_of_filter hfits hsame)
    have hmap : h'.timedMap = h.timedMap := by
      rw [← timedMap_filter_isWrite h', hsame, timedMap_filter_isWrite]
    rw [lookup_fst, lookup_fst, htracks'.live?_eq, (tracks hordered hfits).live?_eq, hmap]

theorem answers_set_anew :
    let h : History := [⟨⟨0⟩, .set "a" (.int 1) ⟨5⟩⟩, ⟨⟨1⟩, .set "b" (.int 2) ⟨2⟩⟩,
      ⟨⟨3⟩, .get "b"⟩, ⟨⟨4⟩, .set "a" (.int 3) ⟨3⟩⟩]
    (h.store.lookup ⟨6⟩ "a").1 = some (.int 3) ∧ (h.store.invalidate "a").1 = true ∧
      ((h.store.purge ⟨6⟩).size : ℕ∞) = {key | ∃ value, h.Holds ⟨6⟩ key value}.encard := by
  intro h
  have hfits : ∀ e ∈ h, e.Representable := by
    intro e he key value lasts hset
    simp only [h, List.mem_cons, List.not_mem_nil, or_false] at he
    obtain rfl | rfl | rfl | rfl := he <;> cases hset <;> decide
  have hholds : h.Holds ⟨6⟩ "a" (.int 3) :=
    ⟨h.take 3, ⟨4⟩, ⟨3⟩, [], rfl, List.forall_mem_nil _, by decide⟩
  obtain ⟨hget, hinvalidate, hpurge, -⟩ := answers_by_history h ⟨6⟩ (by decide) hfits
  exact ⟨(hget _ _).mpr hholds, hinvalidate _ _ hholds, hpurge⟩

end History

end Store

end Mediator
