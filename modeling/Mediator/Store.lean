import Mediator.Message

/-!
# The response store

Responses by key, each with the instant at which it expires. A look-up drops the entry that it finds
expired; apart from that expired entries stay until they are purged.

`Store.live?` is what the store is worth at an instant: the unexpired response under a key.
-/

namespace Mediator

structure Entry where
  value : Value
  expires : Instant
deriving DecidableEq, Repr, Inhabited

def Entry.isLive (e : Entry) (now : Instant) : Bool := now.before e.expires

/-- The entries of a store, at most one for each key. -/
structure Store where
  entries : List (String × Entry)
deriving DecidableEq, Repr, Inhabited

namespace Store

def empty : Store := ⟨[]⟩

def size (st : Store) : Nat := st.entries.length

def isEmpty (st : Store) : Bool := st.entries.isEmpty

def find? (st : Store) (key : String) : Option Entry :=
  (st.entries.find? (·.1 == key)).map (·.2)

def erase (st : Store) (key : String) : Store := ⟨st.entries.filter (·.1 != key)⟩

def insert (st : Store) (key : String) (e : Entry) : Store := ⟨(st.erase key).entries ++ [(key, e)]⟩

def live? (st : Store) (now : Instant) (key : String) : Option Value :=
  match st.find? key with
  | some e => if e.isLive now then some e.value else none
  | none => none

def lookup (st : Store) (now : Instant) (key : String) : Option Value × Store :=
  match st.find? key with
  | some e => if e.isLive now then (some e.value, st) else (none, st.erase key)
  | none => (none, st)

/-- Keep a response for a while; `none` if the clock cannot show when it expires. -/
def keep? (st : Store) (now : Instant) (key : String) (value : Value) (d : Duration) :
    Option Store :=
  (now.add? d).map fun t => st.insert key ⟨value, t⟩

def invalidate (st : Store) (key : String) : Bool × Store := ((st.find? key).isSome, st.erase key)

def purge (st : Store) (now : Instant) : Store := ⟨st.entries.filter (·.2.isLive now)⟩

def debug (st : Store) : String := "MemoryCache \x7b entries: " ++ toString st.size ++ " \x7d"

theorem find?_erase (st : Store) (key k : String) :
    (st.erase key).find? k = if k = key then none else st.find? k := by
  unfold find? erase
  simp only [List.find?_filter]
  split
  · next h =>
    subst h
    rw [List.find?_eq_none.2 (by simp)]
    rfl
  · next h =>
    congr 2
    funext e
    by_cases he : e.1 = k
    · subst he; simp [h]
    · simp [he]

theorem find?_insert (st : Store) (key k : String) (e : Entry) :
    (st.insert key e).find? k = if k = key then some e else st.find? k := by
  have h := find?_erase st key k
  unfold find? at h ⊢
  unfold insert
  rw [List.find?_append]
  split
  · next hk =>
    subst hk
    rw [if_pos rfl, Option.map_eq_none_iff] at h
    simp [h]
  · next hk =>
    rw [if_neg hk] at h
    rw [← h]
    have hk' : key ≠ k := fun hc => hk hc.symm
    cases (st.erase key).entries.find? (·.1 == k) <;> simp [hk']

theorem lookup_fst (st : Store) (now : Instant) (key : String) :
    (st.lookup now key).1 = st.live? now key := by
  unfold lookup live?
  cases st.find? key with
  | none => rfl
  | some e => by_cases h : e.isLive now <;> simp [h]

theorem lookup_of_live {st : Store} {now : Instant} {key : String} {value : Value}
    (h : st.live? now key = some value) : (st.lookup now key).2 = st := by
  unfold live? at h
  unfold lookup
  cases hf : st.find? key with
  | none => rfl
  | some e => by_cases he : e.isLive now <;> simp_all

variable {st : Store} {now : Instant} {key k : String} {e e' : Entry}

theorem mem_of_find? (h : st.find? key = some e) : (key, e) ∈ st.entries := by
  obtain ⟨⟨k, e⟩, hfind, rfl⟩ := Option.map_eq_some_iff.mp h
  obtain rfl : k = key := by simpa using List.find?_some hfind
  exact List.mem_of_find?_eq_some hfind

theorem mem_insert : (k, e') ∈ (st.insert key e).entries ↔
    (k ≠ key ∧ (k, e') ∈ st.entries) ∨ (k = key ∧ e' = e) := by
  simp [insert, erase, and_comm]

theorem find?_lookup : (st.lookup now key).2.find? k =
    (st.find? k).filter fun e => k != key || e.isLive now := by
  have hfilter (hk : k ≠ key) :
      (st.find? k).filter (fun e => k != key || e.isLive now) = st.find? k := by
    cases st.find? k <;> simp [hk, Option.filter_some]
  unfold lookup
  cases hf : st.find? key with
  | none =>
    by_cases hk : k = key
    · simp [hk, hf]
    · exact (hfilter hk).symm
  | some e =>
    by_cases hk : k = key
    · subst hk
      by_cases he : e.isLive now <;> simp [he, hf, find?_erase, Option.filter_some]
    · rw [hfilter hk]
      by_cases he : e.isLive now <;> simp [he, hk, find?_erase]

theorem mem_of_mem_lookup {p : String × Entry} (h : p ∈ (st.lookup now key).2.entries) :
    p ∈ st.entries := by
  unfold lookup at h
  split at h
  · split at h
    · exact h
    · exact (List.mem_filter.mp h).1
  · exact h

theorem find?_purge_of_live (h : st.find? key = some e) (hlive : e.isLive now = true) :
    (st.purge now).find? key = some e := by
  obtain ⟨⟨k, e⟩, hfind, rfl⟩ := Option.map_eq_some_iff.mp h
  obtain ⟨hk, before, after, hentries, hbefore⟩ := List.find?_eq_some_iff_append.mp hfind
  refine Option.map_eq_some_iff.mpr ⟨(k, e), ?_, rfl⟩
  simp only [purge, List.find?_filter]
  refine List.find?_eq_some_iff_append.mpr ⟨by simp [hk, hlive], before, after, hentries, ?_⟩
  intro p hp
  have hne : p.1 ≠ key := by simpa using hbefore p hp
  simp [hne]

theorem nodup_keys_filter (h : (st.entries.map (·.1)).Nodup) (p : String × Entry → Bool) :
    ((st.entries.filter p).map (·.1)).Nodup :=
  h.sublist (List.filter_sublist.map _)

theorem nodup_keys_insert (h : (st.entries.map (·.1)).Nodup) (key : String) (e : Entry) :
    ((st.insert key e).entries.map (·.1)).Nodup := by
  simp only [insert, erase, List.map_append, List.map_cons, List.map_nil]
  refine List.nodup_append.mpr ⟨nodup_keys_filter h _, by simp, ?_⟩
  simp

end Store

end Mediator
