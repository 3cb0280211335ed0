import Mediator.Fatal

/-!
# Causes

An error was caused by its source, that one by the source of the source, and so on. `Error.cause?`
counts these steps one by one; `Error.sources` is the list of what they lead to
(`getElem?_sources`). So the kind of a fatal error is that of its nearest cause that is fatal by
itself (`fatalKind?_eq_some_iff`), and an error is not fatal exactly if it has no such cause
(`fatalKind?_eq_none_iff`).
-/

namespace Mediator

-- ---------------------------------------------------------------------------
-- Sources, one at a time
-- ---------------------------------------------------------------------------

mutual

/-- What the error says it was caused by. Transparent errors say what the error that they hold
says. -/
def Error.source? : Error → Option Error
  | .wrapped _ source => some source
  | .fatal _ inner => some inner
  | .subscriber failure => some failure.error
  | .mediator error => error.source?
  | _ => none

def MediatorError.source? : MediatorError → Option Error
  | .handler _ source => some source
  | .panicked _ panic => some (.panicked panic)
  | .subscriber failure => some failure.error
  | .other source => source.source?
  | _ => none

end

namespace Error

def cause? (e : Error) : Nat → Option Error
  | 0 => some e
  | n + 1 => e.source?.bind (cause? · n)

end Error

theorem SubscriberFailure.sources_eq (f : SubscriberFailure) :
    f.sources = f.error :: f.error.sources := by
  obtain ⟨_, _⟩ := f
  simp [SubscriberFailure.sources]

mutual

theorem Error.sources_eq : (e : Error) →
    e.sources = (e.source?.map fun c => c :: c.sources).getD []
  | .wrapped _ source => by simp [Error.sources, Error.source?]
  | .fatal _ inner => by simp [Error.sources, Error.source?]
  | .subscriber failure => by
    simp [Error.sources, Error.source?, SubscriberFailure.sources_eq]
  | .mediator error => by
    simpa [Error.sources, Error.source?] using error.sources_eq
  | .message _ => rfl
  | .canceled => rfl
  | .allocation _ => rfl
  | .panicked _ => rfl
  | .validation _ => rfl
  | .aggregate _ => rfl
  | .unknownStrategy _ => rfl

theorem MediatorError.sources_eq : (e : MediatorError) →
    e.sources = (e.source?.map fun c => c :: c.sources).getD []
  | .handler _ source => by simp [MediatorError.sources, MediatorError.source?]
  | .panicked _ panic => by simp [MediatorError.sources, MediatorError.source?, Error.sources]
  | .subscriber failure => by
    simp [MediatorError.sources, MediatorError.source?, SubscriberFailure.sources_eq]
  | .other source => by
    simpa [MediatorError.sources, MediatorError.source?] using source.sources_eq
  | .noHandler _ => rfl
  | .validation _ => rfl
  | .forbidden _ _ => rfl
  | .aggregate _ => rfl
  | .message _ => rfl

end

namespace Error

theorem getElem?_sources (e : Error) (n : Nat) : (e :: e.sources)[n]? = e.cause? n := by
  induction n generalizing e with
  | zero => rfl
  | succ n ih =>
    rw [List.getElem?_cons_succ, e.sources_eq, cause?]
    cases e.source? with
    | none => simp
    | some c => simpa using ih c

theorem mem_sources_iff {e c : Error} : c ∈ e :: e.sources ↔ ∃ n, e.cause? n = some c := by
  simp only [← getElem?_sources]
  exact List.mem_iff_getElem?

-- ---------------------------------------------------------------------------
-- The fatal one among the causes
-- ---------------------------------------------------------------------------

theorem ownFatalKind?_isSome_iff {e : Error} :
    e.ownFatalKind?.isSome ↔ e = .canceled ∨ ∃ failure, e = .allocation failure := by
  cases e <;> simp [ownFatalKind?]

theorem ownFatalKind?_eq_none_iff {e : Error} :
    e.ownFatalKind? = none ↔ e ≠ .canceled ∧ ∀ failure, e ≠ .allocation failure := by
  cases e <;> simp [ownFatalKind?]

theorem fatalKind?_eq_none_iff {e : Error} :
    e.fatalKind? = none ↔ ∀ n c, e.cause? n = some c → c.ownFatalKind? = none := by
  unfold fatalKind?
  rw [List.findSome?_eq_none_iff]
  constructor
  · intro h n c hc
    exact h c (mem_sources_iff.mpr ⟨n, hc⟩)
  · intro h c hc
    obtain ⟨n, hn⟩ := mem_sources_iff.mp hc
    exact h n c hn

theorem fatalKind?_eq_some_iff {e : Error} {kind : FatalKind} :
    e.fatalKind? = some kind ↔ ∃ n c, e.cause? n = some c ∧ c.ownFatalKind? = some kind ∧
      ∀ m < n, ∀ d, e.cause? m = some d → d.ownFatalKind? = none := by
  unfold fatalKind?
  simp only [← getElem?_sources]
  rw [List.findSome?_eq_some_iff]
  constructor
  · rintro ⟨nearer, c, further, hl, hc, hnone⟩
    refine ⟨nearer.length, c, by simp [hl], hc, fun m hm d hd => ?_⟩
    rw [hl, List.getElem?_append_left hm] at hd
    exact hnone d (List.mem_of_getElem? hd)
  · rintro ⟨n, c, hn, hc, hnone⟩
    obtain ⟨hlt, rfl⟩ := List.getElem?_eq_some_iff.mp hn
    refine ⟨(e :: e.sources).take n, _, (e :: e.sources).drop (n + 1), ?_, hc, fun d hd => ?_⟩
    · rw [List.getElem_cons_drop, List.take_append_drop]
    · obtain ⟨m, hm⟩ := List.mem_iff_getElem?.mp hd
      rw [List.getElem?_take] at hm
      split at hm
      · exact hnone m ‹_› d hm
      · cases hm

theorem fatalKind?_isSome_iff {e : Error} :
    e.fatalKind?.isSome ↔
      ∃ n c, e.cause? n = some c ∧ (c = .canceled ∨ ∃ failure, c = .allocation failure) := by
  simp only [← ownFatalKind?_isSome_iff]
  constructor
  · intro h
    obtain ⟨kind, hkind⟩ := Option.isSome_iff_exists.mp h
    obtain ⟨n, c, hc, hown, _⟩ := fatalKind?_eq_some_iff.mp hkind
    exact ⟨n, c, hc, by simp [hown]⟩
  · rintro ⟨n, c, hc, hown⟩
    rw [Option.isSome_iff_ne_none]
    intro hnone
    simp [fatalKind?_eq_none_iff.mp hnone n c hc] at hown

end Error

end Mediator
