import Mediator.Proofs.Outcome.Laws

/-!
# Equality of outcomes

Two failures are equal because they share one error object, or because their errors look alike. The
first says no more than the second, as long as one object is one error (`failure_beq_failure_iff`):
so equality is an equivalence if that of the values is. The combinators respect it, provided that the
calls they are given do (`equality_lawful`).
-/

namespace Mediator

variable {σ α β : Type}

theorem MediatorError.alike_iff {e e' : MediatorError} :
    e.alike e' = true ↔ e.kind = e'.kind ∧ e.text = e'.text := by
  simp [MediatorError.alike]

namespace Shared

variable {e e' : Shared MediatorError} {objects : Nat → MediatorError}

theorem sameObject_iff : e.sameObject e' = true ↔ ∃ n, e.mark = some n ∧ e'.mark = some n := by
  rw [sameObject, Bool.and_eq_true, Option.isSome_iff_exists, beq_iff_eq]
  constructor
  · rintro ⟨⟨n, hn⟩, hsame⟩
    exact ⟨n, hn, hsame ▸ hn⟩
  · rintro ⟨n, hn, hn'⟩
    exact ⟨⟨n, hn⟩, hn.trans hn'.symm⟩

/-- The error is that of the object with its mark, if it has a mark. -/
def OfObjects (objects : Nat → MediatorError) (e : Shared MediatorError) : Prop :=
  ∀ n, e.mark = some n → e.value = objects n

theorem OfObjects.alike_of_sameObject (h : e.OfObjects objects) (h' : e'.OfObjects objects)
    (hsame : e.sameObject e' = true) : e.value.alike e'.value = true := by
  obtain ⟨n, hn, hn'⟩ := sameObject_iff.mp hsame
  rw [h n hn, h' n hn', MediatorError.alike_iff]
  exact ⟨rfl, rfl⟩

end Shared

-- ---------------------------------------------------------------------------
-- An equivalence
-- ---------------------------------------------------------------------------

namespace Outcome

section
variable [BEq α] {a b c : Outcome α} {v w : α} {e e' : Shared MediatorError}
  {objects : Nat → MediatorError}

@[simp] theorem success_beq_success : (success v == success w) = (v == w) := rfl

@[simp] theorem success_beq_failure : (success v == failure e) = false := rfl

@[simp] theorem failure_beq_success : (failure e == success v) = false := rfl

theorem failure_beq_failure :
    ((failure e : Outcome α) == failure e') = (e.sameObject e' || e.value.alike e'.value) := rfl

def OfObjects (objects : Nat → MediatorError) (o : Outcome α) : Prop :=
  ∀ e, o = .failure e → e.OfObjects objects

theorem failure_beq_failure_iff (h : e.OfObjects objects) (h' : e'.OfObjects objects) :
    ((failure e : Outcome α) == failure e') = true ↔
      e.value.kind = e'.value.kind ∧ e.value.text = e'.value.text := by
  rw [failure_beq_failure, Bool.or_eq_true, ← MediatorError.alike_iff]
  exact ⟨fun hor => hor.elim (h.alike_of_sameObject h') id, .inr⟩

theorem failure_beq_failure_of_alike (hkind : e.value.kind = e'.value.kind)
    (htext : e.value.text = e'.value.text) : ((failure e : Outcome α) == failure e') = true := by
  rw [failure_beq_failure, MediatorError.alike_iff.mpr ⟨hkind, htext⟩, Bool.or_true]

theorem equal_cases (h : (a == b) = true) :
    (∃ v w, a = success v ∧ b = success w ∧ (v == w) = true) ∨
    ∃ e e', a = failure e ∧ b = failure e' ∧ ((failure e : Outcome α) == failure e') = true := by
  cases a with
  | success v =>
    cases b with
    | success w => exact .inl ⟨v, w, rfl, rfl, h⟩
    | failure e => cases h
  | failure e =>
    cases b with
    | success w => cases h
    | failure e' => exact .inr ⟨e, e', rfl, rfl, h⟩

theorem equal_refl [ReflBEq α] (a : Outcome α) : (a == a) = true := by
  cases a with
  | success v => exact BEq.refl v
  | failure e => exact failure_beq_failure_of_alike rfl rfl

theorem equal_symm [PartialEquivBEq α] (h : (a == b) = true) : (b == a) = true := by
  obtain ⟨v, w, rfl, rfl, h⟩ | ⟨e, e', rfl, rfl, h⟩ := equal_cases h
  · rw [success_beq_success]
    exact BEq.symm h
  · rw [failure_beq_failure, Bool.or_eq_true] at h ⊢
    rcases h with hsame | halike
    · obtain ⟨n, hn, hn'⟩ := Shared.sameObject_iff.mp hsame
      exact .inl (Shared.sameObject_iff.mpr ⟨n, hn', hn⟩)
    · obtain ⟨hkind, htext⟩ := MediatorError.alike_iff.mp halike
      exact .inr (MediatorError.alike_iff.mpr ⟨hkind.symm, htext.symm⟩)

/-- The middle one may be equal to the one because they share an object, and to the other because
they look alike. -/
theorem equal_trans [PartialEquivBEq α] (ha : a.OfObjects objects) (hb : b.OfObjects objects)
    (hc : c.OfObjects objects) (hab : (a == b) = true) (hbc : (b == c) = true) :
    (a == c) = true := by
  obtain ⟨u, v, rfl, rfl, hab⟩ | ⟨e₁, e₂, rfl, rfl, hab⟩ := equal_cases hab
  · obtain ⟨v', w, heq, rfl, hbc⟩ | ⟨e, e', heq, -, -⟩ := equal_cases hbc
    · cases heq
      rw [success_beq_success]
      exact BEq.trans hab hbc
    · cases heq
  · obtain ⟨v, w, heq, -, -⟩ | ⟨e, e₃, heq, rfl, hbc⟩ := equal_cases hbc
    · cases heq
    · cases heq
      -- Both are read as equal kind and text, whichever way they came about.
      rw [failure_beq_failure_iff (ha _ rfl) (hb _ rfl)] at hab
      rw [failure_beq_failure_iff (hb _ rfl) (hc _ rfl)] at hbc
      exact failure_beq_failure_of_alike (hab.1.trans hbc.1) (hab.2.trans hbc.2)

theorem discard_equal (h : (a == b) = true) : (a.discard == b.discard) = true := by
  obtain ⟨v, w, rfl, rfl, -⟩ | ⟨e, e', rfl, rfl, h⟩ := equal_cases h
  · rfl
  · exact h

theorem failures_equal_iff_discard (ha : a.isFailure = true) (hb : b.isFailure = true) :
    (a == b) = true ↔ (a.discard == b.discard) = true := by
  refine ⟨discard_equal, fun h => ?_⟩
  cases a with
  | success v => cases ha
  | failure e =>
    cases b with
    | success w => cases hb
    | failure e' => exact h

end

-- ---------------------------------------------------------------------------
-- Combinators
-- ---------------------------------------------------------------------------

section
variable {accepts : α → Call σ Bool} {error : α → Call σ MediatorError} {v : α} {e : MediatorError}
  {s t u : σ}

theorem filter_of_accepted (h : accepts v s = (.ok true, t)) :
    (success v).filter accepts error s = (.ok (.success v), t) :=
  Call.bind_of_ok h

theorem filter_of_refused (h : accepts v s = (.ok false, t)) (he : error v t = (.ok e, u)) :
    (success v).filter accepts error s = (.ok (.failed e), u) := by
  have hmade : (error v >>= fun e => pure (failed e) : Call σ (Outcome α)) t =
      (.ok (.failed e), u) :=
    Call.bind_of_ok he
  exact (Call.bind_of_ok h).trans hmade

end

inductive EndAlike [BEq β] : Except Panic β × σ → Except Panic β × σ → Prop
  | ok {v w : β} (h : (v == w) = true) (s t : σ) : EndAlike (.ok v, s) (.ok w, t)
  | error {p q : Panic} (h : p.message = q.message) (s t : σ) : EndAlike (.error p, s) (.error q, t)

def ReturnEqual [BEq β] (c d : Except Panic (Outcome β) × σ) : Prop :=
  ∃ o o', c.1 = .ok o ∧ d.1 = .ok o' ∧ (o == o') = true

def FilterAlike (accepts accepts' : α → Call σ Bool) (error error' : α → Call σ MediatorError)
    (s t : σ) (v w : α) : Prop :=
  ∃ accepted s' t', accepts v s = (.ok accepted, s') ∧ accepts' w t = (.ok accepted, t') ∧
    (accepted = false → ∃ e s'' e' t'', error v s' = (.ok e, s'') ∧ error' w t' = (.ok e', t'') ∧
      e.kind = e'.kind ∧ e.text = e'.text)

section
variable [BEq α] [BEq β] {a b : Outcome α} {s t : σ}

theorem panicked_equal (operation : String) {p q : Panic} (h : p.message = q.message) :
    ((panicked operation p : Outcome β) == panicked operation q) = true := by
  have htext : (MediatorError.panicked operation (.of p)).text =
      (MediatorError.panicked operation (.of q)).text := by
    rw [PanicError.of, PanicError.of, h]
  show ((failure (.new (.panicked operation (.of p))) : Outcome β) ==
    failure (.new (.panicked operation (.of q)))) = true
  exact failure_beq_failure_of_alike rfl htext

theorem map_equal {f g : α → Call σ β} (h : (a == b) = true)
    (hfg : ∀ v w, (v == w) = true → EndAlike (f v s) (g w t)) :
    ReturnEqual (a.map f s) (b.map g t) := by
  obtain ⟨v, w, rfl, rfl, h⟩ | ⟨e, e', rfl, rfl, h⟩ := equal_cases h
  · have hends := hfg v w h
    generalize hf : f v s = c at hends
    generalize hg : g w t = d at hends
    cases hends with
    | ok hxy =>
      rw [map_of_ok hf, map_of_ok hg]
      exact ⟨_, _, rfl, rfl, hxy⟩
    | error hmessage =>
      rw [map_of_error hf, map_of_error hg]
      exact ⟨_, _, rfl, rfl, panicked_equal _ hmessage⟩
  · exact ⟨_, _, rfl, rfl, h⟩

theorem andThen_equal {f g : α → Call σ (Outcome β)} (h : (a == b) = true)
    (hfg : ∀ v w, (v == w) = true → EndAlike (f v s) (g w t)) :
    ReturnEqual (a.andThen f s) (b.andThen g t) := by
  obtain ⟨v, w, rfl, rfl, h⟩ | ⟨e, e', rfl, rfl, h⟩ := equal_cases h
  · have hends := hfg v w h
    generalize hf : f v s = c at hends
    generalize hg : g w t = d at hends
    cases hends with
    | ok hxy =>
      rw [andThen_of_ok hf, andThen_of_ok hg]
      exact ⟨_, _, rfl, rfl, hxy⟩
    | error hmessage =>
      rw [andThen_of_error hf, andThen_of_error hg]
      exact ⟨_, _, rfl, rfl, panicked_equal _ hmessage⟩
  · exact ⟨_, _, rfl, rfl, h⟩

theorem filter_equal {accepts accepts' : α → Call σ Bool} {error error' : α → Call σ MediatorError}
    (h : (a == b) = true)
    (halike : ∀ v w, (v == w) = true → FilterAlike accepts accepts' error error' s t v w) :
    ReturnEqual (a.filter accepts error s) (b.filter accepts' error' t) := by
  obtain ⟨v, w, rfl, rfl, h⟩ | ⟨e, e', rfl, rfl, h⟩ := equal_cases h
  · obtain ⟨accepted, s', t', hv, hw, hrefused⟩ := halike v w h
    cases accepted with
    | true =>
      rw [filter_of_accepted hv, filter_of_accepted hw]
      exact ⟨_, _, rfl, rfl, h⟩
    | false =>
      obtain ⟨e, s'', e', t'', he, he', hkind, htext⟩ := hrefused rfl
      rw [filter_of_refused hv he, filter_of_refused hw he']
      exact ⟨_, _, rfl, rfl, failure_beq_failure_of_alike hkind htext⟩
  · exact ⟨_, _, rfl, rfl, h⟩

end

-- ---------------------------------------------------------------------------
-- All laws
-- ---------------------------------------------------------------------------

/-- Equality of outcomes is an equivalence if that of values is. Successes are equal by value and
failures by kind and text, and no success is equal to a failure. Equal outcomes stay equal without
their values, and under every combinator whose calls do not tell equal values apart; failures are
equal just if they are without the values that they have not. -/
theorem equality_lawful [BEq α] [EquivBEq α] [BEq β] (objects : Nat → MediatorError) :
    (∀ a : Outcome α, (a == a) = true) ∧
    (∀ a b : Outcome α, (a == b) = true → (b == a) = true) ∧
    (∀ a b c : Outcome α, a.OfObjects objects → b.OfObjects objects → c.OfObjects objects →
      (a == b) = true → (b == c) = true → (a == c) = true) ∧
    (∀ e e' : Shared MediatorError, e.OfObjects objects → e'.OfObjects objects →
      (((failure e : Outcome α) == failure e') = true ↔
        e.value.kind = e'.value.kind ∧ e.value.text = e'.value.text)) ∧
    (∀ v w : α, (success v == success w) = (v == w)) ∧
    (∀ (v : α) e, (success v == failure e) = false ∧ (failure e == success v) = false) ∧
    (∀ a b : Outcome α, (a == b) = true → (a.discard == b.discard) = true) ∧
    (∀ a b : Outcome α, a.isFailure = true → b.isFailure = true →
      ((a == b) = true ↔ (a.discard == b.discard) = true)) ∧
    ∀ (a b : Outcome α) (s t : σ), (a == b) = true →
      (∀ f g : α → Call σ β, (∀ v w, (v == w) = true → EndAlike (f v s) (g w t)) →
        ReturnEqual (a.map f s) (b.map g t)) ∧
      (∀ f g : α → Call σ (Outcome β), (∀ v w, (v == w) = true → EndAlike (f v s) (g w t)) →
        ReturnEqual (a.andThen f s) (b.andThen g t)) ∧
      ∀ accepts accepts' error error',
        (∀ v w, (v == w) = true → FilterAlike accepts accepts' error error' s t v w) →
        ReturnEqual (a.filter accepts error s) (b.filter accepts' error' t) :=
  ⟨equal_refl, fun _ _ => equal_symm, fun _ _ _ => equal_trans,
    fun _ _ => failure_beq_failure_iff, fun _ _ => success_beq_success,
    fun _ _ => ⟨success_beq_failure, failure_beq_success⟩, fun _ _ => discard_equal,
    fun _ _ => failures_equal_iff_discard, fun _ _ _ _ h =>
      ⟨fun _ _ => map_equal h, fun _ _ => andThen_equal h, fun _ _ _ _ => filter_equal h⟩⟩

def soldOut (mark : Option Nat) : Outcome Nat := .failure ⟨.message "sold out", mark⟩

def boom (payload : Panic) (_ : Nat) : Call Unit Nat := .panic payload

def onlyTwo (o : Outcome Nat) : Call Unit (Outcome Nat) :=
  o.filter (fun v => pure (v == 2)) fun _ => pure (.message "not two")

/-- Of three that are sold out, the first two are one object and the third is another. Two panics
with one message are equal failures, and so are two refusals. -/
theorem sold_out_equal :
    (soldOut (some 0) == soldOut none) = true ∧
    ReturnEqual ((success 1).map (boom (.fixed "boom")) ())
      ((success 1).map (boom (.built "boom")) ()) ∧
    ReturnEqual (onlyTwo (success 1) ()) (onlyTwo (success 1) ()) := by
  have laws := equality_lawful (α := Nat) (β := Nat) (σ := Unit) fun _ => .message "sold out"
  obtain ⟨hrefl, -, htrans, -, -, -, -, -, hcombinators⟩ := laws
  have hobjects (mark : Option Nat) : (soldOut mark).OfObjects fun _ => .message "sold out" := by
    rintro e h n -
    cases h
    rfl
  obtain ⟨hmap, -, hfilter⟩ := hcombinators (success 1) (success 1) () () (hrefl _)
  refine ⟨htrans (soldOut (some 0)) (soldOut (some 0)) (soldOut none) (hobjects _) (hobjects _)
    (hobjects _) rfl (failure_beq_failure_of_alike rfl rfl), hmap _ _ ?_, hfilter _ _ _ _ ?_⟩
  · exact fun v w _ => .error (p := .fixed "boom") (q := .built "boom") rfl () ()
  · intro v w h
    have hvw : v = w := by simpa using h
    exact ⟨v == 2, (), (), rfl, by rw [hvw]; rfl, fun _ => ⟨_, _, _, _, rfl, rfl, rfl, rfl⟩⟩

end Outcome

end Mediator
