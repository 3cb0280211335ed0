import Mathlib.Data.List.Induction
import Mediator.Proofs.Standard.Gates
import Mediator.Validators

/-!
# What registered validators decide

However validators have been registered, those for the type of a request are run once each, in the
order of their registration, and each where the one before it has left the world: their inspections
are `Successive`. Nothing else is looked at to decide about the request, than what they have found
taken together (`Validators.decide_by_findings`).
-/

namespace Mediator

open Intercept

/-- Whatever the world is like, the validator does not panic on the request. -/
def RequestValidator.Returns (v : RequestValidator) (request : Request) : Prop :=
  ∀ w, ∃ finding w', v request w = (.ok finding, w')

-- ---------------------------------------------------------------------------
-- Inspections
-- ---------------------------------------------------------------------------

/-- A validator that has been run: in which world, with which finding, and what it has left. -/
structure Inspection where
  validator : RequestValidator
  found : World
  finding : Except ValidationFailure Unit
  left : World

namespace Inspection

/-- A validator may fail without an error to tell. -/
def errors (i : Inspection) : List FieldError :=
  match i.finding with
  | .ok () => []
  | .error failure => failure.errors

/-- The inspections follow one another from one world to the other, and in each of them the validator
is run once. -/
inductive Successive (request : Request) : World → List Inspection → World → Prop
  | nil {w : World} : Successive request w [] w
  | cons {i : Inspection} {is : List Inspection} {w' : World}
      (h : i.validator request i.found = (.ok i.finding, i.left))
      (hrest : Successive request i.left is w') : Successive request i.found (i :: is) w'

theorem exists_successive {request : Request} {vs : List RequestValidator}
    (h : ∀ v ∈ vs, v.Returns request) (w : World) :
    ∃ is w', is.map validator = vs ∧ Successive request w is w' := by
  induction vs generalizing w with
  | nil => exact ⟨[], w, rfl, .nil⟩
  | cons v vs ih =>
    rw [List.forall_mem_cons] at h
    obtain ⟨finding, w₁, hv⟩ := h.1 w
    obtain ⟨is, w', rfl, his⟩ := ih h.2 w₁
    exact ⟨⟨v, w, finding, w₁⟩ :: is, w', rfl, .cons (i := ⟨v, w, finding, w₁⟩) hv his⟩

theorem Successive.unique {request : Request} {is js : List Inspection} {w w₁ w₂ : World}
    (h : Successive request w is w₁) (h' : Successive request w js w₂)
    (hvalidators : is.map validator = js.map validator) : is = js ∧ w₁ = w₂ := by
  induction h generalizing js with
  | nil =>
    obtain rfl := List.map_eq_nil_iff.mp hvalidators.symm
    cases h'
    exact ⟨rfl, rfl⟩
  | @cons i is w₁ hi hrest ih =>
    obtain ⟨j, js, rfl, hj, hjs⟩ := List.map_eq_cons_iff.mp hvalidators.symm
    obtain ⟨v, found, finding, left⟩ := i
    cases h' with
    | cons hj' hrest' =>
      obtain ⟨v', found', finding', left'⟩ := j
      obtain rfl : v' = v := hj
      obtain ⟨rfl, rfl⟩ : finding = finding' ∧ left = left' := by
        simpa using hi.symm.trans hj'
      obtain ⟨rfl, rfl⟩ := ih hrest' hjs.symm
      exact ⟨rfl, rfl⟩

end Inspection

-- ---------------------------------------------------------------------------
-- Registered validators
-- ---------------------------------------------------------------------------

namespace Validators

open Inspection (Successive)

def forType (rs : List (RequestType × RequestValidator)) (t : TypeId) : List RequestValidator :=
  (rs.filter (·.1.id == t)).map (·.2)

theorem forType_snoc (rs : List (RequestType × RequestValidator)) (type : RequestType)
    (v : RequestValidator) (t : TypeId) :
    forType (rs ++ [(type, v)]) t = forType rs t ++ if type.id = t then [v] else [] := by
  by_cases ht : type.id = t <;> simp [forType, ht]

theorem hold_ofList (rs : List (RequestType × RequestValidator)) :
    (ofList rs).lists.Hold (forType rs) := by
  induction rs using List.reverseRecOn with
  | nil => exact Slots.hold_nil
  | append_singleton rs r ih =>
    obtain ⟨type, v⟩ := r
    have hforType : forType (rs ++ [(type, v)]) =
        fun t => forType rs t ++ if type.id = t then [v] else [] :=
      funext (forType_snoc rs type v)
    simpa [hforType, ofList, register] using ih.enlist type.id v

theorem ofType_ofList (rs : List (RequestType × RequestValidator)) (type : RequestType) :
    (ofList rs).ofType type = forType rs type.id :=
  (hold_ofList rs).listed type.id

variable {request : Request} {is : List Inspection} {w w' : World}

theorem mergeAll_eq (h : Successive request w is w') (failure : ValidationFailure) :
    mergeAll request failure (is.map Inspection.validator) w =
      (.ok ⟨failure.errors ++ is.flatMap Inspection.errors⟩, w') := by
  induction h generalizing failure with
  | nil => simp [mergeAll, pure, Call.pure]
  | @cons i is w' hi hrest ih =>
    simp only [List.map_cons, mergeAll, bind, Call.bind, hi, List.flatMap_cons, Inspection.errors]
    cases i.finding with
    | ok => simpa using ih failure
    | error found => simpa [ValidationFailure.merge] using ih (failure.merge found)

theorem check_eq {vs : Validators} (hvs : vs.ofType request.type = is.map Inspection.validator)
    (h : Successive request w is w') :
    vs.check request w = (.ok (match is.flatMap Inspection.errors with
      | [] => .ok ()
      | e :: es => .error ⟨e :: es⟩), w') := by
  have hmerged : mergeAll request .empty (is.map Inspection.validator) w =
      (.ok ⟨is.flatMap Inspection.errors⟩, w') := mergeAll_eq h .empty
  simp only [check, bind, Call.bind, hvs, hmerged, ValidationFailure.isEmpty]
  cases is.flatMap Inspection.errors <;> rfl

theorem validate_along {vs : Validators}
    (hvs : vs.ofType request.type = is.map Inspection.validator)
    (h : Successive request w is w') (ws : List World) :
    (vs.validator.validate request).along w ws =
      ⟨.returned (match is.flatMap Inspection.errors with
        | [] => .completed
        | e :: es => .failed (.validation ⟨e :: es⟩)), w', ws, []⟩ := by
  simp only [validator, Prog.bind_eq, Prog.along_bind, Prog.along_call, check_eq hvs h]
  cases is.flatMap Inspection.errors <;> rfl

-- ---------------------------------------------------------------------------
-- Chains
-- ---------------------------------------------------------------------------

theorem run_validation_along (v : Validator) (rest : Chain) (ctx : RequestContext)
    (handler : Handler) (w : World) (ws : List World) :
    (Chain.run (validation v :: rest) ctx handler).along w ws =
      ((validation v).intercept ctx (rest.run ctx handler)).along w ws := rfl

/-- Validation by registered validators runs those that have been registered for the type of the
request, once each and in their order, whatever they find. If they have found no error all together,
the request goes on into the rest of the chain. Else it is rejected with all that they have found, in
their order and each error once, whatever the rest of the chain would have made of it. -/
theorem decide_by_findings {rs : List (RequestType × RequestValidator)} {ctx : RequestContext}
    (h : ∀ v ∈ forType rs ctx.request.type.id, v.Returns ctx.request) (w : World) :
    ∃ (is : List Inspection) (w' : World),
      is.map Inspection.validator = forType rs ctx.request.type.id ∧
      Successive ctx.request w is w' ∧
      let found := is.flatMap Inspection.errors
      let rejection : Shared MediatorError := .new (.validation ⟨found⟩)
      (found = [] → ∀ (rest : Chain) (handler : Handler) (ws : List World),
        (Chain.run (validation (ofList rs).validator :: rest) ctx handler).along w ws =
          (rest.run ctx handler).along w' ws) ∧
      (found ≠ [] → ∀ (rest : Chain) (handler : Handler) (ws : List World),
        (Chain.run (validation (ofList rs).validator :: rest) ctx handler).along w ws =
          ⟨.returned (.ok (.failure rejection)), rejected ctx rejection w', ws, []⟩) := by
  obtain ⟨is, w', hvalidators, hruns⟩ := Inspection.exists_successive h w
  have hvs : (ofList rs).ofType ctx.request.type = is.map Inspection.validator := by
    rw [ofType_ofList, hvalidators]
  have hvalidate (ws : List World) := validate_along hvs hruns ws
  refine ⟨is, w', hvalidators, hruns, ?_, ?_⟩
  · intro hnone rest handler ws
    rw [hnone] at hvalidate
    rw [run_validation_along]
    simp [validation, Prog.along_bind, hvalidate, Outcome.completed]
  · intro hsome rest handler ws
    obtain ⟨e, es, hfound⟩ := List.exists_cons_of_ne_nil hsome
    rw [hfound] at hvalidate ⊢
    rw [run_validation_along]
    simp [validation, Prog.along_bind, hvalidate, Outcome.failed, RequestContext.emit, rejected,
      rejection, MediatorError.kind, Shared.new]

/-- Four validators for two types: one fails without an error to tell, and one is not asked. -/
theorem decide_order_by_findings :
    let order : RequestType := ⟨⟨0⟩, "shop::Order", .full, .int⟩
    let price : RequestType := ⟨⟨1⟩, "shop::Price", .full, .int⟩
    let check (name : String) (finding : Except ValidationFailure Unit) : RequestValidator :=
      fun _ w => (.ok finding, w.write name)
    let rs := [(order, check "sku" (.error ⟨[⟨"sku", "unknown"⟩]⟩)), (price, check "price" (.ok ())),
      (order, check "vague" (.error ⟨[]⟩)),
      (order, check "count" (.error ⟨[⟨"count", "too small"⟩, ⟨"count", "odd"⟩]⟩))]
    let ctx : RequestContext := ⟨.plain order .null, default⟩
    let found : List FieldError := [⟨"sku", "unknown"⟩, ⟨"count", "too small"⟩, ⟨"count", "odd"⟩]
    ∀ (rest : Chain) (handler : Handler),
      (Chain.run (validation (ofList rs).validator :: rest) ctx handler).along .empty [] =
        ⟨.returned (.ok (.failed (.validation ⟨found⟩))),
          { World.empty with log := ["sku", "vague", "count"] }, [], []⟩ := by
  intro order price check rs ctx found rest handler
  have hforType : forType rs ctx.request.type.id = [
      check "sku" (.error ⟨[⟨"sku", "unknown"⟩]⟩), check "vague" (.error ⟨[]⟩),
      check "count" (.error ⟨[⟨"count", "too small"⟩, ⟨"count", "odd"⟩]⟩)] := rfl
  have hreturns : ∀ v ∈ forType rs ctx.request.type.id, v.Returns ctx.request := by
    intro v hv w
    simp only [hforType, List.mem_cons, List.not_mem_nil, or_false] at hv
    rcases hv with rfl | rfl | rfl <;> exact ⟨_, _, rfl⟩
  obtain ⟨is, w', hvalidators, hruns, -, hrejected⟩ := decide_by_findings hreturns .empty
  let sku : Inspection :=
    ⟨check "sku" (.error ⟨[⟨"sku", "unknown"⟩]⟩), .empty, .error ⟨[⟨"sku", "unknown"⟩]⟩,
      World.empty.write "sku"⟩
  let vague : Inspection :=
    ⟨check "vague" (.error ⟨[]⟩), sku.left, .error ⟨[]⟩, sku.left.write "vague"⟩
  let count : Inspection :=
    ⟨check "count" (.error ⟨[⟨"count", "too small"⟩, ⟨"count", "odd"⟩]⟩), vague.left,
      .error ⟨[⟨"count", "too small"⟩, ⟨"count", "odd"⟩]⟩, vague.left.write "count"⟩
  have hthree : Successive ctx.request .empty [sku, vague, count] count.left :=
    .cons (i := sku) rfl (.cons (i := vague) rfl (.cons (i := count) rfl .nil))
  obtain ⟨rfl, rfl⟩ := hruns.unique hthree hvalidators
  exact hrejected (List.cons_ne_nil _ _) rest handler []

end Validators

end Mediator
