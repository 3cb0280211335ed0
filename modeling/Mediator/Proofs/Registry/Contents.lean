import Mediator.Registry
import Mathlib.Data.Set.Card

/-!
# What a registry holds

The calls of a builder are read here by the type that they concern: `handlersOf` and `subscribersOf`
are what the calls have given to one request type and to one notification type. A builder stands for
its calls (`RegistryBuilder.Represents`), and keeps standing for them with each call. In particular
everything that it keeps for a type has been made for that type, so that taking it back never fails.
-/

namespace Mediator

-- ---------------------------------------------------------------------------
-- Calls by type
-- ---------------------------------------------------------------------------

namespace Registration

def handler? : Registration → Option (RequestType × Handler)
  | .handler type h | .sharedHandler type h => some (type, h)
  | .subscriber .. | .subscriberNamed .. | .sharedSubscriber .. => none

def subscriber? : Registration → Option (NotificationType × Subscriber)
  | .subscriber type ownType receiver => some (type, ⟨TypeName.short ownType, receiver⟩)
  | .subscriberNamed type name receiver | .sharedSubscriber type name receiver =>
    some (type, ⟨name, receiver⟩)
  | .handler .. | .sharedHandler .. => none

def handlersOf (rs : List Registration) (t : TypeId) : List Handler :=
  ((rs.filterMap handler?).filter (·.1.id == t)).map (·.2)

/-- The subscribers that were given to a notification type, in the order of the calls. -/
def subscribersOf (rs : List Registration) (t : TypeId) : List Subscriber :=
  ((rs.filterMap subscriber?).filter (·.1.id == t)).map (·.2)

/-- The first call that gave another handler to a request type was for this one. -/
def FirstRepeated (rs : List Registration) (type : RequestType) : Prop :=
  ∃ before h r after, rs = before ++ r :: after ∧ r.handler? = some (type, h) ∧
    handlersOf before type.id ≠ [] ∧ ∀ t, (handlersOf before t).length ≤ 1

/-- Every message type was given the same, in the same order. -/
structure SameByType (rs rs' : List Registration) : Prop where
  handlers : ∀ t, handlersOf rs' t = handlersOf rs t
  subscribers : ∀ t, subscribersOf rs' t = subscribersOf rs t

variable {rs rs' : List Registration} {r : Registration}

theorem handlersOf_append (rs rs' : List Registration) (t : TypeId) :
    handlersOf (rs ++ rs') t = handlersOf rs t ++ handlersOf rs' t := by
  simp [handlersOf]

theorem handlersOf_snoc {type : RequestType} {h : Handler} (hr : r.handler? = some (type, h))
    (t : TypeId) :
    handlersOf (rs ++ [r]) t = handlersOf rs t ++ if type.id = t then [h] else [] := by
  rw [handlersOf_append]
  by_cases ht : type.id = t <;> simp [handlersOf, hr, ht]

theorem handlersOf_snoc_none (hr : r.handler? = none) (t : TypeId) :
    handlersOf (rs ++ [r]) t = handlersOf rs t := by
  simp [handlersOf, hr]

theorem subscribersOf_snoc {type : NotificationType} {s : Subscriber}
    (hr : r.subscriber? = some (type, s)) (t : TypeId) :
    subscribersOf (rs ++ [r]) t = subscribersOf rs t ++ if type.id = t then [s] else [] := by
  by_cases ht : type.id = t <;> simp [subscribersOf, hr, ht]

theorem subscribersOf_snoc_none (hr : r.subscriber? = none) (t : TypeId) :
    subscribersOf (rs ++ [r]) t = subscribersOf rs t := by
  simp [subscribersOf, hr]

theorem FirstRepeated.append {type : RequestType} (h : FirstRepeated rs type)
    (more : List Registration) : FirstRepeated (rs ++ more) type := by
  obtain ⟨before, handler, r, after, rfl, hrest⟩ := h
  exact ⟨before, handler, r, after ++ more, by simp, hrest⟩

theorem FirstRepeated.repeated {type : RequestType} (h : FirstRepeated rs type) :
    1 < (handlersOf rs type.id).length := by
  obtain ⟨before, handler, r, after, rfl, hr, hbefore, -⟩ := h
  have hpos : 0 < (handlersOf before type.id).length := List.length_pos_of_ne_nil hbefore
  rw [show before ++ r :: after = (before ++ [r]) ++ after by simp, handlersOf_append,
    handlersOf_snoc hr]
  simp only [if_true, List.length_append, List.length_cons, List.length_nil]
  omega

theorem FirstRepeated.unique {type type' : RequestType} (h : FirstRepeated rs type)
    (h' : FirstRepeated rs type') : type = type' := by
  -- If one of the two calls comes later, there is a repetition before it.
  have hsame {before between after after' : List Registration} {r r' : Registration}
      {type type' : RequestType} {handler handler' : Handler}
      (hr : r.handler? = some (type, handler)) (hr' : r'.handler? = some (type', handler'))
      (hbefore : handlersOf before type.id ≠ [])
      (hfirst : ∀ t, (handlersOf before t).length ≤ 1)
      (hfirst' : ∀ t, (handlersOf (before ++ between) t).length ≤ 1)
      (hrest : r :: after = between ++ r' :: after') : type = type' := by
    cases between with
    | nil =>
      obtain rfl : r = r' := (List.cons.inj hrest).1
      rw [hr] at hr'
      cases hr'
      rfl
    | cons x between =>
      obtain rfl : r = x := (List.cons.inj hrest).1
      have hearlier : FirstRepeated (before ++ r :: between) type :=
        ⟨before, handler, r, between, rfl, hr, hbefore, hfirst⟩
      exact absurd (hfirst' type.id) (Nat.not_le.mpr hearlier.repeated)
  obtain ⟨before, handler, r, after, rfl, hr, hbefore, hfirst⟩ := h
  obtain ⟨before', handler', r', after', hsplit, hr', hbefore', hfirst'⟩ := h'
  obtain ⟨between, rfl, hrest⟩ | ⟨between, rfl, hrest⟩ := List.append_eq_append_iff.mp hsplit
  · exact hsame hr hr' hbefore hfirst hfirst' hrest
  · exact (hsame hr' hr hbefore' hfirst' hfirst hrest).symm

end Registration

open Registration

-- ---------------------------------------------------------------------------
-- What a builder stands for
-- ---------------------------------------------------------------------------

namespace RegistryBuilder

structure Represents (b : RegistryBuilder) (rs : List Registration) : Prop where
  handlers : ∀ t, b.handlers.get? t = (handlersOf rs t).getLast?.map (⟨t, ·⟩)
  subscribers : ∀ t, b.subscribers.get? t =
    if subscribersOf rs t = [] then none else some ⟨t, subscribersOf rs t⟩
  types : (b.handlers.map (·.1)).Nodup
  unrepeated : b.duplicates.head? = none → ∀ t, (handlersOf rs t).length ≤ 1
  repeated : ∀ request, b.duplicates.head? = some request →
    ∃ type, FirstRepeated rs type ∧ type.shortName = request

variable {b : RegistryBuilder} {rs : List Registration} {r : Registration}

theorem represents_empty : Represents empty [] where
  handlers _ := rfl
  subscribers _ := rfl
  types := List.nodup_nil
  unrepeated _ _ := Nat.zero_le _
  repeated _ h := nomatch h

theorem Represents.get?_isSome {type : RequestType} (hb : b.Represents rs) :
    (b.handlers.get? type.id).isSome = true ↔ handlersOf rs type.id ≠ [] := by
  rw [hb.handlers]
  simp

theorem Represents.sharedHandler {type : RequestType} {h : Handler} (hb : b.Represents rs)
    (hr : r.handler? = some (type, h)) (hs : r.subscriber? = none) :
    (b.sharedHandler type h).Represents (rs ++ [r]) where
  handlers t := by
    simp only [RegistryBuilder.sharedHandler, Slots.get?_put, handlersOf_snoc hr]
    split
    · next ht => simp [ht]
    · simpa using hb.handlers t
  subscribers t := by
    rw [subscribersOf_snoc_none hs]
    exact hb.subscribers t
  types := by
    simp only [RegistryBuilder.sharedHandler, Slots.map_fst_put]
    split
    · exact hb.types
    · next hnone =>
      rw [Slots.get?_isSome_iff] at hnone
      exact hb.types.append (List.nodup_singleton _) (by simpa using hnone)
  unrepeated hnone t := by
    simp only [RegistryBuilder.sharedHandler] at hnone
    rw [handlersOf_snoc hr]
    split at hnone
    · simp at hnone
    · next hnew =>
      rw [hb.get?_isSome, not_not] at hnew
      have hold := hb.unrepeated hnone t
      split
      · next ht => simp [← ht, hnew]
      · simpa using hold
  repeated request hsome := by
    simp only [RegistryBuilder.sharedHandler] at hsome
    split at hsome
    · next hold =>
      rw [List.head?_append] at hsome
      cases hhead : b.duplicates.head? with
      | some request' =>
        obtain ⟨type', hfirst, hname⟩ := hb.repeated request' hhead
        obtain rfl : request' = request := by simpa [hhead] using hsome
        exact ⟨type', hfirst.append _, hname⟩
      | none =>
        obtain rfl : type.shortName = request := by simpa [hhead] using hsome
        exact ⟨type, ⟨rs, h, r, [], rfl, hr, hb.get?_isSome.mp hold, hb.unrepeated hhead⟩, rfl⟩
    · obtain ⟨type', hfirst, hname⟩ := hb.repeated request hsome
      exact ⟨type', hfirst.append _, hname⟩

theorem Represents.sharedSubscriber {type : NotificationType} {name : String}
    {receiver : Receiver} (hb : b.Represents rs) (hr : r.handler? = none)
    (hs : r.subscriber? = some (type, ⟨name, receiver⟩)) :
    (b.sharedSubscriber type name receiver).Represents (rs ++ [r]) where
  handlers t := by
    rw [handlersOf_snoc_none hr]
    exact hb.handlers t
  subscribers t := by
    rw [subscribersOf_snoc hs]
    exact Slots.Hold.enlist hb.subscribers type.id ⟨name, receiver⟩ t
  types := hb.types
  unrepeated hnone t := by
    rw [handlersOf_snoc_none hr]
    exact hb.unrepeated hnone t
  repeated request hsome := by
    obtain ⟨type', hfirst, hname⟩ := hb.repeated request hsome
    exact ⟨type', hfirst.append _, hname⟩

theorem Represents.register (hb : b.Represents rs) (r : Registration) :
    (b.register r).Represents (rs ++ [r]) := by
  cases r with
  | handler type h => exact hb.sharedHandler rfl rfl
  | sharedHandler type h => exact hb.sharedHandler rfl rfl
  | subscriber type ownType receiver => exact hb.sharedSubscriber rfl rfl
  | subscriberNamed type name receiver => exact hb.sharedSubscriber rfl rfl
  | sharedSubscriber type name receiver => exact hb.sharedSubscriber rfl rfl

theorem represents_ofList (rs : List Registration) : (ofList rs).Represents rs := by
  induction rs using List.reverseRecOn with
  | nil => exact represents_empty
  | append_singleton rs r ih =>
    have hstep := ih.register r
    simpa [ofList] using hstep

end RegistryBuilder

-- ---------------------------------------------------------------------------
-- Registries
-- ---------------------------------------------------------------------------

namespace Registry

/-- The registry tells of each type what the calls have given to it. -/
structure Answers (g : Registry) (rs : List Registration) : Prop where
  resolve : ∀ type, (g.provider.resolve type).toList = handlersOf rs type.id
  containsHandler : ∀ type, g.containsHandler type = (g.provider.resolve type).isSome
  handlerCount : (g.handlerCount : ℕ∞) =
    {t | ∃ type, type.id = t ∧ (g.provider.resolve type).isSome}.encard
  subscribers : ∀ type, g.provider.subscribers type = subscribersOf rs type.id
  subscriberCount : ∀ type, g.subscriberCount type = (g.provider.subscribers type).length

/-- The registries give the same answer to every question. -/
structure Alike (g g' : Registry) : Prop where
  provider : g'.provider = g.provider
  containsHandler : ∀ type, g'.containsHandler type = g.containsHandler type
  handlerCount : g'.handlerCount = g.handlerCount
  subscriberCount : ∀ type, g'.subscriberCount type = g.subscriberCount type

theorem Answers.alike {g g' : Registry} {rs rs' : List Registration} (h : g.Answers rs)
    (h' : g'.Answers rs') (hsame : SameByType rs rs') : g.Alike g' := by
  have hresolve : g'.provider.resolve = g.provider.resolve := by
    funext type
    ext handler
    rw [← Option.mem_toList, ← Option.mem_toList, h'.resolve, h.resolve, hsame.handlers]
  have hsubscribers : g'.provider.subscribers = g.provider.subscribers := by
    funext type
    rw [h'.subscribers, h.subscribers, hsame.subscribers]
  refine ⟨?_, ?_, ?_, ?_⟩
  · calc g'.provider = ⟨g'.provider.resolve, g'.provider.subscribers⟩ := rfl
      _ = ⟨g.provider.resolve, g.provider.subscribers⟩ := by rw [hresolve, hsubscribers]
  · intro type
    rw [h'.containsHandler, h.containsHandler, hresolve]
  · have hcount := h'.handlerCount
    rw [hresolve, ← h.handlerCount] at hcount
    exact_mod_cast hcount
  · intro type
    rw [h'.subscriberCount, h.subscriberCount, hsubscribers]

end Registry

namespace RegistryBuilder

variable {b : RegistryBuilder} {rs : List Registration}

theorem build_eq_ok_iff {g : Registry} :
    b.build = .ok g ↔ b.duplicates.head? = none ∧ g = ⟨b.handlers, b.subscribers⟩ := by
  unfold build
  cases b.duplicates.head? <;> simp [eq_comm]

theorem build_eq_error_iff {e : RegistryError} :
    b.build = .error e ↔ ∃ request, b.duplicates.head? = some request ∧
      e = .duplicateHandler request := by
  unfold build
  cases b.duplicates.head? <;> simp [eq_comm]

theorem Represents.head?_eq_none_iff (hb : b.Represents rs) :
    b.duplicates.head? = none ↔ ∀ t, (handlersOf rs t).length ≤ 1 := by
  constructor
  · exact hb.unrepeated
  · intro hall
    cases hhead : b.duplicates.head? with
    | none => rfl
    | some request =>
      obtain ⟨type, hfirst, -⟩ := hb.repeated request hhead
      exact absurd (hall type.id) (Nat.not_le.mpr hfirst.repeated)

theorem Represents.head?_eq_some_iff (hb : b.Represents rs) {request : String} :
    b.duplicates.head? = some request ↔ ∃ type, FirstRepeated rs type ∧ type.shortName = request
    := by
  constructor
  · exact hb.repeated request
  · rintro ⟨type, hfirst, rfl⟩
    cases hhead : b.duplicates.head? with
    | none =>
      exact absurd (hb.unrepeated hhead type.id) (Nat.not_le.mpr hfirst.repeated)
    | some request =>
      obtain ⟨type', hfirst', rfl⟩ := hb.repeated request hhead
      rw [hfirst.unique hfirst']

theorem Represents.answers (hb : b.Represents rs)
    (hall : ∀ t, (handlersOf rs t).length ≤ 1) :
    Registry.Answers ⟨b.handlers, b.subscribers⟩ rs := by
  have hresolve (type : RequestType) :
      (Registry.mk b.handlers b.subscribers).provider.resolve type =
        (handlersOf rs type.id).getLast? := by
    simp only [Registry.provider, hb.handlers]
    cases (handlersOf rs type.id).getLast? <;> simp
  have hsubscribers (type : NotificationType) :
      (b.subscribers.get? type.id).bind (Erased.downcast? type.id) =
        if subscribersOf rs type.id = [] then none else some (subscribersOf rs type.id) :=
    Slots.Hold.downcast? hb.subscribers type.id
  have hcontains (type : RequestType) :
      (b.handlers.get? type.id).isSome = (handlersOf rs type.id).getLast?.isSome := by
    rw [hb.handlers, Option.isSome_map]
  refine ⟨?_, ?_, ?_, ?_, ?_⟩
  · intro type
    have hlength := hall type.id
    rw [hresolve]
    cases hof : handlersOf rs type.id with
    | nil => rfl
    | cons h rest =>
      rw [hof] at hlength
      obtain rfl : rest = [] := List.eq_nil_of_length_eq_zero (by simpa using hlength)
      rfl
  · intro type
    rw [hresolve]
    exact hcontains type
  · have htypes : {t | ∃ type, type.id = t ∧
        ((Registry.mk b.handlers b.subscribers).provider.resolve type).isSome} =
        (b.handlers.map (·.1)).toFinset := by
      ext t
      rw [List.coe_toFinset, Set.mem_ofPred_eq, Set.mem_ofPred_eq, ← Slots.get?_isSome_iff]
      constructor
      · rintro ⟨type, rfl, hsome⟩
        rwa [hcontains, ← hresolve]
      · intro hsome
        refine ⟨⟨t, default, default, default⟩, rfl, ?_⟩
        rwa [hresolve, ← hcontains]
    rw [htypes, Set.encard_coe_eq_coe_finsetCard, List.toFinset_card_of_nodup hb.types,
      List.length_map]
    rfl
  · exact fun type => Slots.Hold.listed hb.subscribers type.id
  · intro type
    simp only [Registry.subscriberCount, Registry.provider, Slots.listed, hsubscribers]
    split <;> rfl

/-- A registry is built unless some request type was given two handlers, and then the refusal names
the type of the first call that gave another one; and what is built holds exactly what was
registered, type by type. -/
theorem builds_what_was_registered (rs : List Registration) :
    ((∃ g, (ofList rs).build = .ok g) ↔ ∀ t, (handlersOf rs t).length ≤ 1) ∧
    (∀ e, (ofList rs).build = .error e ↔
      ∃ type, FirstRepeated rs type ∧ e = .duplicateHandler type.shortName) ∧
    (∀ g, (ofList rs).build = .ok g → g.Answers rs) ∧
    ∀ rs', SameByType rs rs' →
      ((∃ g, (ofList rs').build = .ok g) ↔ ∃ g, (ofList rs).build = .ok g) ∧
      ∀ g g', (ofList rs).build = .ok g → (ofList rs').build = .ok g' → g.Alike g' := by
  have hok (rs : List Registration) :
      (∃ g, (ofList rs).build = .ok g) ↔ ∀ t, (handlersOf rs t).length ≤ 1 := by
    simp only [build_eq_ok_iff, exists_and_left, exists_eq, and_true]
    exact (represents_ofList rs).head?_eq_none_iff
  have hanswers (rs : List Registration) (g : Registry) (hbuild : (ofList rs).build = .ok g) :
      g.Answers rs := by
    obtain ⟨-, rfl⟩ := build_eq_ok_iff.mp hbuild
    exact (represents_ofList rs).answers ((hok rs).mp ⟨_, hbuild⟩)
  refine ⟨hok rs, ?_, hanswers rs, ?_⟩
  · intro e
    simp only [build_eq_error_iff, (represents_ofList rs).head?_eq_some_iff]
    constructor
    · rintro ⟨request, ⟨type, hfirst, rfl⟩, rfl⟩
      exact ⟨type, hfirst, rfl⟩
    · rintro ⟨type, hfirst, rfl⟩
      exact ⟨_, ⟨type, hfirst, rfl⟩, rfl⟩
  · intro rs' hsame
    refine ⟨?_, fun g g' hg hg' => (hanswers rs g hg).alike (hanswers rs' g' hg') hsame⟩
    rw [hok, hok]
    simp only [hsame.handlers]

/-- One type is both a request type and a notification type. -/
theorem builds_two_kinds :
    let ping : RequestType := ⟨⟨0⟩, "app::Ping", default, .unit⟩
    let pinged : NotificationType := ⟨⟨0⟩, "app::Ping", none⟩
    let handler : Handler := fun _ _ => .done (.ok (.success .unit))
    let receiver : Receiver := fun _ _ => pure (.done (.ok ()))
    let rs : List Registration := [.subscriberNamed pinged "log" receiver, .handler ping handler,
      .subscriber pinged "app::Mail<u8>" receiver]
    (∃ g, (ofList rs).build = .ok g ∧ (g.provider.resolve ping).toList = [handler] ∧
      g.provider.subscribers pinged = [⟨"log", receiver⟩, ⟨"Mail", receiver⟩]) ∧
    (ofList (rs ++ [.sharedHandler ping handler])).build = .error (.duplicateHandler "Ping") := by
  intro ping pinged handler receiver rs
  have hping : ping.shortName = "Ping" := by decide
  have hmail : TypeName.short "app::Mail<u8>" = "Mail" := by decide
  have hhandlers : rs.filterMap handler? = [(ping, handler)] := rfl
  have hsubscribers : rs.filterMap subscriber? =
      [(pinged, ⟨"log", receiver⟩), (pinged, ⟨TypeName.short "app::Mail<u8>", receiver⟩)] := rfl
  have honce (t : TypeId) : (handlersOf rs t).length ≤ 1 := by
    rw [handlersOf, hhandlers, List.length_map]
    exact List.length_filter_le ..
  have hgiven : handlersOf rs ping.id = [handler] := by simp [handlersOf, hhandlers]
  obtain ⟨hok, -, hanswers, -⟩ := builds_what_was_registered rs
  obtain ⟨-, hrefused, -, -⟩ := builds_what_was_registered (rs ++ [.sharedHandler ping handler])
  obtain ⟨g, hbuild⟩ := hok.mpr honce
  have h := hanswers g hbuild
  refine ⟨⟨g, hbuild, ?_, ?_⟩, ?_⟩
  · rw [h.resolve, hgiven]
  · rw [h.subscribers, subscribersOf, hsubscribers, hmail]
    simp
  · refine (hrefused _).mpr ⟨ping, ⟨rs, handler, _, [], rfl, rfl, ?_, honce⟩, by rw [hping]⟩
    simp [hgiven]

end RegistryBuilder

end Mediator
