import Mediator.Intercept.Caching
import Mediator.Proofs.Prog.Along

/-!
# Visits to a caching node

A visit is a request that has come to a caching node, with the rest of the chain as its inner part.
Whatever turns it takes, a visit without a key is its inner part; one that finds an answer in the
store returns it at once; and every other one takes the turns of its inner part, replies as that
does, and stores the response of a success. `Visit.faithful` says so of all visits.
-/

namespace Mediator

open Intercept

structure Visit where
  /-- For responses whose requests do not say it themselves. -/
  expiration : Duration
  ctx : RequestContext
  inner : Action Reply

namespace Visit

def program (v : Visit) : Action Reply :=
  (Intercept.caching .memory v.expiration).intercept v.ctx v.inner

/-- The full key of the request, if its response may be stored at all. -/
def key? (v : Visit) : Option String := v.ctx.request.cacheKey.map (storeKey v.ctx.request.type)

def lasts (v : Visit) : Duration := v.ctx.request.cacheExpiration.getD v.expiration

/-- What the request finds in the store: an unexpired response under its full key, of the type that
it asks for. -/
def answer? (v : Visit) (w : World) : Option Value :=
  (v.key?.bind (w.store.live? w.now)).filter (·.type == v.ctx.request.type.response)

def keep (v : Visit) (key : String) (reply : Reply) : Action Reply :=
  match reply with
  | .ok (.success x) =>
    (ResponseCache.memory.set key x v.lasts).bind fun _ =>
      (v.ctx.emit (.debug "response cached" [("key", key)])).bind fun _ => .done reply
  | _ => .done reply

/-- The world in which the inner part begins: an expired entry has been dropped, and one of another
type reported. -/
def entered (v : Visit) (key : String) (w : World) : World :=
  let looked := { w with store := (w.store.lookup w.now key).2 }
  match w.store.live? w.now key with
  | some _ => looked.emit v.ctx.operation.spans
      (.warn "cached entry has an unexpected type; ignoring it" [("key", key)])
  | none => looked

variable {v : Visit} {key : String} {w : World} {ws : List World} {x : Value}

theorem answer?_eq_some_iff : v.answer? w = some x ↔ ∃ key, v.key? = some key ∧
    w.store.live? w.now key = some x ∧ x.type = v.ctx.request.type.response := by
  simp only [answer?, Option.filter_eq_some_iff, Option.bind_eq_some_iff, beq_iff_eq]
  constructor
  · rintro ⟨⟨key, hkey, hlive⟩, htype⟩
    exact ⟨key, hkey, hlive, htype⟩
  · rintro ⟨key, hkey, hlive, htype⟩
    exact ⟨⟨key, hkey, hlive⟩, htype⟩

theorem entered_store : (v.entered key w).store = (w.store.lookup w.now key).2 := by
  unfold entered
  split <;> simp

-- ---------------------------------------------------------------------------
-- The three cases
-- ---------------------------------------------------------------------------

theorem program_of_no_key (h : v.key? = none) : v.program = v.inner := by
  have h : v.ctx.request.cacheKey = none := by simpa [key?] using h
  simp [program, caching, h]

theorem runAndStore_memory :
    runAndStore .memory v.expiration v.ctx key v.inner = v.inner.bind (v.keep key) := by
  refine congrArg v.inner.bind (funext fun reply => ?_)
  rcases reply with _ | _ | _ <;> rfl

theorem program_of_key (h : v.key? = some key) :
    v.program = .get fun w => .set { w with store := (w.store.lookup w.now key).2 }
      (match (w.store.lookup w.now key).1 with
      | some x =>
        if x.type == v.ctx.request.type.response then
          (v.ctx.emit (.debug "cache hit" [("key", key)])).bind fun _ =>
            .done (.ok (.success x))
        else
          (v.ctx.emit (.warn "cached entry has an unexpected type; ignoring it"
            [("key", key)])).bind fun _ => v.inner.bind (v.keep key)
      | none => v.inner.bind (v.keep key)) := by
  obtain ⟨own, hown, rfl⟩ := Option.map_eq_some_iff.mp h
  simp only [program, caching, hown, ResponseCache.memory, Prog.bind_eq, Prog.bind,
    ← runAndStore_memory]
  refine congrArg Prog.get (funext fun w => congrArg (Prog.set _) ?_)
  cases (w.store.lookup w.now (storeKey v.ctx.request.type own)).1 <;> rfl

theorem program_along (h : v.key? = some key) :
    v.program.along w ws = match v.answer? w with
      | some x => ⟨.returned (.ok (.success x)),
          ({ w with store := (w.store.lookup w.now key).2 } : World).emit v.ctx.operation.spans
            (.debug "cache hit" [("key", key)]), ws, []⟩
      | none => (v.inner.bind (v.keep key)).along (v.entered key w) ws := by
  simp only [program_of_key h, answer?, h, Option.bind_some, entered, ← Store.lookup_fst,
    Prog.along_get, Prog.along_set]
  cases (w.store.lookup w.now key).1 with
  | none => rfl
  | some x =>
    by_cases hx : (x.type == v.ctx.request.type.response) = true
    · simp [hx, Option.filter_some, Prog.along_bind, RequestContext.emit]
    · simp [hx, Option.filter_some, Prog.along_bind, RequestContext.emit]

theorem along_of_answer (h : v.answer? w = some x) (ws : List World) : ∃ key, v.key? = some key ∧
    v.program.along w ws = ⟨.returned (.ok (.success x)),
      w.emit v.ctx.operation.spans (.debug "cache hit" [("key", key)]), ws, []⟩ := by
  obtain ⟨key, hkey, hlive, -⟩ := answer?_eq_some_iff.mp h
  refine ⟨key, hkey, ?_⟩
  rw [program_along hkey, h]
  simp only [Store.lookup_of_live hlive]

theorem along_of_no_answer (hkey : v.key? = some key) (h : v.answer? w = none) :
    v.program.along w ws = (v.inner.bind (v.keep key)).along (v.entered key w) ws := by
  rw [program_along hkey, h]

-- ---------------------------------------------------------------------------
-- What becomes of the reply
-- ---------------------------------------------------------------------------

theorem keep_of_not_success {reply : Reply} (h : ∀ x, reply ≠ .ok (.success x)) :
    v.keep key reply = .done reply := by
  unfold keep
  split
  · exact absurd rfl (h _)
  · rfl

def kept (v : Visit) (key : String) (x : Value) (t : Instant) (w : World) : World :=
  ({ w with store := w.store.insert key ⟨x, t⟩ } : World).emit v.ctx.operation.spans
    (.debug "response cached" [("key", key)])

theorem kept_store {t : Instant} :
    (v.kept key x t w).store = w.store.insert key ⟨x, t⟩ := by
  simp [kept]

theorem keep_success_along {t : Instant} (h : w.now.add? v.lasts = some t) :
    (v.keep key (.ok (.success x))).along w ws =
      ⟨.returned (.ok (.success x)), v.kept key x t w, ws, []⟩ := by
  simp [keep, kept, ResponseCache.memory, Store.keep?, h, Prog.along_bind, RequestContext.emit]

-- ---------------------------------------------------------------------------
-- All visits
-- ---------------------------------------------------------------------------

/-- What a visit does with its inner part and with the store, whatever turns it takes. -/
structure Faithful (v : Visit) : Prop where
  bypass : v.key? = none → v.program = v.inner
  /-- The inner part has no say in it, and nothing is stored or dropped. -/
  hit {w : World} {x : Value} (h : v.answer? w = some x) : ∃ w', w'.store = w.store ∧
    ∀ inner ws, ({ v with inner } : Visit).program.along w ws =
      ⟨.returned (.ok (.success x)), w', ws, []⟩
  /-- The look-up drops what it finds expired, before the inner part begins. -/
  looked (key : String) (w : World) : (v.entered key w).store = (w.store.lookup w.now key).2
  stored (key : String) (x : Value) (t : Instant) (w : World) :
    (v.kept key x t w).store = w.store.insert key ⟨x, t⟩
  success {key : String} {w w' : World} {ws ws' : List World} {l : List (Task World)} {x : Value}
    {t : Instant} (hkey : v.key? = some key) (h : v.answer? w = none)
    (hinner : v.inner.along (v.entered key w) ws = ⟨.returned (.ok (.success x)), w', ws', l⟩)
    (ht : w'.now.add? v.lasts = some t) :
    v.program.along w ws = ⟨.returned (.ok (.success x)), v.kept key x t w', ws', l⟩
  /-- A failure or an error. -/
  other {key : String} {w w' : World} {ws ws' : List World} {l : List (Task World)} {reply : Reply}
    (hkey : v.key? = some key) (h : v.answer? w = none)
    (hinner : v.inner.along (v.entered key w) ws = ⟨.returned reply, w', ws', l⟩)
    (hreply : ∀ x, reply ≠ .ok (.success x)) : v.program.along w ws = ⟨.returned reply, w', ws', l⟩
  panic {key : String} {w w' : World} {ws ws' : List World} {l : List (Task World)} {e : Panic}
    (hkey : v.key? = some key) (h : v.answer? w = none)
    (hinner : v.inner.along (v.entered key w) ws = ⟨.panicked e, w', ws', l⟩) :
    v.program.along w ws = ⟨.panicked e, w', ws', l⟩
  /-- As long as the inner part has not ended, the visit is where the inner part is. -/
  pause {key : String} {w w' : World} {ws ws' : List World} {l : List (Task World)}
    {ready : World → Bool} {next : Action Reply} (hkey : v.key? = some key) (h : v.answer? w = none)
    (hinner : v.inner.along (v.entered key w) ws = ⟨.paused ready next, w', ws', l⟩) :
    v.program.along w ws = ⟨.paused ready (next.bind (v.keep key)), w', ws', l⟩

theorem faithful (v : Visit) : v.Faithful where
  bypass := program_of_no_key
  hit {w x} h := by
    obtain ⟨key, hkey, -⟩ := answer?_eq_some_iff.mp h
    refine ⟨w.emit v.ctx.operation.spans (.debug "cache hit" [("key", key)]), by simp,
      fun inner ws => ?_⟩
    obtain ⟨key', hkey', halong⟩ := along_of_answer (v := { v with inner }) h ws
    obtain rfl : key = key' := Option.some.inj (hkey.symm.trans hkey')
    exact halong
  looked _ _ := entered_store
  stored _ _ _ _ := kept_store
  success hkey h hinner ht := by
    rw [along_of_no_answer hkey h, Prog.along_bind, hinner]
    simp [keep_success_along ht]
  other hkey h hinner hreply := by
    rw [along_of_no_answer hkey h, Prog.along_bind, hinner]
    simp [keep_of_not_success hreply]
  panic hkey h hinner := by
    rw [along_of_no_answer hkey h, Prog.along_bind, hinner]
  pause hkey h hinner := by
    rw [along_of_no_answer hkey h, Prog.along_bind, hinner]

end Visit

end Mediator
