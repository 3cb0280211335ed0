import Mediator.Config
import Mediator.Proofs.Caching.Visit
import Mediator.Proofs.Standard.Gates

/-!
# Responses that would last too long

A response is stored with the instant at which it expires, and the clock can show no instant past
its end. So a request that has already got its response may still end in a panic, if the response
would last longer than that: the request says how long, or else the caching node does. The exact
condition is `Visit.stored_within_clock`. A node that has its expiration from a configuration can
only come upon it in the last milliseconds, as many as 64 bits can count, before the clock ends
(`Config.later_within_clock`).
-/

namespace Mediator

open Intercept

-- ---------------------------------------------------------------------------
-- How long a response may last
-- ---------------------------------------------------------------------------

theorem Config.expiration_le (c : Config) :
    c.expiration.nanos ≤ (Duration.ofMillis Duration.maxCount).nanos := by
  have hmillis : c.expirationMillis.toNat ≤ Duration.maxCount :=
    Nat.le_sub_one_of_lt c.expirationMillis.toNat_lt
  exact Nat.mul_le_mul_right Duration.perMilli hmillis

/-- No expiration of a configuration takes the clock past its end before the very last. -/
theorem Config.later_within_clock (c : Config) {t : Instant}
    (h : t.nanos + (Duration.ofMillis Duration.maxCount).nanos < Instant.limit) :
    t.nanos + c.expiration.nanos < Instant.limit :=
  Nat.lt_of_le_of_lt (Nat.add_le_add_left c.expiration_le _) h

-- ---------------------------------------------------------------------------
-- Visits
-- ---------------------------------------------------------------------------

namespace Visit

/-- The panic of a node that is to store a response for longer than the clock goes on. -/
def overlong : Panic := .fixed "overflow when adding duration to instant"

variable {v : Visit} {key : String} {w w' : World} {ws ws' : List World} {l : List (Task World)}
  {x : Value}

theorem keep_overlong_along (h : w.now.add? v.lasts = none) :
    (v.keep key (.ok (.success x))).along w ws = ⟨.panicked overlong, w, ws, []⟩ := by
  simp [keep, overlong, ResponseCache.memory, Store.keep?, h, Prog.along_bind]

theorem along_of_stored (hkey : v.key? = some key) (h : v.answer? w = none)
    (hinner : v.inner.along (v.entered key w) ws = ⟨.returned (.ok (.success x)), w', ws', l⟩) :
    (w'.now.nanos + v.lasts.nanos < Instant.limit → v.program.along w ws =
      ⟨.returned (.ok (.success x)), v.kept key x (w'.now.later v.lasts) w', ws', l⟩) ∧
    (Instant.limit ≤ w'.now.nanos + v.lasts.nanos →
      v.program.along w ws = ⟨.panicked overlong, w', ws', l⟩) := by
  constructor
  · intro hclock
    exact v.faithful.success hkey h hinner (Instant.add?_eq_some hclock)
  · intro hclock
    rw [along_of_no_answer hkey h, Prog.along_bind, hinner]
    simp [keep_overlong_along (Instant.add?_eq_none hclock)]

end Visit

-- ---------------------------------------------------------------------------
-- Dispatches
-- ---------------------------------------------------------------------------

namespace Dispatcher

variable {d : Dispatcher} {request : Request} {op : Operation} {handler : Handler}
  {w w' : World} {ws ws' : List World} {l : List (Task World)}

def panicReported (ctx : RequestContext) (payload : Panic) (w : World) : World :=
  w.emit ctx.operation.spans
    (.warn "handler panicked" [("request", ctx.name), ("panic", payload.message)])

theorem dispatchWith_along_of_panic (h : d.provider.resolve request.type = some handler)
    {payload : Panic}
    (hrun : (d.chain.run (context request op) handler).along (d.outset (context request op) w) ws =
      ⟨.panicked payload, w', ws', l⟩) :
    (d.dispatchWith request op).along w ws =
      ⟨.returned (.ok (.panicked request.name payload)),
        panicReported (context request op) payload w', ws', l⟩ := by
  rw [dispatchWith_along h, Prog.along_bind, Prog.along_attempt, hrun]
  simp [settle, Prog.along_bind, RequestContext.emit, panicReported]
  rfl

theorem run_caching {expiration : Duration} {rest : Chain} {ctx : RequestContext}
    (h : ctx.capabilities.cacheable = true) :
    (Chain.run (caching .memory expiration :: rest) ctx handler).along w ws =
      (⟨expiration, ctx, rest.run ctx handler⟩ : Visit).program.along w ws := by
  show (if ctx.capabilities.cacheable = true then _ else _ : Action Reply).along w ws = _
  rw [if_pos h]
  rfl

end Dispatcher

/-- A caching node that finds no answer, and whose inner part succeeds, returns that success just if
the clock can show when the response expires. Else it panics and nothing is stored, and a dispatch
whose chain comes to that fails as panicked. A node that has its expiration from a configuration
stores what it is given as long as the clock has some while to go. -/
theorem Visit.stored_within_clock {v : Visit} {key : String} {w w' : World} {ws ws' : List World}
    {l : List (Task World)} {x : Value} (hkey : v.key? = some key) (h : v.answer? w = none)
    (hinner : v.inner.along (v.entered key w) ws = ⟨.returned (.ok (.success x)), w', ws', l⟩) :
    let expires := w'.now.nanos + v.lasts.nanos
    let stored := v.kept key x (w'.now.later v.lasts) w'
    (expires < Instant.limit →
      v.program.along w ws = ⟨.returned (.ok (.success x)), stored, ws', l⟩) ∧
    (Instant.limit ≤ expires → v.program.along w ws = ⟨.panicked overlong, w', ws', l⟩) ∧
    (∀ c : Config, v.expiration = c.expiration → v.ctx.request.cacheExpiration = none →
      w'.now.nanos + (Duration.ofMillis Duration.maxCount).nanos < Instant.limit →
      v.program.along w ws = ⟨.returned (.ok (.success x)), stored, ws', l⟩) ∧
    ∀ (d : Dispatcher) (handler : Handler) (request : Request) (op : Operation) (w₀ : World),
      let ctx := Dispatcher.context request op
      d.provider.resolve request.type = some handler →
      (d.chain.run ctx handler).along (d.outset ctx w₀) ws = v.program.along w ws →
      (expires < Instant.limit → (d.dispatchWith request op).along w₀ ws =
        ⟨.returned (.ok (.success x)), stored, ws', l⟩) ∧
      (Instant.limit ≤ expires → (d.dispatchWith request op).along w₀ ws =
        ⟨.returned (.ok (.panicked request.name overlong)),
          Dispatcher.panicReported ctx overlong w', ws', l⟩) := by
  intro expires stored
  obtain ⟨hstored, hpanics⟩ := Visit.along_of_stored hkey h hinner
  refine ⟨hstored, hpanics, ?_, ?_⟩
  · intro c hexpiration hnone hclock
    have hlasts : v.lasts = c.expiration := by
      rw [lasts, hnone, ← hexpiration]
      rfl
    exact hstored (hlasts ▸ c.later_within_clock hclock)
  · intro d handler request op w₀ ctx hresolve hrun
    constructor
    · intro hclock
      exact Dispatcher.dispatchWith_along_of_outcome hresolve (hrun.trans (hstored hclock))
    · intro hclock
      exact Dispatcher.dispatchWith_along_of_panic hresolve (hrun.trans (hpanics hclock))

/-- A price that lasts until the very last instant of the clock. -/
theorem Visit.price_stored_to_the_last :
    let price : Request := { Request.plain ⟨⟨0⟩, "shop::Price", .full, .int⟩ .null with
      cacheKey := some "7", cacheExpiration := some ⟨9223372036854775807999999999⟩ }
    let handler : Handler := fun _ _ => .done (.ok (.success (.int 42)))
    let d : Dispatcher := ⟨⟨fun _ => some handler, fun _ => []⟩,
      [caching .memory standardExpiration], .development⟩
    (d.dispatchWith price default).along .empty [] = ⟨.returned (.ok (.success (.int 42))),
      { World.empty with store := ⟨[("shop::Price::7", ⟨.int 42, ⟨9223372036854775807999999999⟩⟩)]⟩ },
      [], []⟩ := by
  intro price handler d
  let v : Visit := ⟨standardExpiration, Dispatcher.context price default,
    Chain.run [] (Dispatcher.context price default) handler⟩
  have hinner : v.inner.along (v.entered "shop::Price::7" .empty) [] =
      ⟨.returned (.ok (.success (.int 42))), .empty, [], []⟩ := rfl
  obtain ⟨-, -, -, hdispatch⟩ := Visit.stored_within_clock (v := v) rfl rfl hinner
  have hrun : (d.chain.run v.ctx handler).along .empty [] = v.program.along .empty [] :=
    Dispatcher.run_caching rfl
  have hlast : World.empty.now.later v.lasts = ⟨9223372036854775807999999999⟩ := by decide
  have hstored := (hdispatch d handler price default .empty rfl hrun).1 (by decide)
  rw [hlast] at hstored
  exact hstored

/-- A price that would last for as many seconds as 64 bits can count: the handler has found it, and
the dispatch fails. -/
theorem Visit.overlong_price_lost :
    let price : Request := { Request.plain ⟨⟨0⟩, "shop::Price", .full, .int⟩ .null with
      cacheKey := some "7", cacheExpiration := some (.ofSecs Duration.maxCount) }
    let handler : Handler := fun _ _ => .done (.ok (.success (.int 42)))
    let d : Dispatcher := ⟨⟨fun _ => some handler, fun _ => []⟩,
      [caching .memory standardExpiration], .development⟩
    let ctx := Dispatcher.context price default
    let v : Visit := ⟨standardExpiration, ctx, Chain.run [] ctx handler⟩
    (v.inner.along .empty []).progress = .returned (.ok (.success (.int 42))) ∧
      (v.program.along .empty []).progress = .panicked overlong ∧
      ((d.dispatchWith price default).along .empty []).progress =
        .returned (.ok (.panicked "Price" overlong)) := by
  refine ⟨rfl, rfl, rfl⟩

end Mediator
