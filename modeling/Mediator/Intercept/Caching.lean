import Mediator.Chain

/-!
# Response caching

A response is stored under the name of the request's type and the request's own key. A stored
response of the right type is the answer to the next request with the same key.
-/

namespace Mediator

structure ResponseCache where
  get : String → Action (Option Value)
  set : String → Value → Duration → Action Unit

namespace ResponseCache

/-- The store of the world, by its clock. A response that would last longer than the clock can show
is a panic, and is not stored. -/
def memory : ResponseCache where
  get key := .get fun w =>
    let (found, store) := w.store.lookup w.now key
    .set { w with store } (.done found)
  set key value d := .get fun w =>
    match w.store.keep? w.now key value d with
    | some store => .set { w with store } (.done ())
    | none => .panic (.fixed "overflow when adding duration to instant")

end ResponseCache

namespace Intercept

/-- The key of a request in the store. -/
def storeKey (type : RequestType) (key : String) : String := type.name ++ "::" ++ key

def standardExpiration : Duration := .ofSecs 300

/-- Run the rest of the chain, and store the response if it succeeds. The event does not tell for
how long. -/
def runAndStore (cache : ResponseCache) (expiration : Duration) (ctx : RequestContext)
    (key : String) (next : Action Reply) : Action Reply := do
  let reply ← next
  match reply with
  | .ok (.success value) => do
    cache.set key value (ctx.request.cacheExpiration.getD expiration)
    ctx.emit (.debug "response cached" [("key", key)])
  | _ => pure ()
  return reply

def caching (cache : ResponseCache) (expiration : Duration) : Intercept where
  name := "caching"
  appliesTo _ caps := caps.cacheable
  intercept ctx next :=
    match ctx.request.cacheKey with
    | none => next
    | some ownKey => do
      let key := storeKey ctx.request.type ownKey
      match ← cache.get key with
      | some value =>
        if value.type == ctx.request.type.response then do
          ctx.emit (.debug "cache hit" [("key", key)])
          return .ok (.success value)
        else do
          ctx.emit (.warn "cached entry has an unexpected type; ignoring it" [("key", key)])
          runAndStore cache expiration ctx key next
      | none => runAndStore cache expiration ctx key next

end Intercept

end Mediator
