import Mediator.Duration
import Mediator.Json.Record
import Mediator.Strategy

/-!
# Configuration

The settings of a pipeline, and the JSON document that holds them. Every setting has a default, so
the empty document is a configuration. Durations are kept in whole milliseconds, rounded up, so that
none becomes zero unless it was.
-/

namespace Mediator

structure Toggles where
  validation : Bool
  audit : Bool
  authorization : Bool
  performance : Bool
  caching : Bool
deriving DecidableEq, Repr

namespace Toggles

def allOn : Toggles := ⟨true, true, true, true, true⟩

instance : Inhabited Toggles := ⟨allOn⟩

end Toggles

inductive ConfigError where
  | zeroExpiration
  | zeroThreshold
deriving DecidableEq, Repr

def ConfigError.text : ConfigError → String
  | .zeroExpiration => "cache.default_expiration_ms must be greater than zero"
  | .zeroThreshold => "performance.slow_threshold_ms must be greater than zero"

structure Config where
  /-- The strategy of notifications for which neither the caller nor their type picks one. -/
  strategy : Strategy
  toggles : Toggles
  /-- How long a cached response lasts unless its request says otherwise, in milliseconds. -/
  expirationMillis : UInt64
  /-- Requests slower than this are reported, in milliseconds. -/
  thresholdMillis : Option UInt64
deriving DecidableEq, Repr

namespace Config

def default : Config := ⟨.sequential, .allOn, 300000, none⟩

instance : Inhabited Config := ⟨default⟩

def withStrategy (c : Config) (s : Strategy) : Config := { c with strategy := s }

def withToggles (c : Config) (t : Toggles) : Config := { c with toggles := t }

def withExpiration (c : Config) (d : Duration) : Config :=
  { c with expirationMillis := d.millisUp }

def withThreshold (c : Config) (d : Duration) : Config :=
  { c with thresholdMillis := some d.millisUp }

def expiration (c : Config) : Duration := .ofMillis c.expirationMillis.toNat

def threshold? (c : Config) : Option Duration := c.thresholdMillis.map fun n => .ofMillis n.toNat

/-- What the form of the document cannot rule out: entries that are never served, and a threshold
that every request exceeds. -/
def validate (c : Config) : Except ConfigError Unit :=
  if c.expirationMillis == 0 then .error .zeroExpiration
  else if c.thresholdMillis == some 0 then .error .zeroThreshold
  else .ok ()

/-! ## The document -/

def toJson (c : Config) : Json :=
  .object [
    ("default_strategy", .string c.strategy.name),
    ("intercepts", .object [
      ("validation", .bool c.toggles.validation),
      ("audit", .bool c.toggles.audit),
      ("authorization", .bool c.toggles.authorization),
      ("performance", .bool c.toggles.performance),
      ("caching", .bool c.toggles.caching)]),
    ("cache", .object [("default_expiration_ms", .int c.expirationMillis.toNat)]),
    ("performance", .object [
      ("slow_threshold_ms", match c.thresholdMillis with
        | some n => .int n.toNat
        | none => .null)])]

def render (c : Config) : String := c.toJson.render

open Json Json.Draft

def strategyVariants : List (String × Strategy) := Strategy.all.map fun s => (s.name, s)

def readStrategy : Draft → Except ReadError Strategy := readEnum strategyVariants

def toggleFields : List (Json.Field Toggles) := [
  ⟨"validation", fun d t => do return { t with validation := ← readBool d }⟩,
  ⟨"audit", fun d t => do return { t with audit := ← readBool d }⟩,
  ⟨"authorization", fun d t => do return { t with authorization := ← readBool d }⟩,
  ⟨"performance", fun d t => do return { t with performance := ← readBool d }⟩,
  ⟨"caching", fun d t => do return { t with caching := ← readBool d }⟩]

def cacheFields : List (Json.Field Config) := [
  ⟨"default_expiration_ms", fun d c => do return { c with expirationMillis := ← readWord d }⟩]

def performanceFields : List (Json.Field Config) := [
  ⟨"slow_threshold_ms", fun d c => do return { c with thresholdMillis := ← readOption readWord d }⟩]

def fields : List (Json.Field Config) := [
  ⟨"default_strategy", fun d c => do return { c with strategy := ← readStrategy d }⟩,
  ⟨"intercepts", fun d c => do
    return { c with toggles := ← readRecord "InterceptToggles" toggleFields c.toggles d }⟩,
  ⟨"cache", fun d c => readRecord "CacheConfig" cacheFields c d⟩,
  ⟨"performance", fun d c => readRecord "PerformanceConfig" performanceFields c d⟩]

def ofDraft (d : Draft) : Except ReadError Config :=
  readRecord "PipelineConfig" fields default d

def read (text : String) : Except ReadError Config := readText ofDraft text

end Config

def Strategy.read (text : String) : Except Json.ReadError Strategy :=
  Json.readText Config.readStrategy text

end Mediator
