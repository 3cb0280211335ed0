/-!
# Durations and instants

Both are counted in nanoseconds. A duration is at most 2⁶⁴ seconds less one nanosecond, and an
instant, read off a monotonic clock that started at zero, has less than 2⁶³ seconds.
-/

namespace Mediator

structure Duration where
  nanos : Nat
deriving DecidableEq, Repr, Inhabited

namespace Duration

def perSecond : Nat := 1000000000

def perMilli : Nat := 1000000

def ofParts (secs nanos : Nat) : Duration := ⟨secs * perSecond + nanos⟩

def ofSecs (n : Nat) : Duration := ⟨n * perSecond⟩

def ofMillis (n : Nat) : Duration := ⟨n * perMilli⟩

/-- Durations are shorter than this many nanoseconds. -/
def limit : Nat := Nat.pow 2 64 * perSecond

def secs (d : Duration) : Nat := d.nanos / perSecond

def subsecNanos (d : Duration) : Nat := d.nanos % perSecond

def maxCount : Nat := Nat.pow 2 64 - 1

def millisDown (d : Duration) : Nat := min (d.nanos / perMilli) maxCount

def wideNanos (d : Duration) : BitVec 128 :=
  BitVec.ofNat 128 d.secs * BitVec.ofNat 128 perSecond + BitVec.ofNat 128 d.subsecNanos

def divUp (n k : BitVec 128) : BitVec 128 := if n % k = 0 then n / k else n / k + 1

/-- The least number of milliseconds that last at least as long, as far as 64 bits can count
them. -/
def millisUp (d : Duration) : UInt64 :=
  let millis := (divUp d.wideNanos (BitVec.ofNat 128 perMilli)).toNat
  if millis ≤ maxCount then .ofNat millis else .ofNat maxCount

end Duration

structure Instant where
  nanos : Nat
deriving DecidableEq, Repr, Inhabited

namespace Instant

def start : Instant := ⟨0⟩

/-- The readings of the clock end before this many nanoseconds. -/
def limit : Nat := Nat.pow 2 63 * Duration.perSecond

/-- The instant that is later by `d`, if the clock can show it. -/
def add? (t : Instant) (d : Duration) : Option Instant :=
  if t.nanos + d.nanos < limit then some ⟨t.nanos + d.nanos⟩ else none

def later (t : Instant) (d : Duration) : Instant := ⟨t.nanos + d.nanos⟩

def nextMilli (t : Instant) : Instant :=
  ⟨(t.nanos / Duration.perMilli + 1) * Duration.perMilli⟩

/-- How long something took that began at `t`. The clock stands still while a program runs, yet no
run takes no time at all: a nanosecond more has passed than the clock shows. -/
def elapsed (t now : Instant) : Duration := ⟨now.nanos - t.nanos + 1⟩

def before (t u : Instant) : Bool := t.nanos < u.nanos

theorem add?_of_isSome {t : Instant} {d : Duration} (h : (t.add? d).isSome = true) :
    t.add? d = some (t.later d) := by
  unfold add? at h ⊢
  split
  · rfl
  · next hlimit => simp [hlimit] at h

theorem add?_eq_some {t : Instant} {d : Duration} (h : t.nanos + d.nanos < limit) :
    t.add? d = some (t.later d) := by
  simp [add?, later, h]

theorem add?_eq_none {t : Instant} {d : Duration} (h : limit ≤ t.nanos + d.nanos) :
    t.add? d = none := by
  simp [add?, Nat.not_lt.mpr h]

theorem before_of_not_before {t u v : Instant} (htu : u.before t = false)
    (huv : u.before v = true) : t.before v = true := by
  simp [before] at *
  omega

theorem not_before_trans {t u v : Instant} (htu : u.before t = false)
    (huv : v.before u = false) : v.before t = false := by
  simp [before] at *
  omega

end Instant

end Mediator
