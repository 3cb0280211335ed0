import Mathlib.Algebra.Order.Floor.Div
import Mathlib.Data.List.Induction
import Mediator.Standard

/-!
# Configured durations

A configuration keeps durations in whole milliseconds. None of the words on the way to them overflows
(`Duration.toNat_wideNanos`, `Duration.toNat_divUp`), so they are rounded up exactly, up to where 64
bits end (`Duration.toNat_millisUp`), and only no time at all becomes zero. Of all that was said of a
duration while a configuration was put together, the last counts: it decides whether the
configuration is valid, and is what the nodes of the standard chain are given
(`Config.durations_kept`).
-/

namespace Mediator

-- ---------------------------------------------------------------------------
-- Milliseconds
-- ---------------------------------------------------------------------------

namespace Duration

variable {d e : Duration}

theorem perMilli_pos : 0 < perMilli := by decide

/-- What is read back of a duration that is kept in milliseconds. -/
def kept (d : Duration) : Duration := .ofMillis d.millisUp.toNat

theorem toNat_seconds (h : d.nanos < limit) :
    (BitVec.ofNat 128 d.secs * BitVec.ofNat 128 perSecond).toNat = d.secs * perSecond := by
  have hsecs : d.secs * perSecond ≤ d.nanos := Nat.div_mul_le_self d.nanos perSecond
  simp only [limit, perSecond, Nat.pow_eq] at h hsecs ⊢
  rw [BitVec.toNat_mul, BitVec.toNat_ofNat, BitVec.toNat_ofNat,
    Nat.mod_eq_of_lt (a := d.secs) (by omega), Nat.mod_eq_of_lt (by omega),
    Nat.mod_eq_of_lt (by omega)]

theorem toNat_wideNanos (h : d.nanos < limit) : d.wideNanos.toNat = d.nanos := by
  have hsplit : d.secs * perSecond + d.subsecNanos = d.nanos := Nat.div_add_mod' d.nanos perSecond
  rw [wideNanos, BitVec.toNat_add, toNat_seconds h, BitVec.toNat_ofNat]
  simp only [limit, perSecond, Nat.pow_eq] at h hsplit ⊢
  omega

theorem toNat_divUp (n k : BitVec 128) (hk : 0 < k.toNat) :
    (divUp n k).toNat = n.toNat ⌈/⌉ k.toNat := by
  have hdivide := Nat.div_add_mod n.toNat k.toNat
  have hmod := Nat.mod_lt n.toNat hk
  have hzero : n % k = 0 ↔ n.toNat % k.toNat = 0 := by
    rw [← BitVec.toNat_inj, BitVec.toNat_umod]
    rfl
  rw [Nat.ceilDiv_eq_add_pred_div, divUp]
  split
  · next h =>
    have hexact := hzero.mp h
    rw [BitVec.toNat_udiv]
    refine (Nat.div_eq_of_lt_le ?_ ?_).symm
    · rw [Nat.mul_comm]
      omega
    · rw [Nat.succ_mul, Nat.mul_comm]
      omega
  · next h =>
    have hrest := mt hzero.mpr h
    -- The quotient is at most the dividend less the rest, so there is room for one more.
    have hle : n.toNat / k.toNat ≤ k.toNat * (n.toNat / k.toNat) := Nat.le_mul_of_pos_left _ hk
    have hn := n.isLt
    have hone : (1 : BitVec 128).toNat = 1 := rfl
    rw [BitVec.toNat_add, BitVec.toNat_udiv, hone, Nat.mod_eq_of_lt (by omega)]
    refine (Nat.div_eq_of_lt_le ?_ ?_).symm
    · rw [Nat.succ_mul, Nat.mul_comm]
      omega
    · rw [Nat.succ_mul, Nat.succ_mul, Nat.mul_comm]
      omega

theorem toNat_wideMillis (h : d.nanos < limit) :
    (divUp d.wideNanos (BitVec.ofNat 128 perMilli)).toNat = d.nanos ⌈/⌉ perMilli := by
  have hmilli : (BitVec.ofNat 128 perMilli).toNat = perMilli := by decide
  rw [toNat_divUp _ _ (hmilli ▸ perMilli_pos), toNat_wideNanos h, hmilli]

theorem toNat_millisUp (h : d.nanos < limit) :
    d.millisUp.toNat = min (d.nanos ⌈/⌉ perMilli) maxCount := by
  have hword {n : Nat} (hn : n ≤ maxCount) : (UInt64.ofNat n).toNat = n :=
    UInt64.toNat_ofNat_of_lt (Nat.lt_succ_of_le hn)
  simp only [millisUp, toNat_wideMillis h]
  split
  · next hle => rw [hword hle, Nat.min_eq_left hle]
  · next hlt => rw [hword (Nat.le_refl _), Nat.min_eq_right (Nat.le_of_not_le hlt)]

theorem millisUp_mono (hd : d.nanos < limit) (he : e.nanos < limit) (h : d.nanos ≤ e.nanos) :
    d.millisUp ≤ e.millisUp := by
  rw [UInt64.le_iff_toNat_le, toNat_millisUp hd, toNat_millisUp he]
  exact min_le_min_right _ ((gc_mul_ceilDiv perMilli_pos).monotone_l h)

theorem millisUp_eq_zero_iff (h : d.nanos < limit) : d.millisUp = 0 ↔ d = ⟨0⟩ := by
  have hceil : d.nanos ⌈/⌉ perMilli = 0 ↔ d.nanos = 0 := by
    rw [← Nat.le_zero, ceilDiv_le_iff_le_mul perMilli_pos, Nat.mul_zero, Nat.le_zero]
  have hmax : maxCount ≠ 0 := by decide
  have hmin : min (d.nanos ⌈/⌉ perMilli) maxCount = 0 ↔ d.nanos ⌈/⌉ perMilli = 0 := by omega
  obtain ⟨n⟩ := d
  rw [← UInt64.toNat_inj, toNat_millisUp h, UInt64.toNat_zero, hmin, hceil, mk.injEq]

/-- Unless 64 bits end before, the duration has grown by less than a millisecond. -/
theorem kept_bounds (h : d.nanos ≤ maxCount * perMilli) :
    d.nanos ≤ d.kept.nanos ∧ d.kept.nanos < d.nanos + perMilli := by
  have hlimit : d.nanos < limit := Nat.lt_of_le_of_lt h (by decide)
  have hle : d.nanos ⌈/⌉ perMilli ≤ maxCount :=
    (ceilDiv_le_iff_le_mul perMilli_pos).mpr (Nat.mul_comm _ _ ▸ h)
  have hkept : d.kept.nanos = d.nanos ⌈/⌉ perMilli * perMilli := by
    rw [kept, ofMillis, toNat_millisUp hlimit, Nat.min_eq_left hle]
  have hfloor := Nat.div_mul_le_self (d.nanos + perMilli - 1) perMilli
  rw [← Nat.ceilDiv_eq_add_pred_div] at hfloor
  have hpos := perMilli_pos
  constructor
  · rw [hkept, Nat.mul_comm]
    exact le_smul_ceilDiv perMilli_pos
  · omega

theorem ofMillis_lt_limit (n : UInt64) : (ofMillis n.toNat).nanos < limit := by
  have hn := n.toNat_lt
  simp only [ofMillis, perMilli, limit, perSecond, Nat.pow_eq]
  omega

theorem millisUp_ofMillis (n : UInt64) : (ofMillis n.toNat).millisUp = n := by
  have hn : n.toNat ≤ maxCount := Nat.le_sub_one_of_lt n.toNat_lt
  have hceil : (ofMillis n.toNat).nanos ⌈/⌉ perMilli = n.toNat := by
    rw [ofMillis, Nat.mul_comm, ← smul_eq_mul, smul_ceilDiv perMilli_pos]
  rw [← UInt64.toNat_inj, toNat_millisUp (ofMillis_lt_limit n), hceil, Nat.min_eq_left hn]

end Duration

-- ---------------------------------------------------------------------------
-- Configurations that are put together
-- ---------------------------------------------------------------------------

namespace Config

inductive Setting where
  | strategy (s : Strategy)
  | expiration (d : Duration)
  | threshold (d : Duration)
  | toggles (t : Toggles)

namespace Setting

def expiration? : Setting → Option Duration
  | .expiration d => some d
  | _ => none

def threshold? : Setting → Option Duration
  | .threshold d => some d
  | _ => none

def duration? (s : Setting) : Option Duration := s.expiration?.or s.threshold?

end Setting

def set (c : Config) : Setting → Config
  | .strategy s => c.withStrategy s
  | .expiration d => c.withExpiration d
  | .threshold d => c.withThreshold d
  | .toggles t => c.withToggles t

def configured (settings : List Setting) : Config := settings.foldl set default

theorem expirationMillis_set (c : Config) (s : Setting) :
    (c.set s).expirationMillis = (s.expiration?.map Duration.millisUp).getD c.expirationMillis := by
  cases s with
  | expiration d => rw [Setting.expiration?, Option.map_some, Option.getD_some, set, withExpiration]
  | _ => rfl

theorem thresholdMillis_set (c : Config) (s : Setting) :
    (c.set s).thresholdMillis = (s.threshold?.map Duration.millisUp).or c.thresholdMillis := by
  cases s <;> rfl

theorem configured_snoc (settings : List Setting) (s : Setting) :
    configured (settings ++ [s]) = (configured settings).set s := by
  simp only [configured, List.foldl_append, List.foldl_cons, List.foldl_nil]

theorem findSomeRev?_snoc {α : Type} (said : Setting → Option α) (settings : List Setting)
    (s : Setting) :
    (settings ++ [s]).findSomeRev? said = (said s).or (settings.findSomeRev? said) := by
  rw [List.findSomeRev?_eq_findSome?_reverse, List.findSomeRev?_eq_findSome?_reverse,
    List.reverse_append, List.reverse_singleton, List.singleton_append, List.findSome?_cons]
  cases said s <;> rfl

variable (settings : List Setting)

theorem expirationMillis_configured : (configured settings).expirationMillis =
    ((settings.findSomeRev? Setting.expiration?).map Duration.millisUp).getD 300000 := by
  induction settings using List.reverseRecOn with
  | nil => rfl
  | append_singleton settings s ih =>
    rw [configured_snoc, expirationMillis_set, ih, findSomeRev?_snoc]
    cases s.expiration? <;> rfl

theorem thresholdMillis_configured : (configured settings).thresholdMillis =
    (settings.findSomeRev? Setting.threshold?).map Duration.millisUp := by
  induction settings using List.reverseRecOn with
  | nil => rfl
  | append_singleton settings s ih =>
    rw [configured_snoc, thresholdMillis_set, ih, findSomeRev?_snoc]
    cases s.threshold? <;> rfl

theorem withExpiration_expiration (c : Config) : c.withExpiration c.expiration = c := by
  rw [withExpiration, expiration, Duration.millisUp_ofMillis]

theorem withThreshold_threshold? {c : Config} {t : Duration} (h : c.threshold? = some t) :
    c.withThreshold t = c := by
  obtain ⟨n, hn, rfl⟩ := Option.map_eq_some_iff.mp h
  rw [withThreshold, Duration.millisUp_ofMillis, ← hn]

def InRange (settings : List Setting) : Prop :=
  ∀ s ∈ settings, ∀ d ∈ s.duration?, d.nanos < Duration.limit

variable {settings}

theorem InRange.last {said : Setting → Option Duration} (h : InRange settings)
    (hsaid : ∀ s, ∀ d ∈ said s, d ∈ s.duration?) {d : Duration}
    (hlast : settings.findSomeRev? said = some d) : d.nanos < Duration.limit := by
  rw [List.findSomeRev?_eq_findSome?_reverse] at hlast
  obtain ⟨s, hs, hd⟩ := List.exists_of_findSome?_eq_some hlast
  exact h s (List.mem_reverse.mp hs) d (hsaid s d hd)

theorem InRange.lastExpiration (h : InRange settings) {d : Duration}
    (hlast : settings.findSomeRev? Setting.expiration? = some d) : d.nanos < Duration.limit := by
  refine h.last (fun s d hd => ?_) hlast
  cases s <;> simp_all [Setting.duration?, Setting.expiration?]

theorem InRange.lastThreshold (h : InRange settings) {d : Duration}
    (hlast : settings.findSomeRev? Setting.threshold? = some d) : d.nanos < Duration.limit := by
  refine h.last (fun s d hd => ?_) hlast
  cases s <;> simp_all [Setting.duration?, Setting.expiration?, Setting.threshold?]

theorem expirationMillis_eq_zero_iff (h : InRange settings) :
    (configured settings).expirationMillis = 0 ↔
      settings.findSomeRev? Setting.expiration? = some ⟨0⟩ := by
  rw [expirationMillis_configured]
  cases hlast : settings.findSomeRev? Setting.expiration? with
  | none => decide
  | some d =>
    have hd := h.lastExpiration hlast
    rw [Option.map_some, Option.getD_some, Duration.millisUp_eq_zero_iff hd, Option.some.injEq]

theorem thresholdMillis_eq_zero_iff (h : InRange settings) :
    (configured settings).thresholdMillis = some 0 ↔
      settings.findSomeRev? Setting.threshold? = some ⟨0⟩ := by
  rw [thresholdMillis_configured]
  cases hlast : settings.findSomeRev? Setting.threshold? with
  | none => decide
  | some d =>
    have hd := h.lastThreshold hlast
    rw [Option.map_some, Option.some.injEq, Duration.millisUp_eq_zero_iff hd, Option.some.injEq]

theorem validate_configured (h : InRange settings) : (configured settings).validate =
    if settings.findSomeRev? Setting.expiration? = some ⟨0⟩ then .error .zeroExpiration
    else if settings.findSomeRev? Setting.threshold? = some ⟨0⟩ then .error .zeroThreshold
    else .ok () := by
  simp only [validate, beq_iff_eq, expirationMillis_eq_zero_iff h, thresholdMillis_eq_zero_iff h]

theorem expiration_configured (settings : List Setting) : (configured settings).expiration =
    ((settings.findSomeRev? Setting.expiration?).map Duration.kept).getD (.ofSecs 300) := by
  rw [expiration, expirationMillis_configured]
  cases settings.findSomeRev? Setting.expiration? with
  | none => decide
  | some d =>
    rw [Option.map_some, Option.map_some, Option.getD_some, Option.getD_some, Duration.kept]

theorem threshold?_configured (settings : List Setting) : (configured settings).threshold? =
    (settings.findSomeRev? Setting.threshold?).map Duration.kept := by
  rw [threshold?, thresholdMillis_configured, Option.map_map]
  rfl

open Intercept in
theorem standardChain_configured (parts : Parts) (first : Nat)
    (h : (configured settings).validate = .ok ()) :
    standardChain (configured settings) parts first = .ok [
      conditional first (validation parts.validator),
      conditional (first + 1) (audit parts.audit),
      conditional (first + 2) (authorization parts.evaluator),
      conditional (first + 3) (performance parts.telemetry
        ((settings.findSomeRev? Setting.threshold?).map Duration.kept)),
      conditional (first + 4) (caching parts.cache
        (((settings.findSomeRev? Setting.expiration?).map Duration.kept).getD (.ofSecs 300)))] := by
  rw [← expiration_configured, ← threshold?_configured, standardChain, h]
  rfl

-- ---------------------------------------------------------------------------
-- All together
-- ---------------------------------------------------------------------------

open Intercept in
/-- The milliseconds of a duration are those it takes, the last of them begun, or else the most that
64 bits can count; the words on the way to them are exact. They grow with the duration and are none
only if it is none, and what is read back is longer by less than a millisecond unless 64 bits are
too few. What is read back is kept as it is. A configuration is not valid just if the last expiration
that was set is none, or else the last threshold; if it is valid, the nodes of the standard chain
are given what was set last. -/
theorem durations_kept {d e : Duration} (hd : d.nanos < Duration.limit)
    (he : e.nanos < Duration.limit) (n : UInt64) (c : Config) (h : InRange settings) (parts : Parts)
    (first : Nat) :
    ((BitVec.ofNat 128 d.secs * BitVec.ofNat 128 Duration.perSecond).toNat =
        d.secs * Duration.perSecond ∧
      d.wideNanos.toNat = d.nanos ∧
      (Duration.divUp d.wideNanos (BitVec.ofNat 128 Duration.perMilli)).toNat =
        d.nanos ⌈/⌉ Duration.perMilli) ∧
    d.millisUp.toNat = min (d.nanos ⌈/⌉ Duration.perMilli) Duration.maxCount ∧
    (d.nanos ≤ e.nanos → d.millisUp ≤ e.millisUp) ∧
    (d.millisUp = 0 ↔ d = ⟨0⟩) ∧
    ((c.withExpiration d).expiration = d.kept ∧ (c.withThreshold d).threshold? = some d.kept) ∧
    (d.nanos ≤ Duration.maxCount * Duration.perMilli →
      d.nanos ≤ d.kept.nanos ∧ d.kept.nanos < d.nanos + Duration.perMilli) ∧
    ((Duration.ofMillis n.toNat).millisUp = n ∧ c.withExpiration c.expiration = c ∧
      ∀ t, c.threshold? = some t → c.withThreshold t = c) ∧
    let expiration := settings.findSomeRev? Setting.expiration?
    let threshold := settings.findSomeRev? Setting.threshold?
    let made := configured settings
    made.validate = (if expiration = some ⟨0⟩ then .error .zeroExpiration
      else if threshold = some ⟨0⟩ then .error .zeroThreshold else .ok ()) ∧
    (made.validate = .ok () → standardChain made parts first = .ok [
      conditional first (validation parts.validator),
      conditional (first + 1) (audit parts.audit),
      conditional (first + 2) (authorization parts.evaluator),
      conditional (first + 3) (performance parts.telemetry (threshold.map Duration.kept)),
      conditional (first + 4) (caching parts.cache
        ((expiration.map Duration.kept).getD (.ofSecs 300)))]) := by
  refine ⟨⟨Duration.toNat_seconds hd, Duration.toNat_wideNanos hd, Duration.toNat_wideMillis hd⟩,
    Duration.toNat_millisUp hd, Duration.millisUp_mono hd he, Duration.millisUp_eq_zero_iff hd,
    ⟨rfl, rfl⟩, Duration.kept_bounds, ⟨Duration.millisUp_ofMillis n, withExpiration_expiration c,
      fun _ => withThreshold_threshold?⟩, validate_configured h,
    standardChain_configured parts first⟩

/-- Half a millisecond is kept as a whole one, and no time at all that was set before is
forgotten. -/
theorem durations_kept_set_anew :
    let half : Duration := ⟨500000⟩
    let settings : List Setting := [.expiration ⟨0⟩, .threshold ⟨1500000⟩, .expiration half]
    let parts : Parts := ⟨⟨fun _ => .done .completed⟩, .recording, .requireAuthenticated,
      .recording, .memory⟩
    (half.millisUp = 0 ↔ half = ⟨0⟩) ∧ half.kept.nanos < half.nanos + Duration.perMilli ∧
    (configured settings).validate = .ok () ∧
    standardChain (configured settings) parts 0 = .ok [
      Intercept.conditional 0 (.validation parts.validator),
      Intercept.conditional 1 (.audit parts.audit),
      Intercept.conditional 2 (.authorization parts.evaluator),
      Intercept.conditional 3 (.performance parts.telemetry (some (.ofMillis 2))),
      Intercept.conditional 4 (.caching parts.cache (.ofMillis 1))] := by
  intro half settings parts
  have hrange : InRange settings := by
    unfold InRange
    decide
  obtain ⟨-, -, -, hzero, -, hbounds, -, hvalidate, hchain⟩ :=
    durations_kept (d := half) (e := half) (by decide) (by decide) 0 default hrange parts 0
  have hvalid : (configured settings).validate = .ok () := hvalidate.trans (by decide)
  refine ⟨hzero, (hbounds (by decide)).2, hvalid, (hchain hvalid).trans ?_⟩
  have hthreshold : (settings.findSomeRev? Setting.threshold?).map Duration.kept =
      some (.ofMillis 2) := by
    decide
  have hexpiration : (settings.findSomeRev? Setting.expiration?).map Duration.kept =
      some (.ofMillis 1) := by
    decide
  rw [hthreshold, hexpiration]
  rfl

end Config

end Mediator
