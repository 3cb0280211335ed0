import Mediator.Config
import Mediator.Proofs.Json.Grammar
import Mediator.Proofs.Json.Records

/-!
# The fields of a configuration

What values the settings take in a document, and which part of the configuration each field is read
into. No two fields have anything in common (`Toggle.separate`, `slots_separate`), also where the
reader keeps them in one record.
-/

namespace Mediator

open Json Json.Draft

-- ---------------------------------------------------------------------------
-- Values
-- ---------------------------------------------------------------------------

namespace Json

theorem Lexeme.numeral?_eq_int_iff {l : Lexeme} {n : Nat} : l.numeral? = some (.int n) ↔
    l.negative = false ∧ l.fraction = none ∧ l.exponent = none ∧ natOf l.whole = n ∧
      n ≤ maxWord := by
  have hfloat : l.float?.map Numeral.float ≠ some (.int n) := by cases l.float? <;> simp
  obtain ⟨negative, whole, fraction, exponent⟩ := l
  match fraction, exponent, negative with
  | some digits, _, _ => simp [numeral?, hfloat]
  | none, some e, _ => simp [numeral?, hfloat]
  | none, none, true =>
    simp only [numeral?, Option.isNone_none, Bool.and_self, if_true, Bool.true_eq_false,
      false_and, iff_false]
    split
    · next hn =>
      have hpositive : 0 < natOf whole := by simp_all
      simp only [Option.some.injEq, Numeral.int.injEq]
      omega
    · exact hfloat
  | none, none, false =>
    simp only [numeral?, Option.isNone_none, Bool.and_self, if_true, Bool.false_eq_true, if_false,
      true_and]
    split
    · next hmax =>
      simp only [Option.some.injEq, Numeral.int.injEq]
      omega
    · next hmax =>
      refine iff_of_false hfloat ?_
      rintro ⟨rfl, hn⟩
      exact hmax hn

end Json

namespace Config

def IsBool (d : Draft) (b : Bool) : Prop := d = .bool b

def IsWord (d : Draft) (n : UInt64) : Prop := d = .number (some (.int n.toNat))

def IsThreshold (d : Draft) : Option UInt64 → Prop
  | none => d = .null
  | some n => IsWord d n

def IsStrategy (d : Draft) (s : Strategy) : Prop :=
  d = .string (some s.name) ∨ d = .object [(some s.name, .null)] none

theorem readBool_eq_ok_iff {d : Draft} {b : Bool} : readBool d = .ok b ↔ IsBool d b := by
  cases d <;> simp [readBool, IsBool]

theorem readVariant_eq_ok_iff {name : String} {s : Strategy} :
    readVariant strategyVariants name = .ok s ↔ name = s.name := by
  constructor
  · intro h
    unfold readVariant at h
    split at h
    · next heq =>
      cases h
      have hmem := List.mem_of_find?_eq_some heq
      have hname := List.find?_some heq
      obtain ⟨s', -, hs'⟩ := List.mem_map.mp hmem
      cases hs'
      exact (beq_iff_eq.mp hname).symm
    · cases h
  · rintro rfl
    cases s <;> rfl

theorem readUnit_eq_ok_iff {d : Draft} : readUnit d = .ok () ↔ d = .null := by
  cases d <;> simp [readUnit]

theorem readStrategy_eq_ok_iff {d : Draft} {s : Strategy} :
    readStrategy d = .ok s ↔ IsStrategy d s := by
  unfold readStrategy readEnum IsStrategy
  split
  · simp [readVariant_eq_ok_iff]
  · next name content more cut =>
    have hvariant : readVariant strategyVariants name = .ok s ↔ name = s.name :=
      readVariant_eq_ok_iff
    have hunit : content.readUnit = .ok () ↔ content = .null := readUnit_eq_ok_iff
    generalize readVariant strategyVariants name = v at hvariant ⊢
    generalize content.readUnit = u at hunit ⊢
    cases v with
    | error e => simp_all [bind, Except.bind]
    | ok a =>
      cases u with
      | error e => simp_all [bind, Except.bind]
      | ok u =>
        have hif : (if (more.isEmpty && cut.isNone) = true then pure a else throw .malformed :
          Except ReadError Strategy) = .ok s ↔ a = s ∧ more = [] ∧ cut = none := by
          split <;> simp_all [pure, Except.pure]
        simp_all [bind, Except.bind, and_assoc]
  · simp
  · next hstring hobject _ =>
    refine iff_of_false nofun ?_
    rintro (rfl | rfl)
    · exact hstring _ rfl
    · exact hobject _ _ _ _ rfl

theorem isWord_number_iff {l : Lexeme} {n : UInt64} : IsWord (.number l.numeral?) n ↔
    l.negative = false ∧ l.fraction = none ∧ l.exponent = none ∧
      Lexeme.natOf l.whole = n.toNat := by
  have hmax : n.toNat ≤ Lexeme.maxWord := Nat.le_of_lt_succ n.toNat_lt
  simp only [IsWord, Draft.number.injEq, Lexeme.numeral?_eq_int_iff, hmax, and_true]

theorem readWord_of_isWord {d : Draft} {n : UInt64} (h : IsWord d n) : readWord d = .ok n := by
  subst h
  simp [readWord]

theorem isWord_of_readWord {cs : List Char} {d : Draft} {n : UInt64} (hd : Spells cs d)
    (h : readWord d = .ok n) : IsWord d n := by
  unfold readWord at h
  split at h
  · next i =>
    split at h
    · next hi =>
      obtain ⟨k, rfl⟩ := Int.eq_ofNat_of_zero_le hi
      cases h
      -- A number that has been written is an integer only if it fits into a word.
      generalize hx : some (Numeral.int k) = x at hd
      cases hd with
      | number _ =>
        obtain ⟨-, -, -, -, hmax⟩ := Lexeme.numeral?_eq_int_iff.mp hx.symm
        have hword : (UInt64.ofNat k).toNat = k := UInt64.toNat_ofNat_of_lt (Nat.lt_succ_of_le hmax)
        rw [← hx]
        simp only [IsWord, Int.toNat_natCast, hword]
    · cases h
  · unfold refuse at h
    split at h <;> cases h

theorem readThreshold_of_isThreshold {d : Draft} {t : Option UInt64} (h : IsThreshold d t) :
    readOption readWord d = .ok t := by
  cases t with
  | none =>
    obtain rfl : d = .null := h
    rfl
  | some n =>
    have hword := readWord_of_isWord h
    obtain rfl : d = .number (some (.int n.toNat)) := h
    simp only [readOption, hword]
    rfl

theorem isThreshold_of_readThreshold {cs : List Char} {d : Draft} {t : Option UInt64}
    (hd : Spells cs d) (h : readOption readWord d = .ok t) : IsThreshold d t := by
  unfold readOption at h
  split at h
  · cases h
    rfl
  · cases hword : readWord d with
    | error e => simp [hword, Except.map] at h
    | ok n =>
      simp only [hword, Except.map, Except.ok.injEq] at h
      subst h
      exact isWord_of_readWord hd hword

-- ---------------------------------------------------------------------------
-- Fields
-- ---------------------------------------------------------------------------

inductive Toggle where
  | validation
  | audit
  | authorization
  | performance
  | caching
deriving DecidableEq

namespace Toggle

def all : List Toggle := [.validation, .audit, .authorization, .performance, .caching]

def name : Toggle → String
  | .validation => "validation"
  | .audit => "audit"
  | .authorization => "authorization"
  | .performance => "performance"
  | .caching => "caching"

def get : Toggle → Toggles → Bool
  | .validation, t => t.validation
  | .audit, t => t.audit
  | .authorization, t => t.authorization
  | .performance, t => t.performance
  | .caching, t => t.caching

def set : Toggle → Bool → Toggles → Toggles
  | .validation, b, t => { t with validation := b }
  | .audit, b, t => { t with audit := b }
  | .authorization, b, t => { t with authorization := b }
  | .performance, b, t => { t with performance := b }
  | .caching, b, t => { t with caching := b }

theorem mem_all (k : Toggle) : k ∈ all := by cases k <;> decide

def part (k : Toggle) : Part Toggles Bool where
  get := k.get
  set := k.set
  get_set := by cases k <;> exact fun _ _ => rfl
  set_get := by cases k <;> exact fun _ => rfl
  set_set := by cases k <;> exact fun _ _ _ => rfl

def slot (k : Toggle) : Slot Toggles := ⟨Bool, k.part, ⟨k.name, fun d _ => readBool d⟩⟩

theorem separate : Slot.Separate (all.map slot) := by
  intro s hs s' hs' hne
  obtain ⟨k, -, rfl⟩ := List.mem_map.mp hs
  obtain ⟨k', -, rfl⟩ := List.mem_map.mp hs'
  cases k <;> cases k' <;> first | exact absurd rfl hne | exact fun _ _ _ => rfl

end Toggle

theorem map_eq_bind {ε α β : Type} (x : Except ε α) (f : α → β) :
    x.map f = do return f (← x) := by cases x <;> rfl

theorem toggleFields_eq : toggleFields = (Toggle.all.map Toggle.slot).map Slot.toField := by
  simp only [Toggle.all, List.map_cons, List.map_nil, Toggle.slot, Slot.toField, Field.within,
    map_eq_bind]
  rfl

def strategyPart : Part Config Strategy where
  get c := c.strategy
  set s c := { c with strategy := s }
  get_set _ _ := rfl
  set_get _ := rfl
  set_set _ _ _ := rfl

def togglesPart : Part Config Toggles where
  get c := c.toggles
  set t c := { c with toggles := t }
  get_set _ _ := rfl
  set_get _ := rfl
  set_set _ _ _ := rfl

def expirationPart : Part Config UInt64 where
  get c := c.expirationMillis
  set n c := { c with expirationMillis := n }
  get_set _ _ := rfl
  set_get _ := rfl
  set_set _ _ _ := rfl

def thresholdPart : Part Config (Option UInt64) where
  get c := c.thresholdMillis
  set t c := { c with thresholdMillis := t }
  get_set _ _ := rfl
  set_get _ := rfl
  set_set _ _ _ := rfl

def sole {τ : Type} (name : String) (read : Draft → Except ReadError τ) : List (Json.Field τ) :=
  [⟨name, fun d _ => read d⟩]

def expirationFields : List (Json.Field UInt64) := sole "default_expiration_ms" readWord

def thresholdFields : List (Json.Field (Option UInt64)) :=
  sole "slow_threshold_ms" (readOption readWord)

def strategySlot : Slot Config :=
  ⟨Strategy, strategyPart, ⟨"default_strategy", fun d _ => readStrategy d⟩⟩

/-- A section is read as a record of its own. -/
def sectionSlot {τ : Type} (part : Part Config τ) (key name : String) (fs : List (Json.Field τ)) :
    Slot Config :=
  ⟨τ, part, ⟨key, fun d v => readRecord name fs v d⟩⟩

def togglesSlot : Slot Config :=
  sectionSlot togglesPart "intercepts" "InterceptToggles" toggleFields

def expirationSlot : Slot Config :=
  sectionSlot expirationPart "cache" "CacheConfig" expirationFields

def thresholdSlot : Slot Config :=
  sectionSlot thresholdPart "performance" "PerformanceConfig" thresholdFields

def slots : List (Slot Config) := [strategySlot, togglesSlot, expirationSlot, thresholdSlot]

theorem slots_separate : Slot.Separate slots := by
  intro s hs s' hs' hne
  simp only [slots, List.mem_cons, List.not_mem_nil, or_false] at hs hs'
  rcases hs with rfl | rfl | rfl | rfl <;> rcases hs' with rfl | rfl | rfl | rfl <;>
    first | exact absurd rfl hne | exact fun _ _ _ => rfl

theorem fields_eq : fields = slots.map Slot.toField := by
  have hexpiration : cacheFields = expirationFields.map (·.within expirationPart) := by
    simp only [expirationFields, sole, List.map_cons, List.map_nil, Field.within, map_eq_bind]
    rfl
  have hthreshold : performanceFields = thresholdFields.map (·.within thresholdPart) := by
    simp only [thresholdFields, sole, List.map_cons, List.map_nil, Field.within, map_eq_bind]
    rfl
  simp only [fields, hexpiration, hthreshold, readRecord_within]
  simp only [slots, List.map_cons, List.map_nil, strategySlot, togglesSlot, expirationSlot,
    thresholdSlot, sectionSlot, Slot.toField, Field.within, map_eq_bind]
  rfl

theorem mem_fields_iff {field : Json.Field Config} : field ∈ fields ↔
    field = strategySlot.toField ∨ field = togglesSlot.toField ∨
      field = expirationSlot.toField ∨ field = thresholdSlot.toField := by
  simp [fields_eq, slots]

theorem find?_fields {s : Slot Config} (hs : s ∈ slots) :
    fields.find? (·.name == s.field.name) = some s.toField := by
  rw [fields_eq]
  simp only [slots, List.mem_cons, List.not_mem_nil, or_false] at hs
  rcases hs with rfl | rfl | rfl | rfl <;> rfl

end Config

end Mediator
