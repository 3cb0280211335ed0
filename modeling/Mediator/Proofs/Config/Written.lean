import Mediator.Config
import Mediator.Proofs.Json.Written

/-!
# Configurations survive their documents

The document of a configuration has every field once, in the order in which the records declare
them, and each field reads what has been written of it. So reading the document gives the
configuration back, whatever the default is that reading begins with.
-/

namespace Mediator

open Json Json.Draft

namespace Json.Draft

variable {ρ : Type}

theorem readMembers_cons_known {fields : List (Field ρ)} {cut : Option Draft} {seen : List String}
    {field : Field ρ} {key : String} {d : Draft} {rest : List (Option String × Draft)} {r r' : ρ}
    (hfield : fields.find? (·.name == key) = some field) (hseen : key ∉ seen)
    (hread : field.read d r = .ok r') :
    readMembers fields cut seen ((some key, d) :: rest) r =
      readMembers fields cut (key :: seen) rest r' := by
  simp [readMembers, hfield, hseen, hread]

theorem readWord_ofJson (n : UInt64) : readWord (ofJson (.int n.toNat)) = .ok n := by
  have hn : (0 : Int) ≤ n.toNat := Int.natCast_nonneg _
  simp [Json.int, ofJson, readWord, hn]

end Json.Draft

namespace Config

-- ---------------------------------------------------------------------------
-- Fields
-- ---------------------------------------------------------------------------

theorem readStrategy_name (s : Strategy) : readStrategy (ofJson (.string s.name)) = .ok s := by
  cases s <;> rfl

theorem readToggles (t t₀ : Toggles) :
    readRecord "InterceptToggles" toggleFields t₀ (ofJson (.object [
      ("validation", .bool t.validation),
      ("audit", .bool t.audit),
      ("authorization", .bool t.authorization),
      ("performance", .bool t.performance),
      ("caching", .bool t.caching)])) = .ok t :=
  rfl

theorem readThreshold (threshold : Option UInt64) :
    readOption readWord (ofJson (match threshold with
      | some n => .int n.toNat
      | none => .null)) = .ok threshold := by
  cases threshold with
  | none => rfl
  | some n =>
    show (readWord (ofJson (.int n.toNat))).map some = _
    rw [readWord_ofJson]
    rfl

theorem readCache (c : Config) (n : UInt64) :
    readRecord "CacheConfig" cacheFields c (ofJson (.object [
      ("default_expiration_ms", .int n.toNat)])) = .ok { c with expirationMillis := n } := by
  simp [readRecord, ofJson, ofMembers, readMembers, cacheFields, readWord_ofJson]

theorem readPerformance (c : Config) (threshold : Option UInt64) :
    readRecord "PerformanceConfig" performanceFields c (ofJson (.object [
      ("slow_threshold_ms", match threshold with
        | some n => .int n.toNat
        | none => .null)])) = .ok { c with thresholdMillis := threshold } := by
  simp [readRecord, ofJson, ofMembers, readMembers, performanceFields, readThreshold]

theorem ofDraft_toJson (c : Config) : ofDraft (ofJson c.toJson) = .ok c := by
  rw [ofDraft, toJson, ofJson, readRecord]
  simp only [ofMembers]
  rw [readMembers_cons_known rfl (by decide) (by simp only [readStrategy_name]; rfl),
    readMembers_cons_known rfl (by decide) (by simp only [readToggles]; rfl),
    readMembers_cons_known rfl (by decide) (by exact readCache _ _),
    readMembers_cons_known rfl (by decide) (by exact readPerformance _ _)]
  rfl

-- ---------------------------------------------------------------------------
-- Documents
-- ---------------------------------------------------------------------------

theorem exact_word (n : UInt64) : (Json.int n.toNat).Exact := by
  have hn : n.toNat < Nat.pow 2 64 := n.toNat_lt
  exact .int (by omega) (by exact_mod_cast hn)

theorem exact_toJson (c : Config) : c.toJson.Exact := by
  simp only [toJson, exact_object_iff, List.forall_mem_cons]
  refine ⟨.string _, ⟨.bool _, .bool _, .bool _, .bool _, .bool _, nofun⟩,
    ⟨exact_word _, nofun⟩, ⟨?_, nofun⟩, nofun⟩
  split
  · exact exact_word _
  · exact .null

/-- A configuration is read again from the text that is written of it, and no other configuration
has the same text. -/
theorem render_faithful :
    (∀ c : Config, read c.render = .ok c) ∧ ∀ c c' : Config, c.render = c'.render → c = c' := by
  have hread (c : Config) : read c.render = .ok c :=
    (readText_render ofDraft (exact_toJson c)).trans (ofDraft_toJson c)
  refine ⟨hread, fun c c' h => ?_⟩
  have hsame : (.ok c : Except ReadError Config) = .ok c' := by
    rw [← hread c, h, hread c']
  exact Except.ok.inj hsame

/-- No threshold is not a threshold of zero, and the largest word is read again as well. -/
theorem no_threshold_survives :
    let absent : Config := ⟨.fireAndForget, .allOn, 18446744073709551615, none⟩
    let zero : Config := ⟨.fireAndForget, .allOn, 18446744073709551615, some 0⟩
    absent.render ≠ zero.render ∧
      read absent.render = .ok absent ∧ read zero.render = .ok zero := by
  intro absent zero
  have hne : absent ≠ zero := by decide
  obtain ⟨hread, hsame⟩ := render_faithful
  exact ⟨mt (hsame absent zero) hne, hread absent, hread zero⟩

end Config

end Mediator
