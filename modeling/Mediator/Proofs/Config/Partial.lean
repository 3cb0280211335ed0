import Mediator.Proofs.Config.Fields
import Mediator.Proofs.Json.Written

/-!
# Documents that give a configuration in part

A document is an object with some of the known keys, and with whatever else. It is read if every
known key is given at most once and has a value of its type; then each setting has the value that it
is given, or else its default. The order of the members and the unknown ones among them do not
matter (`partial_documents`).
-/

namespace Mediator.Config

open Json Json.Draft

-- ---------------------------------------------------------------------------
-- Documents
-- ---------------------------------------------------------------------------

def InObject (P : Members → Prop) (d : Draft) : Prop := ∃ ms, d = .object ms none ∧ P ms

/-- A section may also be an array of its fields, and then nothing is said of it. -/
def IfObject (P : Members → Prop) (d : Draft) : Prop := ∀ ms, d = .object ms none → P ms

def toggleTypes : List (String × (Draft → Prop)) :=
  Toggle.all.map fun k => (k.name, fun d => ∃ b, IsBool d b)

def expirationTypes : List (String × (Draft → Prop)) :=
  [("default_expiration_ms", fun d => ∃ n, IsWord d n)]

def thresholdTypes : List (String × (Draft → Prop)) :=
  [("slow_threshold_ms", fun d => ∃ t, IsThreshold d t)]

def sections : List (String × List (String × (Draft → Prop))) :=
  [("intercepts", toggleTypes), ("cache", expirationTypes), ("performance", thresholdTypes)]

def types (holds : (Members → Prop) → Draft → Prop) : List (String × (Draft → Prop)) :=
  ("default_strategy", fun d => ∃ s, IsStrategy d s) ::
    sections.map fun s => (s.1, holds (Fits s.2))

def known : List String := "default_strategy" :: sections.map Prod.fst

/-- Each setting has the value that the document gives it, or else its default. -/
structure Overrides (ms : Members) (c : Config) : Prop where
  strategy : Given ms "default_strategy" IsStrategy default.strategy c.strategy
  toggles : Given ms "intercepts" (fun d t => InObject (fun sub => ∀ k : Toggle,
    Given sub k.name IsBool (k.get default.toggles) (k.get t)) d) default.toggles c.toggles
  expiration : Given ms "cache" (fun d n => InObject (fun sub =>
    Given sub "default_expiration_ms" IsWord default.expirationMillis n) d)
    default.expirationMillis c.expirationMillis
  threshold : Given ms "performance" (fun d t => InObject (fun sub =>
    Given sub "slow_threshold_ms" IsThreshold default.thresholdMillis t) d)
    default.thresholdMillis c.thresholdMillis

/-- The members are the same, or they are one section with the same fields. -/
inductive Same : Option String × Draft → Option String × Draft → Prop
  | refl (m : Option String × Draft) : Same m m
  | inside {s : String × List (String × (Draft → Prop))} {sub sub' : Members} (hs : s ∈ sections)
    (h : (essential (s.2.map Prod.fst) sub).Perm (essential (s.2.map Prod.fst) sub')) :
    Same (some s.1, .object sub none) (some s.1, .object sub' none)

/-- The members are the same but for their order and for unknown ones, in the object and in its
sections. -/
def Rearranged (ms ms' : Members) : Prop :=
  ∃ l, (essential known ms).Perm l ∧ List.Forall₂ Same l (essential known ms')

theorem read_eq_ok_iff {text : String} {ms : Members} {c : Config}
    (htext : IsText text (.object ms none)) :
    read text = .ok c ↔ Filled fields ms default c := by
  rw [read, htext.readText_eq, ofDraft, readRecord_object_eq_ok_iff]
  simp

theorem names_fields : names fields = known := rfl

theorem toggleFields_commuting : Commuting toggleFields :=
  toggleFields_eq ▸ Toggle.separate.commuting

theorem fields_commuting : Commuting fields := fields_eq ▸ slots_separate.commuting

-- ---------------------------------------------------------------------------
-- Sections
-- ---------------------------------------------------------------------------

def Spelled (ms : Members) : Prop := ∀ m ∈ ms, ∃ cs, Spells cs m.2

variable {ms ms' : Members} {c : Config}

theorem Spelled.isWhole (h : Spelled ms) : ∀ m ∈ ms, m.2.isWhole = true := by
  intro m hm
  obtain ⟨cs, hcs⟩ := h m hm
  exact hcs.isWhole

theorem Spelled.inside {key : Option String} {sub : Members} {cut : Option Draft}
    (h : Spelled ms) (hmem : (key, .object sub cut) ∈ ms) : Spelled sub := by
  obtain ⟨cs, hcs⟩ := h _ hmem
  exact hcs.members_spelled.2

section
variable {τ : Type} {name : String} {read : Draft → Except ReadError τ} {v v' : τ}

theorem sole_commuting (name : String) (read : Draft → Except ReadError τ) :
    Commuting (sole name read) := by
  intro f hf g hg hne
  rw [List.mem_singleton.mp hf, List.mem_singleton.mp hg] at hne
  exact absurd rfl hne

theorem exists_sole {P : Draft → Prop} (h : Fits [(name, P)] ms) (hspelled : Spelled ms)
    (hread : ∀ d, P d → ∃ v, read d = .ok v) (v : τ) : ∃ v', Filled (sole name read) ms v v' := by
  refine h.exists_filled hspelled.isWhole (fun field hfield => ?_) v
  obtain rfl := List.mem_singleton.mp hfield
  exact ⟨_, List.mem_singleton_self _, rfl, fun d _ hd _ => hread d hd⟩

theorem fits_sole {P : Draft → Prop} (h : Filled (sole name read) ms v v')
    (hread : ∀ d v, (some name, d) ∈ ms → read d = .ok v → P d) : Fits [(name, P)] ms := by
  refine h.fits fun t ht => ?_
  obtain rfl := List.mem_singleton.mp ht
  refine ⟨⟨name, fun d _ => read d⟩, by simp [sole], ?_⟩
  exact fun d _ v hd hv => hread d v hd hv

theorem given_sole {Means : Draft → τ → Prop} (h : Filled (sole name read) ms v v')
    (hread : ∀ d v, (some name, d) ∈ ms → read d = .ok v → Means d v) :
    Given ms name Means v v' := by
  have howns : Owns (sole name read) name (id : τ → τ) := by
    intro f hf hne
    obtain rfl := List.mem_singleton.mp hf
    exact absurd rfl hne
  have hfield : (sole name read).find? (·.name == name) = some ⟨name, fun d _ => read d⟩ := by
    simp [sole]
  exact h.given howns hfield fun d _ v hd hv _ => hread d v hd hv

end

section
variable {t t' : Toggles}

theorem exists_toggles (h : Fits toggleTypes ms) (hspelled : Spelled ms) (t : Toggles) :
    ∃ t', Filled toggleFields ms t t' := by
  refine h.exists_filled hspelled.isWhole (fun field hfield => ?_) t
  simp only [toggleFields_eq, List.map_map, List.mem_map] at hfield
  obtain ⟨k, hk, rfl⟩ := hfield
  refine ⟨_, List.mem_map_of_mem hk, rfl, ?_⟩
  rintro d - ⟨b, hb⟩ t
  exact ⟨_, Field.within_read_eq_ok_iff.mpr ⟨b, readBool_eq_ok_iff.mpr hb, rfl⟩⟩

theorem find?_toggleFields (k : Toggle) :
    toggleFields.find? (·.name == k.name) = some k.slot.toField := by
  rw [toggleFields_eq]
  cases k <;> rfl

theorem isBool_of_read {k : Toggle} {d : Draft} (h : k.slot.toField.read d t = .ok t') :
    IsBool d (k.get t') := by
  obtain ⟨b, hb, rfl⟩ := Field.within_read_eq_ok_iff.mp h
  have hget : k.get (k.set b t) = b := k.part.get_set b t
  exact readBool_eq_ok_iff.mp (hb.trans (congrArg _ hget.symm))

theorem fits_toggles (h : Filled toggleFields ms t t') : Fits toggleTypes ms := by
  refine h.fits fun type htype => ?_
  obtain ⟨k, -, rfl⟩ := List.mem_map.mp htype
  exact ⟨k.slot.toField, find?_toggleFields k, fun d _ _ _ hread => ⟨_, isBool_of_read hread⟩⟩

theorem given_toggle (h : Filled toggleFields ms t t') (k : Toggle) :
    Given ms k.name IsBool (k.get t) (k.get t') := by
  have howns : Owns toggleFields k.name k.get := by
    rw [toggleFields_eq]
    exact Toggle.separate.owns (List.mem_map_of_mem k.mem_all)
  exact h.given howns (find?_toggleFields k) fun _ _ _ _ hread _ => isBool_of_read hread

end

-- ---------------------------------------------------------------------------
-- Sections within a document
-- ---------------------------------------------------------------------------

theorem given_slot {s : Slot Config} (hs : s ∈ slots) (h : Filled fields ms default c)
    {Means : Draft → s.type → Prop} (hmeans : ∀ d c₁ c₂, (some s.field.name, d) ∈ ms →
      s.toField.read d c₁ = .ok c₂ → s.part.get c₁ = s.part.get default →
      Means d (s.part.get c₂)) :
    Given ms s.field.name Means (s.part.get default) (s.part.get c) := by
  have howns : Owns fields s.field.name s.part.get := fields_eq ▸ slots_separate.owns hs
  exact h.given howns (find?_fields hs) hmeans

section
variable {τ : Type} {part : Part Config τ} {key name : String} {fs : List (Json.Field τ)}
  {ts : List (String × (Draft → Prop))}

theorem sectionSlot_read_iff {c' : Config} :
    (sectionSlot part key name fs).toField.read (.object ms none) c = .ok c' ↔
      ∃ v, Filled fs ms (part.get c) v ∧ c' = part.set v c := by
  refine Field.within_read_eq_ok_iff.trans ?_
  simp only [sectionSlot, readRecord_object_eq_ok_iff, true_and]

theorem exists_section (hspelled : Spelled ms)
    (hexists : ∀ sub, Fits ts sub → Spelled sub → ∀ v, ∃ v', Filled fs sub v v') :
    ∀ d, (some key, d) ∈ ms → InObject (Fits ts) d →
      ∀ c, ∃ c', (sectionSlot part key name fs).toField.read d c = .ok c' := by
  rintro d hd ⟨sub, rfl, hsub⟩ c
  obtain ⟨v, hv⟩ := hexists sub hsub (hspelled.inside hd) (part.get c)
  exact ⟨_, sectionSlot_read_iff.mpr ⟨v, hv, rfl⟩⟩

theorem fits_section (hs : sectionSlot part key name fs ∈ slots) (hspelled : Spelled ms)
    (hfits : ∀ sub v v', Spelled sub → Filled fs sub v v' → Fits ts sub) :
    ∃ field, fields.find? (·.name == key) = some field ∧
      ∀ d c c', (some key, d) ∈ ms → field.read d c = .ok c' → IfObject (Fits ts) d := by
  refine ⟨_, find?_fields hs, ?_⟩
  rintro d c c' hd hread sub rfl
  obtain ⟨v, hv, -⟩ := sectionSlot_read_iff.mp hread
  exact hfits sub _ v (hspelled.inside hd) hv

theorem given_section (hs : sectionSlot part key name fs ∈ slots) (hspelled : Spelled ms)
    (h : Filled fields ms default c) (hobject : ∀ d, (some key, d) ∈ ms → InObject (Fits ts) d)
    {Sets : Members → τ → Prop}
    (hsets : ∀ sub v, Spelled sub → Filled fs sub (part.get default) v → Sets sub v) :
    Given ms key (fun d v => InObject (fun sub => Sets sub v) d) (part.get default)
      (part.get c) := by
  refine given_slot hs h fun d c₁ c₂ hd hread hc₁ => ?_
  obtain ⟨sub, rfl, -⟩ := hobject d hd
  obtain ⟨v, hv, rfl⟩ := sectionSlot_read_iff.mp hread
  have hget : part.get c₁ = part.get default := hc₁
  rw [hget] at hv
  refine ⟨sub, rfl, ?_⟩
  show Sets sub (part.get (part.set v c₁))
  rw [part.get_set]
  exact hsets sub v (hspelled.inside hd) hv

theorem section_alike {sub sub' : Members} (hcommuting : Commuting fs) (hsub : Spelled sub)
    (hsub' : Spelled sub') (hperm : (essential (names fs) sub).Perm (essential (names fs) sub'))
    (c c' : Config) :
    (sectionSlot part key name fs).toField.read (.object sub none) c = .ok c' ↔
      (sectionSlot part key name fs).toField.read (.object sub' none) c = .ok c' := by
  simp only [sectionSlot_read_iff,
    Filled.iff_of_perm hcommuting hsub.isWhole hsub'.isWhole hperm]

end

theorem Spelled.isWord {d : Draft} {key : String} {n : UInt64} (h : Spelled ms)
    (hd : (some key, d) ∈ ms) (hread : readWord d = .ok n) : IsWord d n := by
  obtain ⟨cs, hcs⟩ := h _ hd
  exact isWord_of_readWord hcs hread

theorem Spelled.isThreshold {d : Draft} {key : String} {t : Option UInt64} (h : Spelled ms)
    (hd : (some key, d) ∈ ms) (hread : readOption readWord d = .ok t) : IsThreshold d t := by
  obtain ⟨cs, hcs⟩ := h _ hd
  exact isThreshold_of_readThreshold hcs hread

-- ---------------------------------------------------------------------------
-- Whole documents
-- ---------------------------------------------------------------------------

theorem exists_config (h : Fits (types InObject) ms) (hspelled : Spelled ms) (c : Config) :
    ∃ c', Filled fields ms c c' := by
  have hsections : ∀ s ∈ sections, (s.1, InObject (Fits s.2)) ∈ types InObject := fun s hs =>
    List.mem_cons_of_mem _ (List.mem_map_of_mem hs)
  simp only [sections, List.forall_mem_cons] at hsections
  obtain ⟨htoggles, hexpiration, hthreshold, -⟩ := hsections
  refine h.exists_filled hspelled.isWhole (fun field hfield => ?_) c
  rcases mem_fields_iff.mp hfield with rfl | rfl | rfl | rfl
  · refine ⟨_, List.mem_cons_self, rfl, ?_⟩
    rintro d - ⟨s, hs⟩ c
    exact ⟨_, Field.within_read_eq_ok_iff.mpr ⟨s, readStrategy_eq_ok_iff.mpr hs, rfl⟩⟩
  · exact ⟨_, htoggles, rfl, exists_section hspelled fun _ => exists_toggles⟩
  · refine ⟨_, hexpiration, rfl, exists_section hspelled fun sub hsub hspelled => ?_⟩
    refine exists_sole hsub hspelled ?_
    rintro d ⟨n, hn⟩
    exact ⟨n, readWord_of_isWord hn⟩
  · refine ⟨_, hthreshold, rfl, exists_section hspelled fun sub hsub hspelled => ?_⟩
    refine exists_sole hsub hspelled ?_
    rintro d ⟨t, ht⟩
    exact ⟨t, readThreshold_of_isThreshold ht⟩

theorem mem_slots : strategySlot ∈ slots ∧ togglesSlot ∈ slots ∧ expirationSlot ∈ slots ∧
    thresholdSlot ∈ slots := by
  simp [slots]

theorem overrides_of_filled (hfits : Fits (types InObject) ms) (hspelled : Spelled ms)
    (h : Filled fields ms default c) : c.Overrides ms := by
  have hsections : ∀ s ∈ sections, ∀ d, (some s.1, d) ∈ ms → InObject (Fits s.2) d := fun s hs =>
    hfits.typed (s.1, InObject (Fits s.2)) (List.mem_cons_of_mem _ (List.mem_map_of_mem hs))
  simp only [sections, List.forall_mem_cons] at hsections
  obtain ⟨htoggles, hexpiration, hthreshold, -⟩ := hsections
  obtain ⟨hstrategySlot, htogglesSlot, hexpirationSlot, hthresholdSlot⟩ := mem_slots
  refine ⟨given_slot hstrategySlot h fun d c₁ c₂ hd hread _ => ?_,
    given_section htogglesSlot hspelled h htoggles fun sub t _ ht => given_toggle ht,
    given_section hexpirationSlot hspelled h hexpiration fun sub n hsub hn => ?_,
    given_section hthresholdSlot hspelled h hthreshold fun sub t hsub ht => ?_⟩
  · obtain ⟨s, hs, rfl⟩ := Field.within_read_eq_ok_iff.mp hread
    exact readStrategy_eq_ok_iff.mp hs
  · exact given_sole hn fun d n => hsub.isWord
  · exact given_sole ht fun d t => hsub.isThreshold

theorem fits_of_filled (hspelled : Spelled ms) (h : Filled fields ms default c) :
    Fits (types IfObject) ms := by
  obtain ⟨hstrategySlot, htogglesSlot, hexpirationSlot, hthresholdSlot⟩ := mem_slots
  refine h.fits fun t ht => ?_
  simp only [types, sections, List.map_cons, List.map_nil, List.mem_cons, List.not_mem_nil,
    or_false] at ht
  rcases ht with rfl | rfl | rfl | rfl
  · refine ⟨_, find?_fields hstrategySlot, fun d c c' hd hread => ?_⟩
    obtain ⟨s, hs, -⟩ := Field.within_read_eq_ok_iff.mp hread
    exact ⟨s, readStrategy_eq_ok_iff.mp hs⟩
  · exact fits_section htogglesSlot hspelled fun _ _ _ _ => fits_toggles
  · refine fits_section hexpirationSlot hspelled fun sub n n' hsub hn => ?_
    exact fits_sole hn fun d n hd hread => ⟨n, hsub.isWord hd hread⟩
  · refine fits_section hthresholdSlot hspelled fun sub t t' hsub ht => ?_
    exact fits_sole ht fun d t hd hread => ⟨t, hsub.isThreshold hd hread⟩

theorem Same.readAlike {m m' : Option String × Draft} (h : Same m m')
    (hm : ∃ cs, Spells cs m.2) (hm' : ∃ cs, Spells cs m'.2) : ReadAlike fields m m' := by
  obtain ⟨cs, hcs⟩ := hm
  obtain ⟨cs', hcs'⟩ := hm'
  refine ⟨by cases h <;> rfl, hcs.isWhole.trans hcs'.isWhole.symm, fun field hfield hkey => ?_⟩
  cases h with
  | refl m => exact fun _ _ => .rfl
  | @inside s sub sub' hs hperm =>
    have hsub : Spelled sub := hcs.members_spelled.2
    have hsub' : Spelled sub' := hcs'.members_spelled.2
    simp only [sections, List.mem_cons, List.not_mem_nil, or_false] at hs
    -- The key tells which field reads the section.
    rcases hs with rfl | rfl | rfl <;>
      rcases mem_fields_iff.mp hfield with rfl | rfl | rfl | rfl <;>
      first
      | exact absurd (Option.some.inj hkey) (by decide)
      | exact section_alike toggleFields_commuting hsub hsub' hperm
      | exact section_alike (sole_commuting _ _) hsub hsub' hperm

theorem forall₂_readAlike (h : List.Forall₂ Same ms ms') (hms : Spelled ms) (hms' : Spelled ms') :
    List.Forall₂ (ReadAlike fields) ms ms' := by
  induction h with
  | nil => exact .nil
  | cons h _ ih =>
    obtain ⟨hm, hms⟩ := List.forall_mem_cons.mp hms
    obtain ⟨hm', hms'⟩ := List.forall_mem_cons.mp hms'
    exact .cons (h.readAlike hm hm') (ih hms hms')

theorem Spelled.essential (h : Spelled ms) (known : List String) :
    Spelled (Json.essential known ms) := fun m hm => h m (List.mem_of_mem_filter hm)

theorem filled_iff_of_rearranged (h : Rearranged ms ms') (hspelled : Spelled ms)
    (hspelled' : Spelled ms') : Filled fields ms default c ↔ Filled fields ms' default c := by
  obtain ⟨l, hperm, hsame⟩ := h
  rw [← filled_essential_iff hspelled.isWhole, ← filled_essential_iff hspelled'.isWhole,
    names_fields]
  have hl : Filled fields (essential known ms) default c ↔ Filled fields l default c :=
    ⟨.perm fields_commuting hperm, .perm fields_commuting hperm.symm⟩
  have hspelledl : Spelled l := fun m hm => hspelled.essential _ m (hperm.mem_iff.mpr hm)
  rw [hl, Filled.iff_of_forall₂ (forall₂_readAlike hsame hspelledl (hspelled'.essential _))]

/-- A document in which all known keys fit is read, and each setting has the value that it is given
there, or else its default. One in which some known key does not fit is refused, be it in a section.
Rearranging a document changes nothing. A number fits for a word just if it is written as an integer
without sign, fraction or exponent, and is small enough. -/
theorem partial_documents {text : String} {ms : Members} (htext : IsText text (.object ms none)) :
    (Fits (types InObject) ms → ∃ c, read text = .ok c ∧ c.Overrides ms) ∧
    (¬Fits (types IfObject) ms → ∃ e, read text = .error e) ∧
    (∀ text' ms', IsText text' (.object ms' none) → Rearranged ms ms' →
      ∀ c, read text = .ok c ↔ read text' = .ok c) ∧
    ∀ (l : Lexeme) (n : UInt64), IsWord (.number l.numeral?) n ↔
      l.negative = false ∧ l.fraction = none ∧ l.exponent = none ∧
        Lexeme.natOf l.whole = n.toNat := by
  have hspelled : ∀ {text : String} {ms : Members}, IsText text (.object ms none) → Spelled ms := by
    rintro text ms ⟨_, cs, _, -, -, -, hcs⟩
    exact hcs.members_spelled.2
  refine ⟨fun hfits => ?_, fun hfits => ?_, fun text' ms' htext' hms c => ?_,
    fun l n => isWord_number_iff⟩
  · obtain ⟨c, hc⟩ := exists_config hfits (hspelled htext) default
    exact ⟨c, (read_eq_ok_iff htext).mpr hc, overrides_of_filled hfits (hspelled htext) hc⟩
  · cases hread : read text with
    | error e => exact ⟨e, rfl⟩
    | ok c =>
      exact absurd (fits_of_filled (hspelled htext) ((read_eq_ok_iff htext).mp hread)) hfits
  · rw [read_eq_ok_iff htext, read_eq_ok_iff htext']
    exact filled_iff_of_rearranged hms (hspelled htext) (hspelled htext')

/-- A sparse document with a member from the future, and the same with the section twice. -/
theorem partial_documents_future :
    let cache := ("cache", Json.object [("default_expiration_ms", .int 1500)])
    let future := ("future", Json.array [.null])
    (∃ c, read (Json.object [future, cache]).render = .ok c ∧ c.expirationMillis = 1500 ∧
      c.toggles = default.toggles ∧ read (Json.object [cache]).render = .ok c) ∧
    ∃ e, read (Json.object [cache, cache]).render = .error e := by
  intro cache future
  have hcache : cache.2.Exact := exact_object_iff.mpr
    (List.forall_mem_singleton.mpr (.int (by decide) (by decide)))
  have hfuture : future.2.Exact := .array (List.forall_mem_singleton.mpr .null)
  have hsparse := isText_render (exact_object_iff.mpr
    (List.forall_mem_cons.mpr ⟨hfuture, List.forall_mem_singleton.mpr hcache⟩))
  have hsame := isText_render (exact_object_iff.mpr (List.forall_mem_singleton.mpr hcache))
  have htwice := isText_render (exact_object_iff.mpr
    (List.forall_mem_cons.mpr ⟨hcache, List.forall_mem_singleton.mpr hcache⟩))
  obtain ⟨hread, -, hrearranged, -⟩ := partial_documents hsparse
  obtain ⟨-, hrefused, -⟩ := partial_documents htwice
  have hfields : Fits expirationTypes [(some "default_expiration_ms", ofJson (.int 1500))] :=
    ⟨by simp, by decide, by simpa [expirationTypes] using ⟨1500, rfl⟩⟩
  have hfits : Fits (types InObject) (ofMembers [future, cache]) := by
    refine ⟨by simp [ofMembers], by decide, ?_⟩
    simp only [types, sections, List.map_cons, List.map_nil, List.forall_mem_cons]
    simpa [ofMembers, future, cache] using ⟨_, rfl, hfields⟩
  refine ⟨?_, hrefused ?_⟩
  · obtain ⟨c, hc, hoverrides⟩ := hread hfits
    refine ⟨c, hc, ?_, hoverrides.toggles.eq_default (by decide), ?_⟩
    · obtain ⟨d, hd, sub, rfl, hsub⟩ := hoverrides.expiration.exists_mem (by decide)
      have hsection : Draft.object sub none = ofJson cache.2 := by
        simpa [ofMembers, future, cache] using hd
      cases hsection
      obtain ⟨d, hd, hn⟩ := hsub.exists_mem (by decide)
      cases List.mem_singleton.mp hd
      have hword : IsWord (.number (some (.int 1500))) c.expirationMillis := hn
      simp only [IsWord, Draft.number.injEq, Option.some.injEq, Numeral.int.injEq] at hword
      exact UInt64.toNat_inj.mp (Int.ofNat_inj.mp hword).symm
    · refine (hrearranged _ _ hsame ⟨_, .refl _, ?_⟩ c).mp hc
      exact .cons (.refl _) .nil
  · intro h
    have hcount := h.once ("cache", IfObject (Fits expirationTypes)) (by simp [types, sections])
    simp [keysOf, ofMembers, cache] at hcount

end Mediator.Config
