import Mathlib.Data.List.Forall2
import Mediator.Json.Record

/-!
# Records that are given in part

Reading a record walks over the members of an object; `Filled` is the walk that succeeds. Where the
fields of a record do not touch each other, the order of the members does not matter, and neither do
the members that are no fields (`Filled.iff_of_perm`). What becomes of a part of the record is
decided by the one field that it belongs to (`Filled.given`).
-/

namespace Mediator.Json

open Draft

variable {ρ τ : Type}

abbrev Members : Type := List (Option String × Draft)

def keysOf (ms : Members) : List (Option String) := ms.map Prod.fst

def essential (names : List String) (ms : Members) : Members :=
  ms.filter fun m => match m.1 with
    | some key => names.contains key
    | none => true

/-- The value that a key has among the members, or the default if the key does not occur. -/
inductive Given (ms : Members) (key : String) (Means : Draft → τ → Prop) (default : τ) : τ → Prop
  | given {d : Draft} {v : τ} (h : (some key, d) ∈ ms) (hd : Means d v) :
    Given ms key Means default v
  | absent (h : some key ∉ keysOf ms) : Given ms key Means default default

section
variable {ms : Members} {key : String} {Means : Draft → τ → Prop} {default v : τ}

theorem Given.eq_default (h : Given ms key Means default v) (hkey : some key ∉ keysOf ms) :
    v = default := by
  cases h with
  | given hd _ => exact absurd (List.mem_map_of_mem hd) hkey
  | absent _ => rfl

theorem Given.exists_mem (h : Given ms key Means default v) (hkey : some key ∈ keysOf ms) :
    ∃ d, (some key, d) ∈ ms ∧ Means d v := by
  cases h with
  | given hd hv => exact ⟨_, hd, hv⟩
  | absent habsent => exact absurd hkey habsent

end

-- ---------------------------------------------------------------------------
-- Fields
-- ---------------------------------------------------------------------------

def names (fields : List (Field ρ)) : List String := fields.map Field.name

section
variable {fields : List (Field ρ)} {field : Field ρ} {key : String}

theorem find?_eq_none_iff : fields.find? (·.name == key) = none ↔ key ∉ names fields := by
  simp [names]

theorem mem_of_find? (h : fields.find? (·.name == key) = some field) :
    field ∈ fields ∧ field.name = key :=
  ⟨List.mem_of_find?_eq_some h, by simpa using List.find?_some h⟩

end

/-- A field that is given after another one, with another name, can as well be given before it. -/
def Commuting (fields : List (Field ρ)) : Prop :=
  ∀ f ∈ fields, ∀ g ∈ fields, f.name ≠ g.name → ∀ d d' r r₁ r₂, f.read d r = .ok r₁ →
    g.read d' r₁ = .ok r₂ → ∃ r₁', g.read d' r = .ok r₁' ∧ f.read d r₁' = .ok r₂

-- ---------------------------------------------------------------------------
-- One member after the other
-- ---------------------------------------------------------------------------

inductive Filled (fields : List (Field ρ)) : Members → ρ → ρ → Prop
  | nil {r : ρ} : Filled fields [] r r
  | unknown {key : String} {d : Draft} {ms : Members} {r r' : ρ}
    (hkey : fields.find? (·.name == key) = none) (hd : d.isWhole = true)
    (hrest : Filled fields ms r r') : Filled fields ((some key, d) :: ms) r r'
  | known {field : Field ρ} {key : String} {d : Draft} {ms : Members} {r r₁ r' : ρ}
    (hkey : fields.find? (·.name == key) = some field) (honce : some key ∉ keysOf ms)
    (hread : field.read d r = .ok r₁) (hrest : Filled fields ms r₁ r') :
    Filled fields ((some key, d) :: ms) r r'

variable {fields : List (Field ρ)} {ms ms' : Members} {r r' : ρ}

theorem mem_keysOf {key : String} : some key ∈ keysOf ms ↔ ∃ d, (some key, d) ∈ ms := by
  simp [keysOf]

theorem keysOf_cons (m : Option String × Draft) (ms : Members) :
    keysOf (m :: ms) = m.1 :: keysOf ms := rfl

section
variable {field : Field ρ} {key : String} {d : Draft}

theorem filled_unknown_iff (hkey : fields.find? (·.name == key) = none) :
    Filled fields ((some key, d) :: ms) r r' ↔ d.isWhole = true ∧ Filled fields ms r r' := by
  constructor
  · intro h
    cases h with
    | unknown _ hd hrest => exact ⟨hd, hrest⟩
    | known hkey' => simp [hkey] at hkey'
  · rintro ⟨hd, hrest⟩
    exact .unknown hkey hd hrest

theorem filled_known_iff (hkey : fields.find? (·.name == key) = some field) :
    Filled fields ((some key, d) :: ms) r r' ↔
      some key ∉ keysOf ms ∧ ∃ r₁, field.read d r = .ok r₁ ∧ Filled fields ms r₁ r' := by
  constructor
  · intro h
    cases h with
    | unknown hkey' => simp [hkey] at hkey'
    | known hkey' honce hread hrest =>
      obtain rfl := Option.some.inj (hkey.symm.trans hkey')
      exact ⟨honce, _, hread, hrest⟩
  · rintro ⟨honce, r₁, hread, hrest⟩
    exact .known hkey honce hread hrest

theorem not_filled_unnamed : ¬Filled fields ((none, d) :: ms) r r' := nofun

end

theorem readMembers_eq_ok_iff {cut : Option Draft} {seen : List String} :
    readMembers fields cut seen ms r = .ok r' ↔
      cut = none ∧ (∀ key ∈ seen, key ∈ names fields → some key ∉ keysOf ms) ∧
        Filled fields ms r r' := by
  induction ms generalizing seen r with
  | nil =>
    cases cut with
    | some found => simp [readMembers]
    | none =>
      simp only [readMembers, Option.isNone_none, if_true, Except.ok.injEq, true_and]
      constructor
      · rintro rfl
        exact ⟨fun _ _ _ => by simp [keysOf], .nil⟩
      · rintro ⟨-, ⟨⟩⟩
        rfl
  | cons m ms ih =>
    obtain ⟨_ | key, d⟩ := m
    · simp [readMembers, not_filled_unnamed]
    simp only [keysOf_cons, List.mem_cons, not_or, Option.some.injEq]
    cases hkey : fields.find? (·.name == key) with
    | none =>
      have hne : ∀ k ∈ names fields, k ≠ key := fun k hk heq => find?_eq_none_iff.mp hkey (heq ▸ hk)
      rw [filled_unknown_iff hkey]
      simp only [readMembers, hkey]
      split
      · next hd =>
        rw [ih]
        grind
      · next hd => simp [hd]
    | some field =>
      obtain ⟨hmem, hname⟩ := mem_of_find? hkey
      have hknown : key ∈ names fields := hname ▸ List.mem_map_of_mem hmem
      rw [filled_known_iff hkey]
      simp only [readMembers, hkey, List.contains_iff_mem]
      split
      · next hseen => grind
      · next hseen =>
        cases hread : field.read d r with
        | error e => simp
        | ok r₁ =>
          simp only [ih]
          grind

theorem readRecord_object_eq_ok_iff {name : String} {cut : Option Draft} :
    readRecord name fields r (.object ms cut) = .ok r' ↔ cut = none ∧ Filled fields ms r r' := by
  rw [readRecord, readMembers_eq_ok_iff]
  simp

-- ---------------------------------------------------------------------------
-- What does not matter
-- ---------------------------------------------------------------------------

theorem Filled.perm (hcommuting : Commuting fields) (hperm : ms.Perm ms')
    (h : Filled fields ms r r') : Filled fields ms' r r' := by
  induction hperm generalizing r with
  | nil => exact h
  | cons m hperm ih =>
    have hkeys : ∀ key, some key ∉ keysOf _ → some key ∉ keysOf _ := fun key =>
      mt (hperm.map Prod.fst).mem_iff.mpr
    cases h with
    | unknown hkey hd hrest => exact .unknown hkey hd (ih hrest)
    | known hkey honce hread hrest => exact .known hkey (hkeys _ honce) hread (ih hrest)
  | swap m n ms =>
    cases h with
    | unknown hkey hd hrest =>
      cases hrest with
      | unknown hkey' hd' hrest => exact .unknown hkey' hd' (.unknown hkey hd hrest)
      | known hkey' honce hread hrest =>
        refine .known hkey' ?_ hread (.unknown hkey hd hrest)
        rw [keysOf_cons, List.mem_cons, not_or]
        refine ⟨fun heq => ?_, honce⟩
        cases heq
        simp [hkey] at hkey'
    | known hkey honce hread hrest =>
      rw [keysOf_cons, List.mem_cons, not_or] at honce
      cases hrest with
      | unknown hkey' hd' hrest => exact .unknown hkey' hd' (.known hkey honce.2 hread hrest)
      | known hkey' honce' hread' hrest =>
        obtain ⟨hf, hname⟩ := mem_of_find? hkey
        obtain ⟨hg, hname'⟩ := mem_of_find? hkey'
        have hne : _ ≠ _ := fun heq => honce.1 (congrArg some (hname.symm.trans (heq.trans hname')))
        obtain ⟨r₁', hread₁, hread₂⟩ := hcommuting _ hf _ hg hne _ _ _ _ _ hread hread'
        refine .known hkey' ?_ hread₁ (.known hkey honce.2 hread₂ hrest)
        rw [keysOf_cons, List.mem_cons, not_or]
        exact ⟨Ne.symm honce.1, honce'⟩
  | trans _ _ ih ih' => exact ih' (ih h)

theorem mem_keysOf_essential {known : List String} {key : String} (h : key ∈ known) :
    some key ∈ keysOf (essential known ms) ↔ some key ∈ keysOf ms := by
  simp [mem_keysOf, essential, h]

/-- Members that are no fields come and go. -/
theorem filled_essential_iff (hwhole : ∀ m ∈ ms, m.2.isWhole = true) :
    Filled fields (essential (names fields) ms) r r' ↔ Filled fields ms r r' := by
  induction ms generalizing r with
  | nil => rfl
  | cons m ms ih =>
    obtain ⟨hd, hrest⟩ := List.forall_mem_cons.mp hwhole
    obtain ⟨_ | key, d⟩ := m
    · exact iff_of_false not_filled_unnamed not_filled_unnamed
    cases hkey : fields.find? (·.name == key) with
    | none =>
      have hkey' : key ∉ names fields := find?_eq_none_iff.mp hkey
      have hess : essential (names fields) ((some key, d) :: ms) = essential (names fields) ms := by
        simp [essential, hkey']
      rw [hess, ih hrest, filled_unknown_iff hkey]
      simp [hd]
    | some field =>
      obtain ⟨hmem, hname⟩ := mem_of_find? hkey
      have hkey' : key ∈ names fields := hname ▸ List.mem_map_of_mem hmem
      have hess : essential (names fields) ((some key, d) :: ms) =
          (some key, d) :: essential (names fields) ms := by
        simp [essential, hkey']
      rw [hess, filled_known_iff hkey, filled_known_iff hkey, mem_keysOf_essential hkey']
      simp only [ih hrest]

theorem Filled.iff_of_perm (hcommuting : Commuting fields) (hwhole : ∀ m ∈ ms, m.2.isWhole = true)
    (hwhole' : ∀ m ∈ ms', m.2.isWhole = true)
    (hperm : (essential (names fields) ms).Perm (essential (names fields) ms')) :
    Filled fields ms r r' ↔ Filled fields ms' r r' := by
  rw [← filled_essential_iff hwhole, ← filled_essential_iff hwhole']
  exact ⟨.perm hcommuting hperm, .perm hcommuting hperm.symm⟩

/-- Both members have one key, and its field reads them alike. -/
structure ReadAlike (fields : List (Field ρ)) (m m' : Option String × Draft) : Prop where
  key_eq : m.1 = m'.1
  whole : m.2.isWhole = m'.2.isWhole
  read : ∀ field ∈ fields, m.1 = some field.name →
    ∀ r r', field.read m.2 r = .ok r' ↔ field.read m'.2 r = .ok r'

theorem keysOf_eq_of_forall₂ (h : List.Forall₂ (ReadAlike fields) ms ms') :
    keysOf ms = keysOf ms' := by
  induction h with
  | nil => rfl
  | cons hm _ ih => rw [keysOf_cons, keysOf_cons, hm.key_eq, ih]

theorem Filled.iff_of_forall₂ (h : List.Forall₂ (ReadAlike fields) ms ms') :
    Filled fields ms r r' ↔ Filled fields ms' r r' := by
  induction h generalizing r with
  | nil => rfl
  | @cons m m' ms ms' hm hms ih =>
    obtain ⟨_ | key, d⟩ := m
    all_goals
      obtain ⟨key', d'⟩ := m'
      obtain rfl := hm.key_eq
    · exact iff_of_false not_filled_unnamed not_filled_unnamed
    have hkeys := keysOf_eq_of_forall₂ hms
    cases hkey : fields.find? (·.name == key) with
    | none =>
      have hd : d.isWhole = d'.isWhole := hm.whole
      rw [filled_unknown_iff hkey, filled_unknown_iff hkey, ih, hd]
    | some field =>
      obtain ⟨hmem, rfl⟩ := mem_of_find? hkey
      rw [filled_known_iff hkey, filled_known_iff hkey, hkeys]
      simp only [hm.read field hmem rfl, ih]

-- ---------------------------------------------------------------------------
-- Which members fill a record
-- ---------------------------------------------------------------------------

theorem Filled.named (h : Filled fields ms r r') : ∀ m ∈ ms, m.1 ≠ none := by
  induction h with
  | nil => exact nofun
  | unknown _ _ _ ih => exact List.forall_mem_cons.mpr ⟨nofun, ih⟩
  | known _ _ _ _ ih => exact List.forall_mem_cons.mpr ⟨nofun, ih⟩

theorem Filled.once (h : Filled fields ms r r') {key : String} (hkey : key ∈ names fields) :
    (keysOf ms).count (some key) ≤ 1 := by
  induction h with
  | nil => exact Nat.zero_le _
  | @unknown k d ms r r' hk hd hrest ih =>
    have hne : k ≠ key := fun heq => find?_eq_none_iff.mp hk (heq ▸ hkey)
    rw [keysOf_cons, List.count_cons]
    simpa [hne] using ih
  | @known field k d ms r r₁ r' hk honce hread hrest ih =>
    rw [keysOf_cons, List.count_cons]
    by_cases heq : k = key
    · subst heq
      simp [List.count_eq_zero.mpr honce]
    · simpa [heq] using ih

theorem exists_filled (hnamed : ∀ m ∈ ms, m.1 ≠ none) (hwhole : ∀ m ∈ ms, m.2.isWhole = true)
    (honce : ∀ key ∈ names fields, (keysOf ms).count (some key) ≤ 1)
    (hread : ∀ field ∈ fields, ∀ d, (some field.name, d) ∈ ms → ∀ r, ∃ r', field.read d r = .ok r')
    (r : ρ) : ∃ r', Filled fields ms r r' := by
  induction ms generalizing r with
  | nil => exact ⟨r, .nil⟩
  | cons m ms ih =>
    obtain ⟨hname, hnamed⟩ := List.forall_mem_cons.mp hnamed
    obtain ⟨hd, hwhole⟩ := List.forall_mem_cons.mp hwhole
    have hrest := ih hnamed hwhole
      (fun key hkey => Nat.le_trans List.count_le_count_cons (honce key hkey))
      fun field hfield d hd => hread field hfield d (List.mem_cons_of_mem _ hd)
    match m with
    | (none, d) => exact absurd rfl hname
    | (some key, d) =>
    cases hkey : fields.find? (·.name == key) with
    | none =>
      obtain ⟨r', h⟩ := hrest r
      exact ⟨r', .unknown hkey hd h⟩
    | some field =>
      obtain ⟨hmem, rfl⟩ := mem_of_find? hkey
      obtain ⟨r₁, hr₁⟩ := hread field hmem d List.mem_cons_self r
      obtain ⟨r', h⟩ := hrest r₁
      refine ⟨r', .known hkey ?_ hr₁ h⟩
      have hcount := honce field.name (List.mem_map_of_mem hmem)
      rw [keysOf_cons, List.count_cons_self] at hcount
      exact List.count_eq_zero.mp (by omega)

-- ---------------------------------------------------------------------------
-- One part of the record
-- ---------------------------------------------------------------------------

section
variable {π : ρ → τ} {key : String} {field : Field ρ}

/-- No other field has anything to do with this part of the record. -/
def Owns (fields : List (Field ρ)) (key : String) (π : ρ → τ) : Prop :=
  ∀ f ∈ fields, f.name ≠ key → ∀ d r r', f.read d r = .ok r' → π r' = π r

theorem Filled.of_not_mem (howns : Owns fields key π) (h : Filled fields ms r r')
    (hkey : some key ∉ keysOf ms) : π r' = π r := by
  induction h with
  | nil => rfl
  | unknown _ _ _ ih => exact ih fun hmem => hkey (List.mem_cons_of_mem _ hmem)
  | known hk _ hread _ ih =>
    rw [keysOf_cons, List.mem_cons, not_or] at hkey
    obtain ⟨hmem, rfl⟩ := mem_of_find? hk
    have hne : _ ≠ key := fun heq => hkey.1 (congrArg some heq.symm)
    exact (ih hkey.2).trans (howns _ hmem hne _ _ _ hread)

theorem Filled.of_mem (howns : Owns fields key π) (h : Filled fields ms r r')
    (hfield : fields.find? (·.name == key) = some field) {d : Draft} (hd : (some key, d) ∈ ms) :
    ∃ r₁ r₂, field.read d r₁ = .ok r₂ ∧ π r₁ = π r ∧ π r' = π r₂ := by
  induction h with
  | nil => cases hd
  | unknown hk _ _ ih =>
    obtain heq | hrest := List.mem_cons.mp hd
    · cases heq
      simp [hk] at hfield
    · exact ih hrest
  | @known f k d' ms r r₁ r' hk honce hread h ih =>
    obtain heq | hrest := List.mem_cons.mp hd
    · cases heq
      obtain rfl := Option.some.inj (hk.symm.trans hfield)
      exact ⟨r, r₁, hread, rfl, h.of_not_mem howns honce⟩
    · obtain ⟨hmem, rfl⟩ := mem_of_find? hk
      have hne : f.name ≠ key := fun heq => honce (heq ▸ mem_keysOf.mpr ⟨d, hrest⟩)
      obtain ⟨r₂, r₃, hread', hr₂, hr₃⟩ := ih hrest
      exact ⟨r₂, r₃, hread', hr₂.trans (howns _ hmem hne _ _ _ hread), hr₃⟩

theorem Filled.given {Means : Draft → τ → Prop} (howns : Owns fields key π)
    (h : Filled fields ms r r') (hfield : fields.find? (·.name == key) = some field)
    (hmeans : ∀ d r₁ r₂, (some key, d) ∈ ms → field.read d r₁ = .ok r₂ → π r₁ = π r →
      Means d (π r₂)) : Given ms key Means (π r) (π r') := by
  by_cases hkey : some key ∈ keysOf ms
  · obtain ⟨d, hd⟩ := mem_keysOf.mp hkey
    obtain ⟨r₁, r₂, hread, hr₁, hr₂⟩ := h.of_mem howns hfield hd
    rw [hr₂]
    exact .given hd (hmeans d r₁ r₂ hd hread hr₁)
  · rw [h.of_not_mem howns hkey]
    exact .absent hkey

end

-- ---------------------------------------------------------------------------
-- Types of members
-- ---------------------------------------------------------------------------

/-- Every one of these keys occurs at most once, and only with values of its type. All keys are
texts. -/
structure Fits (types : List (String × (Draft → Prop))) (ms : Members) : Prop where
  named : ∀ m ∈ ms, m.1 ≠ none
  once : ∀ t ∈ types, (keysOf ms).count (some t.1) ≤ 1
  typed : ∀ t ∈ types, ∀ d, (some t.1, d) ∈ ms → t.2 d

section
variable {types : List (String × (Draft → Prop))}

theorem Fits.exists_filled (h : Fits types ms) (hwhole : ∀ m ∈ ms, m.2.isWhole = true)
    (hfields : ∀ field ∈ fields, ∃ t ∈ types, t.1 = field.name ∧
      ∀ d, (some field.name, d) ∈ ms → t.2 d → ∀ r, ∃ r', field.read d r = .ok r') (r : ρ) :
    ∃ r', Filled fields ms r r' := by
  refine Json.exists_filled h.named hwhole (fun key hkey => ?_) (fun field hfield d hd => ?_) r
  · obtain ⟨field, hfield, rfl⟩ := List.mem_map.mp hkey
    obtain ⟨t, ht, htname, -⟩ := hfields field hfield
    exact htname ▸ h.once t ht
  · obtain ⟨t, ht, htname, hread⟩ := hfields field hfield
    exact hread d hd (h.typed t ht d (htname ▸ hd))

theorem Filled.fits (h : Filled fields ms r r')
    (htypes : ∀ t ∈ types, ∃ field, fields.find? (·.name == t.1) = some field ∧
      ∀ d r r', (some t.1, d) ∈ ms → field.read d r = .ok r' → t.2 d) : Fits types ms := by
  refine ⟨h.named, fun t ht => ?_, fun t ht d hd => ?_⟩
  · obtain ⟨field, hfield, -⟩ := htypes t ht
    obtain ⟨hmem, hname⟩ := mem_of_find? hfield
    exact h.once (hname ▸ List.mem_map_of_mem hmem)
  · obtain ⟨field, hfield, hread⟩ := htypes t ht
    have howns : Owns fields t.1 fun _ => () := fun _ _ _ _ _ _ _ => rfl
    obtain ⟨r₁, r₂, hread₁, -⟩ := h.of_mem howns hfield hd
    exact hread d r₁ r₂ hd hread₁

end

-- ---------------------------------------------------------------------------
-- Parts of a record
-- ---------------------------------------------------------------------------

/-- A part of a record, which can be looked at and replaced. -/
structure Part (ρ τ : Type) where
  get : ρ → τ
  set : τ → ρ → ρ
  get_set : ∀ v r, get (set v r) = v
  set_get : ∀ r, set (get r) r = r
  set_set : ∀ v w r, set v (set w r) = set v r

variable {υ : Type}

def Part.Independent (p : Part ρ τ) (p' : Part ρ υ) : Prop :=
  ∀ v w r, p.set v (p'.set w r) = p'.set w (p.set v r)

theorem Part.Independent.get_set {p : Part ρ τ} {p' : Part ρ υ} (h : p.Independent p') (w : υ)
    (r : ρ) : p.get (p'.set w r) = p.get r := by
  calc p.get (p'.set w r)
      = p.get (p'.set w (p.set (p.get r) r)) := by rw [p.set_get]
    _ = p.get (p.set (p.get r) (p'.set w r)) := by rw [h]
    _ = p.get r := p.get_set _ _

def Field.within (p : Part ρ τ) (f : Field τ) : Field ρ :=
  ⟨f.name, fun d r => (f.read d (p.get r)).map fun v => p.set v r⟩

theorem Field.within_read_eq_ok_iff {p : Part ρ τ} {f : Field τ} {d : Draft} :
    (f.within p).read d r = .ok r' ↔ ∃ v, f.read d (p.get r) = .ok v ∧ r' = p.set v r := by
  show (f.read d (p.get r)).map _ = _ ↔ _
  cases f.read d (p.get r) with
  | error e => simp [Except.map]
  | ok v => simp [Except.map, eq_comm]

theorem Part.Independent.within_get {p : Part ρ τ} {p' : Part ρ υ} (h : p.Independent p')
    {f : Field υ} {d : Draft} (hread : (f.within p').read d r = .ok r') : p.get r' = p.get r := by
  obtain ⟨v, -, rfl⟩ := Field.within_read_eq_ok_iff.mp hread
  exact h.get_set v r

theorem Part.Independent.commute {p : Part ρ τ} {p' : Part ρ υ} (h : p.Independent p')
    {f : Field τ} {g : Field υ} {d d' : Draft} {r₁ r₂ : ρ}
    (hf : (f.within p).read d r = .ok r₁) (hg : (g.within p').read d' r₁ = .ok r₂) :
    ∃ r₁', (g.within p').read d' r = .ok r₁' ∧ (f.within p).read d r₁' = .ok r₂ := by
  obtain ⟨v, hv, rfl⟩ := Field.within_read_eq_ok_iff.mp hf
  obtain ⟨w, hw, rfl⟩ := Field.within_read_eq_ok_iff.mp hg
  have h' : p'.Independent p := fun w v r => (h v w r).symm
  rw [h'.get_set] at hw
  refine ⟨p'.set w r, Field.within_read_eq_ok_iff.mpr ⟨w, hw, rfl⟩, ?_⟩
  refine Field.within_read_eq_ok_iff.mpr ⟨v, ?_, (h v w r).symm⟩
  rw [h.get_set]
  exact hv

/-- A part of a record, and the field that it is read from. -/
structure Slot (ρ : Type) where
  type : Type
  part : Part ρ type
  field : Field type

namespace Slot

def toField (s : Slot ρ) : Field ρ := s.field.within s.part

def Separate (slots : List (Slot ρ)) : Prop :=
  ∀ s ∈ slots, ∀ s' ∈ slots, s.field.name ≠ s'.field.name → s.part.Independent s'.part

variable {slots : List (Slot ρ)}

theorem Separate.commuting (h : Separate slots) : Commuting (slots.map toField) := by
  intro f hf g hg hne d d' r r₁ r₂ hread hread'
  obtain ⟨s, hs, rfl⟩ := List.mem_map.mp hf
  obtain ⟨s', hs', rfl⟩ := List.mem_map.mp hg
  exact (h s hs s' hs' hne).commute hread hread'

theorem Separate.owns (h : Separate slots) {s : Slot ρ} (hs : s ∈ slots) :
    Owns (slots.map toField) s.field.name s.part.get := by
  intro f hf hne d r r' hread
  obtain ⟨s', hs', rfl⟩ := List.mem_map.mp hf
  exact (h s hs s' hs' (Ne.symm hne)).within_get hread

end Slot

section
variable (p : Part ρ τ) (fs : List (Field τ))

theorem readMembers_within (cut : Option Draft) (seen : List String) (ms : Members) (r : ρ) :
    readMembers (fs.map (·.within p)) cut seen ms r =
      (readMembers fs cut seen ms (p.get r)).map fun v => p.set v r := by
  induction ms generalizing seen r with
  | nil =>
    cases cut with
    | none => exact congrArg Except.ok (p.set_get r).symm
    | some found => rfl
  | cons m ms ih =>
    obtain ⟨_ | key, d⟩ := m
    · rfl
    have hfind : (fs.map (·.within p)).find? (·.name == key) =
        (fs.find? (·.name == key)).map (·.within p) := List.find?_map ..
    cases hkey : fs.find? (·.name == key) with
    | none =>
      simp only [readMembers, hfind, hkey, Option.map_none, ih]
      split <;> rfl
    | some f =>
      simp only [readMembers, hfind, hkey, Option.map_some]
      split
      · rfl
      · cases hread : f.read d (p.get r) with
        | error e => simp [Field.within, hread, Except.map]
        | ok v =>
          have hwithin : (f.within p).read d r = .ok (p.set v r) :=
            Field.within_read_eq_ok_iff.mpr ⟨v, hread, rfl⟩
          simp only [hwithin, ih, p.get_set, p.set_set]

theorem readItems_within (closed : Bool) (ds : List Draft) (r : ρ) :
    readItems closed (fs.map (·.within p)) ds r =
      (readItems closed fs ds (p.get r)).map fun v => p.set v r := by
  induction ds generalizing fs r with
  | nil => cases closed <;> simp [readItems, Except.map, p.set_get]
  | cons d ds ih =>
    cases fs with
    | nil => rfl
    | cons f fs =>
      cases hread : f.read d (p.get r) with
      | error e => simp [readItems, Field.within, hread, Except.map]
      | ok v =>
        have hwithin : (f.within p).read d r = .ok (p.set v r) :=
          Field.within_read_eq_ok_iff.mpr ⟨v, hread, rfl⟩
        simp only [List.map_cons, readItems, hread, hwithin, ih, p.get_set, p.set_set]

theorem readRecord_within (name : String) (d : Draft) (r : ρ) :
    readRecord name (fs.map (·.within p)) r d =
      (readRecord name fs (p.get r) d).map fun v => p.set v r := by
  cases d with
  | object ms cut => exact readMembers_within p fs cut [] ms r
  | array ds closed => exact readItems_within p fs closed ds r
  | _ => rfl

end

end Mediator.Json
