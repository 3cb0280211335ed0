import Mathlib.Data.List.Forall2
import Mediator.Declaration.Notification
import Mediator.Proofs.Declaration.Reading

/-!
# Names of strategies

A strategy has one name, and a text is a spelling of it if it is the same but for the case of letters
and for its separators (`Strategy.Spells`). A declaration takes for a strategy what is taken for it
everywhere else, except for texts with a space, which it takes for none (`parseDeclared?_eq`).
What is implemented for a notification type is then said by the names in its attributes
(`NotificationImplementation.strategy_named`).
-/

namespace Mediator

-- ---------------------------------------------------------------------------
-- Spellings
-- ---------------------------------------------------------------------------

namespace Strategy

def Interchangeable (separators : List Char) (c d : Char) : Prop :=
  c.toLower = d.toLower ∨ (c ∈ separators ∧ d ∈ separators)

/-- The texts are the same but for the case of letters and for which of the separators is where. -/
def Alike (separators : List Char) (s t : String) : Prop :=
  List.Forall₂ (Interchangeable separators) s.toList t.toList

def closedName (v : Strategy) : String := String.ofList (v.name.toList.filter (· != '_'))

/-- The text is the name of `v`, with these separators or with none. -/
def Spells (separators : List Char) (s : String) (v : Strategy) : Prop :=
  Alike separators s v.name ∨ Alike separators s v.closedName

theorem toLower_eq_iff {c d : Char} (h : c.isAlpha = false) : d.toLower = c ↔ d = c := by
  obtain ⟨hupper, hlower⟩ := Bool.or_eq_false_iff.mp h
  have hcapital : ¬ ('A'.val ≤ c.val ∧ c.val ≤ 'Z'.val) := of_decide_eq_false hupper
  have hsmall : ¬ ('a'.val ≤ c.val ∧ c.val ≤ 'z'.val) := fun ⟨ha, hz⟩ =>
    Bool.false_ne_true (hlower.symm.trans (Bool.and_eq_true_iff.mpr ⟨decide_eq_true ha,
      decide_eq_true hz⟩))
  unfold Char.toLower
  split
  · next hd =>
    constructor
    · rintro rfl
      simp only [Char.reduceVal, UInt32.reduceSub, UInt32.le_iff_toNat_le, UInt32.toNat_add,
        UInt32.reduceToNat, ge_iff_le] at hd hsmall
      omega
    · rintro rfl
      exact absurd hd hcapital
  · rfl

theorem folded_eq_iff {separators : List Char} (h : separators.any Char.isAlpha = false)
    {c d : Char} :
    (if separators.contains c then '_' else c.toLower) =
        (if separators.contains d then '_' else d.toLower) ↔
      Interchangeable ('_' :: separators) c d := by
  have hunderscore (e : Char) : e.toLower = '_' ↔ e = '_' := toLower_eq_iff (by decide)
  have hseparator {e f : Char} (he : e ∈ separators) : f.toLower = e.toLower ↔ f = e := by
    have hletter : e.isAlpha = false := by simpa using List.any_eq_false.mp h e he
    rw [(toLower_eq_iff hletter).mpr rfl, toLower_eq_iff hletter]
  simp only [Interchangeable, List.contains_iff_mem, List.mem_cons]
  -- Where one of the two becomes an underscore, the other has to be one or become one.
  by_cases hc : c ∈ separators <;> by_cases hd : d ∈ separators
  · simp [hc, hd]
  · rw [if_pos hc, if_neg hd, eq_comm, hunderscore, eq_comm (a := c.toLower), hseparator hc]
    constructor
    · intro heq
      exact .inr ⟨.inr hc, .inl heq⟩
    · rintro (rfl | ⟨-, heq | hd'⟩)
      · exact absurd hc hd
      · exact heq
      · exact absurd hd' hd
  · rw [if_neg hc, if_pos hd, hunderscore, hseparator hd]
    constructor
    · intro heq
      exact .inr ⟨.inl heq, .inr hd⟩
    · rintro (rfl | ⟨heq | hc', -⟩)
      · exact absurd hd hc
      · exact heq
      · exact absurd hc' hc
  · rw [if_neg hc, if_neg hd]
    constructor
    · exact .inl
    · rintro (heq | ⟨rfl | hc', rfl | hd'⟩)
      · exact heq
      · rfl
      · exact absurd hd' hd
      · exact absurd hc' hc
      · exact absurd hc' hc

section
variable {separators : List Char} {s t : String} {v : Strategy}

theorem normalize_eq_iff (h : separators.any Char.isAlpha = false) :
    normalize separators s = normalize separators t ↔ Alike ('_' :: separators) s t := by
  rw [normalize, normalize, String.ofList_inj, ← List.forall₂_eq_eq_eq, List.forall₂_map_left_iff,
    List.forall₂_map_right_iff, Alike]
  simp only [folded_eq_iff h]

theorem ofSpelling?_eq_some_iff : ofSpelling? s = some v ↔ s = v.name ∨ s = v.closedName := by
  constructor
  · intro h
    unfold ofSpelling? at h
    split at h <;> cases h <;> decide
  · rintro (rfl | rfl) <;> cases v <;> decide

theorem ofSpelling?_normalize_eq_some_iff (h : separators.any Char.isAlpha = false)
    (hname : normalize separators v.name = v.name)
    (hclosed : normalize separators v.closedName = v.closedName) :
    ofSpelling? (normalize separators s) = some v ↔ Spells ('_' :: separators) s v := by
  rw [ofSpelling?_eq_some_iff, Spells, ← normalize_eq_iff h, ← normalize_eq_iff h, hname, hclosed]

theorem parse?_eq_some_iff : parse? s = some v ↔ Spells ['_', '-', ' '] s v :=
  ofSpelling?_normalize_eq_some_iff (by decide) (by cases v <;> decide) (by cases v <;> decide)

theorem parseDeclared?_eq_some_iff : parseDeclared? s = some v ↔ Spells ['_', '-'] s v :=
  ofSpelling?_normalize_eq_some_iff (by decide) (by cases v <;> decide) (by cases v <;> decide)

theorem parse?_of_alike (h : Alike ['_', '-', ' '] s t) : parse? s = parse? t :=
  congrArg ofSpelling? ((normalize_eq_iff (by decide)).mpr h)

theorem parseDeclared?_of_alike (h : Alike ['_', '-'] s t) : parseDeclared? s = parseDeclared? t :=
  congrArg ofSpelling? ((normalize_eq_iff (by decide)).mpr h)

theorem interchangeable_without_space_iff {c d : Char} (hd : d ≠ ' ') :
    Interchangeable ['_', '-'] c d ↔ Interchangeable ['_', '-', ' '] c d ∧ c ≠ ' ' := by
  have hspace : c.toLower = d.toLower → c ≠ ' ' := by
    rintro heq rfl
    exact hd ((toLower_eq_iff (by decide)).mp heq.symm)
  simp only [Interchangeable, List.mem_cons, List.not_mem_nil, or_false, hd]
  constructor
  · rintro (heq | ⟨rfl | rfl, hd'⟩)
    · exact ⟨.inl heq, hspace heq⟩
    · exact ⟨.inr ⟨.inl rfl, hd'⟩, by decide⟩
    · exact ⟨.inr ⟨.inr (.inl rfl), hd'⟩, by decide⟩
  · rintro ⟨heq | ⟨hc | hc | hc, hd'⟩, hnot⟩
    · exact .inl heq
    · exact .inr ⟨.inl hc, hd'⟩
    · exact .inr ⟨.inr hc, hd'⟩
    · exact absurd hc hnot

/-- The texts that are like one without a space are the same, whether or not a space separates, but
for those that have one. -/
theorem alike_without_space_iff (h : ' ' ∉ t.toList) :
    Alike ['_', '-'] s t ↔ Alike ['_', '-', ' '] s t ∧ ' ' ∉ s.toList := by
  rw [Alike, Alike]
  generalize s.toList = cs
  generalize t.toList = ds at h
  induction ds generalizing cs with
  | nil => cases cs <;> simp
  | cons d ds ih =>
    obtain ⟨hd, hds⟩ : d ≠ ' ' ∧ ' ' ∉ ds := by simpa [eq_comm] using h
    cases cs with
    | nil => simp
    | cons c cs =>
      rw [List.forall₂_cons, List.forall₂_cons, interchangeable_without_space_iff hd, ih cs hds,
        List.mem_cons, not_or, ne_comm]
      exact and_and_and_comm

theorem parseDeclared?_eq_some_iff_parse? :
    parseDeclared? s = some v ↔ parse? s = some v ∧ ' ' ∉ s.toList := by
  rw [parseDeclared?_eq_some_iff, parse?_eq_some_iff, Spells, Spells,
    alike_without_space_iff (by cases v <;> decide), alike_without_space_iff (by cases v <;> decide),
    or_and_right]

theorem parseDeclared?_eq (s : String) :
    parseDeclared? s = if ' ' ∈ s.toList then none else parse? s := by
  refine Option.ext fun v => ?_
  rw [Option.ite_none_left_eq_some, parseDeclared?_eq_some_iff_parse?, and_comm]

end

end Strategy

-- ---------------------------------------------------------------------------
-- Declared names
-- ---------------------------------------------------------------------------

namespace Declaration

open Reader

/-- The tokens up to `rest` name a strategy by a text, be that a name of one or not. -/
inductive StrategyAhead : List Token → String → List Token → Prop
  | intro (joint : Bool) (s text : String) (rest : List Token) :
      StrategyAhead (.word "strategy" :: .mark '=' joint :: .literal (.string s) text :: rest) s rest

def declared (s : String) : Except Rejection Strategy :=
  match Strategy.parseDeclared? s with
  | some v => .ok v
  | none => .error .unknownStrategy

theorem declared_eq_ok_iff {s : String} {v : Strategy} :
    declared s = .ok v ↔ Strategy.parse? s = some v ∧ ' ' ∉ s.toList := by
  rw [← Strategy.parseDeclared?_eq_some_iff_parse?, declared]
  cases Strategy.parseDeclared? s <;> simp

theorem declared_eq_error {s : String} (h : Strategy.parse? s = none ∨ ' ' ∈ s.toList) :
    declared s = .error .unknownStrategy := by
  have hnone : Strategy.parseDeclared? s = none := by
    rw [Strategy.parseDeclared?_eq]
    split
    · rfl
    · next hspace => exact h.resolve_right hspace
  rw [declared, hnone]

section
variable {ts rest : List Token} {names : List String}

theorem exists_strategyAhead {v : Strategy} (h : Named strategyArgument ts v rest) :
    ∃ s, StrategyAhead ts s rest := by
  obtain ⟨name, behind, -, rfl, h⟩ := h
  obtain ⟨⟨⟩, behind, hsign, hvalue⟩ := reads_bind_iff.mp h
  obtain ⟨joint, rfl⟩ := reads_equals_iff.mp hsign
  split at hvalue
  · next hname =>
    obtain ⟨s, between, hs, hparsed⟩ := reads_bind_iff.mp hvalue
    obtain ⟨text, rfl⟩ := reads_stringLiteral_iff.mp hs
    obtain rfl : name = "strategy" := by simpa using hname
    split at hparsed
    · obtain ⟨-, rfl⟩ := reads_pure_iff.mp hparsed
      exact ⟨s, .intro joint s text _⟩
    · exact absurd hparsed not_reads_reject
  · exact absurd hvalue not_reads_reject

theorem strategyArgument_eq (joint : Bool) (s text : String) (rest : List Token) :
    strategyArgument "strategy" (.mark '=' joint :: .literal (.string s) text :: rest) =
      (declared s).map fun v => ⟨v, 2, [.mark '=' joint, .literal (.string s) text], none⟩ := by
  have hsign : sign "=" (.mark '=' joint :: .literal (.string s) text :: rest) =
      .ok ⟨(), 1, [.mark '=' joint], none⟩ := rfl
  have htext : stringLiteral (.literal (.string s) text :: rest) =
      .ok ⟨s, 1, [.literal (.string s) text], none⟩ := by
    simp [stringLiteral, accept]
  simp only [strategyArgument, bind, Reader.bind, hsign, List.drop_one, List.tail_cons,
    beq_self_eq_true, if_true, htext, declared]
  cases Strategy.parseDeclared? s <;> rfl

theorem argumentsOf_strategies (h : Listing StrategyAhead ts names) :
    argumentsOf strategyArgument ts = (names.mapM declared).map (·, none) := by
  have hstep {ts behind : List Token} {s : String} (names : List String)
      (h : StrategyAhead ts s behind)
      (ih : argumentsOf strategyArgument (dropComma behind) = (names.mapM declared).map (·, none)) :
      argumentsOf strategyArgument ts = ((s :: names).mapM declared).map (·, none) := by
    obtain ⟨joint, _, text, _⟩ := h
    have hword : identifier [.word "strategy"] = .ok ⟨"strategy", 1, [.word "strategy"], none⟩ := rfl
    rw [argumentsOf, hword, List.mapM_cons]
    show (strategyArgument "strategy" _ >>= _) = _
    rw [strategyArgument_eq]
    cases declared s with
    | error e => rfl
    | ok v =>
      show (argumentsOf strategyArgument (dropComma behind) >>= _) = _
      rw [ih]
      cases names.mapM declared <;> rfl
  induction h with
  | nil =>
    rw [argumentsOf]
    rfl
  | cons h hrest ih =>
    have hword {ts s rest} (h : StrategyAhead ts s rest) : ∃ w behind, ts = .word w :: behind := by
      obtain ⟨joint, _, text, _⟩ := h
      exact ⟨_, _, rfl⟩
    refine hstep _ h ?_
    rw [hrest.dropComma_eq hword]
    exact ih
  | comma h hrest ih =>
    refine hstep _ h ?_
    rw [dropComma_comma]
    exact ih

theorem exists_listing_of_named {vs : List Strategy} (h : Listing (Named strategyArgument) ts vs) :
    ∃ names, Listing StrategyAhead ts names := by
  induction h with
  | nil => exact ⟨[], .nil⟩
  | cons h hrest ih =>
    obtain ⟨s, hs⟩ := exists_strategyAhead h
    obtain ⟨names, hnames⟩ := ih
    exact ⟨s :: names, .cons hs hnames⟩
  | comma h hrest ih =>
    obtain ⟨s, hs⟩ := exists_strategyAhead h
    obtain ⟨names, hnames⟩ := ih
    exact ⟨s :: names, .comma hs hnames⟩

variable {attributes : List Attribute}

theorem strategyOfAttributes_eq : strategyOfAttributes attributes =
    (Attribute.argumentsOfAll strategyArgument attributes).map List.getLast? := by
  have hread : strategyOfAttributes attributes =
      (Attribute.argumentsOfAll strategyArgument attributes).map fun vs => vs.getLast?.or none :=
    Attribute.foldlM_arguments (fun _ => rfl)
      (fun v as bs => by rw [List.getLast?_append, Option.or_assoc]) none
  simpa only [Option.or_none] using hread

theorem argumentsOfAll_strategies (h : Attribute.AllHave StrategyAhead attributes names) :
    Attribute.argumentsOfAll strategyArgument attributes = names.mapM declared := by
  have harguments {a : Attribute} {part : List String} (h : a.Has StrategyAhead part) :
      a.arguments strategyArgument = part.mapM declared := by
    obtain ⟨ts, hform, hlisting⟩ := h
    rw [Attribute.arguments, hform]
    show (argumentsOf strategyArgument ts >>= _) = _
    rw [argumentsOf_strategies hlisting]
    cases part.mapM declared <;> rfl
  obtain ⟨parts, h, rfl⟩ := h
  rw [Attribute.argumentsOfAll]
  induction h with
  | nil => rfl
  | @cons a part attributes parts h hrest ih =>
    rw [List.mapM_cons, List.flatten_cons, List.mapM_append, ← ih, harguments h]
    cases part.mapM declared with
    | error e => rfl
    | ok vs => cases attributes.mapM (·.arguments strategyArgument) <;> rfl

end

/-- The attributes of the item that are about notifications name strategies by these texts, one
attribute's behind the other's. -/
def Item.NamesStrategies (i : Item) (names : List String) : Prop :=
  Attribute.AllHave StrategyAhead (i.attributesCalled "notification") names

namespace NotificationImplementation

theorem ofItem_of_names {i : Item} {names : List String} (h : i.NamesStrategies names) :
    ofItem i = (names.mapM declared).map fun vs => ⟨i.type, i.parameters, vs.getLast?⟩ := by
  rw [ofItem, strategyOfAttributes_eq, argumentsOfAll_strategies h]
  cases names.mapM declared <;> rfl

theorem exists_names {i : Item} {impl : NotificationImplementation} (h : ofItem i = .ok impl) :
    ∃ names, i.NamesStrategies names := by
  have hsome : ∃ vs, Attribute.argumentsOfAll strategyArgument (i.attributesCalled "notification") =
      .ok vs := by
    rw [ofItem, strategyOfAttributes_eq] at h
    cases hread : Attribute.argumentsOfAll strategyArgument (i.attributesCalled "notification") with
    | error e => simp [hread, Except.map] at h
    | ok vs => exact ⟨vs, rfl⟩
  obtain ⟨vs, hread⟩ := hsome
  obtain ⟨parts, hparts, -⟩ := Attribute.argumentsOfAll_eq_ok_iff.mp hread
  obtain ⟨named, hnamed⟩ := exists_forall₂ hparts fun a part h => by
    obtain ⟨ts, hform, hlisting⟩ := h
    obtain ⟨names, hnames⟩ := exists_listing_of_named hlisting
    exact (⟨names, ts, hform, hnames⟩ : ∃ names, a.Has StrategyAhead names)
  exact ⟨_, named, hnamed, rfl⟩

/-- A declaration and the reader of names agree on every text without a space, and about a text with
one only the reader may know what it names. What the last name says is implemented. -/
theorem strategy_named (s t : String) (i : Item) :
    (∀ v, Strategy.parse? s = some v ↔ Strategy.Spells ['_', '-', ' '] s v) ∧
    Strategy.parseDeclared? s = (if ' ' ∈ s.toList then none else Strategy.parse? s) ∧
    (Strategy.Alike ['_', '-', ' '] s t → Strategy.parse? s = Strategy.parse? t) ∧
    (Strategy.Alike ['_', '-'] s t → Strategy.parseDeclared? s = Strategy.parseDeclared? t) ∧
    (∀ impl, ofItem i = .ok impl ↔ ∃ names vs, i.NamesStrategies names ∧
      List.Forall₂ (fun s v => Strategy.parse? s = some v ∧ ' ' ∉ s.toList) names vs ∧
      impl = ⟨i.type, i.parameters, vs.getLast?⟩) ∧
    (∀ names, i.NamesStrategies names →
      (∃ s ∈ names, Strategy.parse? s = none ∨ ' ' ∈ s.toList) →
      ofItem i = .error .unknownStrategy) := by
  refine ⟨fun v => Strategy.parse?_eq_some_iff, Strategy.parseDeclared?_eq s,
    Strategy.parse?_of_alike, Strategy.parseDeclared?_of_alike, fun impl => ?_,
    fun names hnames hunknown => ?_⟩
  · simp only [← declared_eq_ok_iff, ← mapM_eq_ok_iff]
    constructor
    · intro h
      obtain ⟨names, hnames⟩ := exists_names h
      rw [ofItem_of_names hnames] at h
      cases hvs : names.mapM declared with
      | error e => simp [hvs, Except.map] at h
      | ok vs =>
        rw [hvs] at h
        cases h
        exact ⟨names, vs, hnames, hvs, rfl⟩
    · rintro ⟨names, vs, hnames, hvs, rfl⟩
      rw [ofItem_of_names hnames, hvs]
      rfl
  · obtain ⟨s, hs, hunknown⟩ := hunknown
    rw [ofItem_of_names hnames]
    -- The first text that is rejected may stand before `s`, but all are rejected alike.
    cases hvs : names.mapM declared with
    | error e =>
      obtain ⟨-, t, -, -, -, ht⟩ := mapM_eq_error_iff.mp hvs
      have he : e = .unknownStrategy := by
        rw [declared] at ht
        split at ht <;> cases ht
        rfl
      rw [he]
      rfl
    | ok vs =>
      obtain ⟨v, hv⟩ := exists_of_forall₂ (mapM_eq_ok_iff.mp hvs) hs
      rw [declared_eq_error hunknown] at hv
      cases hv

/-- `#[notification(strategy = s)]` for each of the texts. -/
def userCreated (names : List String) : Item where
  attributes := names.map fun s => ⟨["notification"], .arguments
    [.word "strategy", .mark '=' false, .literal (.string s) ("\"" ++ s ++ "\"")]⟩
  name := "UserCreated"
  generics := ⟨[]⟩

theorem userCreated_names (names : List String) : (userCreated names).NamesStrategies names := by
  have hcalled : (userCreated names).attributesCalled "notification" =
      (userCreated names).attributes := by
    rw [Item.attributesCalled, List.filter_eq_self]
    intro a ha
    obtain ⟨s, -, rfl⟩ := List.mem_map.mp ha
    rfl
  refine ⟨names.map ([·]), ?_, ?_⟩
  · rw [hcalled, userCreated, List.forall₂_map_left_iff, List.forall₂_map_right_iff,
      List.forall₂_same]
    exact fun s _ => ⟨_, rfl, .cons (.intro false s _ []) .nil⟩
  · rw [← List.flatMap_def, List.flatMap_singleton']

theorem last_of_two_named :
    ofItem (userCreated ["Fail-Fast", "PARALLEL"]) = .ok ⟨"UserCreated", "", some .parallel⟩ ∧
    ofItem (userCreated ["parallel", "fail fast"]) = .error .unknownStrategy ∧
    Strategy.parse? "Fail-Fast" = Strategy.parse? "fail fast" ∧
    Strategy.parseDeclared? "Fail-Fast" = Strategy.parseDeclared? "fail_fast" := by
  obtain ⟨-, -, hparse, -, hok, -⟩ :=
    strategy_named "Fail-Fast" "fail fast" (userCreated ["Fail-Fast", "PARALLEL"])
  obtain ⟨-, -, -, hdeclared, -, hunknown⟩ :=
    strategy_named "Fail-Fast" "fail_fast" (userCreated ["parallel", "fail fast"])
  refine ⟨(hok _).mpr ⟨_, [.failFast, .parallel], userCreated_names _, ?_, ?_⟩,
    hunknown _ (userCreated_names _) ⟨"fail fast", ?_, .inr ?_⟩, hparse ?_, hdeclared ?_⟩
  · exact .cons (by decide) (.cons (by decide) .nil)
  · decide
  · decide
  · decide
  · exact (Strategy.normalize_eq_iff (by decide)).mp (by decide)
  · exact (Strategy.normalize_eq_iff (by decide)).mp (by decide)

/-- The text is taken for a strategy everywhere else, and the same text with a hyphen everywhere. -/
theorem space_unknown_to_declarations :
    Strategy.parse? "fail fast" = some .failFast ∧
    Strategy.Alike ['_', '-', ' '] "fail fast" "fail-fast" ∧
    Strategy.parseDeclared? "fail-fast" = some .failFast ∧
    Strategy.parseDeclared? "fail fast" = none ∧
    ofItem (userCreated ["fail fast"]) = .error .unknownStrategy := by
  have halike : Strategy.Alike ['_', '-', ' '] "fail fast" "fail-fast" :=
    (Strategy.normalize_eq_iff (by decide)).mp (by decide)
  refine ⟨by decide, halike, by decide, by decide, ?_⟩
  rw [ofItem_of_names (userCreated_names _)]
  decide

end NotificationImplementation

end Declaration

end Mediator
