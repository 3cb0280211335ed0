import Mathlib.Data.List.Induction
import Mediator.Declaration.Request
import Mediator.Proofs.Declaration.Reading

/-!
# What the arguments of a request say

`RequestArgument.Ahead` is the grammar of one argument. What is implemented for a request type
depends on nothing but the sequence of its arguments (`Item.Declares`), in whichever attributes they
are: a capability has to occur among them, and of everything else the last that is said counts
(`RequestImplementation.Implements`). One attribute that does not consist of arguments is enough for
the whole declaration to be rejected.
-/

namespace Mediator.Declaration

open Reader

variable {ts rest : List Token}

-- ---------------------------------------------------------------------------
-- One argument
-- ---------------------------------------------------------------------------

/-- The type that the tokens up to `rest` are, as it is written in an implementation. -/
def TypeAhead (ts type rest : List Token) : Prop :=
  ∃ shape, (Reader.written Reader.type).Reads ts (shape, type) rest

def capabilityWord : Capability → String
  | .auditable => "auditable"
  | .authorizable => "authorizable"
  | .cacheable => "cacheable"

namespace RequestArgument

inductive Ahead : List Token → RequestArgument → List Token → Prop
  | flag (c : Capability) (rest : List Token) :
      Ahead (.word (capabilityWord c) :: rest) (.flag c) rest
  | response {joint : Bool} {ts type rest : List Token} (h : TypeAhead ts type rest) :
      Ahead (.word "response" :: .mark '=' joint :: ts) (.response type) rest
  | resource (joint : Bool) (kind text : String) (rest : List Token) :
      Ahead (.word "resource" :: .mark '=' joint :: .literal (.string kind) text :: rest)
        (.resource kind) rest
  | resourceId (joint : Bool) {field : String} (h : isKeyword field = false) (rest : List Token) :
      Ahead (.word "resource_id" :: .mark '=' joint :: .word field :: rest) (.resourceId field) rest
  | cacheKey (joint : Bool) {field : String} (h : isKeyword field = false) (rest : List Token) :
      Ahead (.word "cache_key" :: .mark '=' joint :: .word field :: rest) (.cacheKey field) rest
  | cacheExpiration (joint : Bool) (secs : UInt64) (text : String) (rest : List Token) :
      Ahead (.word "cache_expiration_secs" :: .mark '=' joint ::
        .literal (.integer secs.toNat) text :: rest) (.cacheExpiration secs) rest

theorem reads_valued_iff {α : Type} {p : Reader α} {f : α → RequestArgument} {a : RequestArgument} :
    (do Reader.sign "="; f <$> p).Reads ts a rest ↔
      ∃ joint behind v, ts = .mark '=' joint :: behind ∧ p.Reads behind v rest ∧ f v = a := by
  simp only [reads_bind_iff, reads_map_iff, reads_equals_iff]
  constructor
  · rintro ⟨-, behind, ⟨joint, rfl⟩, v, hv, rfl⟩
    exact ⟨joint, behind, v, rfl, hv, rfl⟩
  · rintro ⟨joint, behind, v, rfl, hv, rfl⟩
    exact ⟨(), behind, ⟨joint, rfl⟩, v, hv, rfl⟩

theorem named_value_iff {a : RequestArgument} : Named value ts a rest ↔ Ahead ts a rest := by
  constructor
  · rintro ⟨name, behind, -, rfl, h⟩
    unfold value at h
    split at h
    · obtain ⟨rfl, rfl⟩ := reads_pure_iff.mp h
      exact .flag .auditable _
    · obtain ⟨rfl, rfl⟩ := reads_pure_iff.mp h
      exact .flag .authorizable _
    · obtain ⟨rfl, rfl⟩ := reads_pure_iff.mp h
      exact .flag .cacheable _
    · obtain ⟨⟨⟩, behind, hsign, hvalue⟩ := reads_bind_iff.mp h
      obtain ⟨joint, rfl⟩ := reads_equals_iff.mp hsign
      obtain ⟨⟨shape, type⟩, between, htype, hdone⟩ := reads_bind_iff.mp hvalue
      obtain ⟨rfl, rfl⟩ := reads_pure_iff.mp hdone
      exact .response ⟨shape, htype⟩
    · obtain ⟨joint, behind, kind, rfl, hkind, rfl⟩ := reads_valued_iff.mp h
      obtain ⟨text, rfl⟩ := reads_stringLiteral_iff.mp hkind
      exact .resource joint kind text rest
    · obtain ⟨joint, behind, field, rfl, hfield, rfl⟩ := reads_valued_iff.mp h
      obtain ⟨hword, rfl⟩ := reads_identifier_iff.mp hfield
      exact .resourceId joint hword rest
    · obtain ⟨joint, behind, field, rfl, hfield, rfl⟩ := reads_valued_iff.mp h
      obtain ⟨hword, rfl⟩ := reads_identifier_iff.mp hfield
      exact .cacheKey joint hword rest
    · obtain ⟨joint, behind, secs, rfl, hsecs, rfl⟩ := reads_valued_iff.mp h
      obtain ⟨text, rfl⟩ := reads_number64_iff.mp hsecs
      exact .cacheExpiration joint secs text rest
    · exact absurd h not_reads_reject
  · intro h
    cases h with
    | flag c =>
      refine ⟨_, _, ?_, rfl, ?_⟩
      · cases c <;> decide
      · cases c <;> exact reads_pure_iff.mpr ⟨rfl, rfl⟩
    | response h =>
      obtain ⟨shape, htype⟩ := h
      refine ⟨_, _, by decide, rfl, reads_bind_iff.mpr ⟨(), _, reads_equals_iff.mpr ⟨_, rfl⟩, ?_⟩⟩
      exact reads_bind_iff.mpr ⟨_, _, htype, reads_pure_iff.mpr ⟨rfl, rfl⟩⟩
    | resource joint kind text =>
      exact ⟨_, _, by decide, rfl, reads_valued_iff.mpr
        ⟨joint, _, kind, rfl, reads_stringLiteral_iff.mpr ⟨text, rfl⟩, rfl⟩⟩
    | resourceId joint hfield =>
      exact ⟨_, _, by decide, rfl, reads_valued_iff.mpr
        ⟨joint, _, _, rfl, reads_identifier_iff.mpr ⟨hfield, rfl⟩, rfl⟩⟩
    | cacheKey joint hfield =>
      exact ⟨_, _, by decide, rfl, reads_valued_iff.mpr
        ⟨joint, _, _, rfl, reads_identifier_iff.mpr ⟨hfield, rfl⟩, rfl⟩⟩
    | cacheExpiration joint secs text =>
      exact ⟨_, _, by decide, rfl, reads_valued_iff.mpr
        ⟨joint, _, _, rfl, reads_number64_iff.mpr ⟨text, rfl⟩, rfl⟩⟩

-- ---------------------------------------------------------------------------
-- Several arguments
-- ---------------------------------------------------------------------------

def response? : RequestArgument → Option (List Token)
  | .response type => some type
  | _ => none

def resource? : RequestArgument → Option String
  | .resource kind => some kind
  | _ => none

def resourceId? : RequestArgument → Option String
  | .resourceId field => some field
  | _ => none

def cacheKey? : RequestArgument → Option String
  | .cacheKey field => some field
  | _ => none

def cacheExpiration? : RequestArgument → Option UInt64
  | .cacheExpiration secs => some secs
  | _ => none

def flag? : RequestArgument → Option Capability
  | .flag c => some c
  | _ => none

section
variable {α : Type} {said : RequestArgument → Option α} {as bs : List RequestArgument}

theorem mem_flags_iff {c : Capability} : c ∈ as.filterMap flag? ↔ .flag c ∈ as := by
  rw [List.mem_filterMap]
  constructor
  · rintro ⟨a, ha, hflag⟩
    cases a <;> cases hflag
    exact ha
  · intro h
    exact ⟨_, h, rfl⟩

/-- The same arguments in the same order, except that flags may be repeated and may be elsewhere. -/
def Rearranged (as bs : List RequestArgument) : Prop :=
  as.filter (·.flag?.isNone) = bs.filter (·.flag?.isNone) ∧ ∀ c, .flag c ∈ as ↔ .flag c ∈ bs

theorem Rearranged.findSomeRev?_eq (h : Rearranged as bs) (hsaid : ∀ c, said (.flag c) = none) :
    as.findSomeRev? said = bs.findSomeRev? said := by
  -- A flag says nothing else, so it may as well be left out.
  have hskip : said = fun a => if a.flag?.isNone then said a else none := by
    funext a
    cases a <;> simp [flag?, hsaid]
  simp only [List.findSomeRev?_eq_findSome?_reverse, ← List.getLast?_filterMap]
  rw [hskip, ← List.filterMap_filter, ← List.filterMap_filter, h.1]

end

end RequestArgument

namespace RequestSettings

open RequestArgument

theorem merge_empty (s : RequestSettings) : s.merge empty = s := by
  obtain ⟨_, ⟨_, _, _⟩, _, _, _, _⟩ := s
  simp [merge, empty, Capabilities.union, Capabilities.empty]

theorem merge_add (s t : RequestSettings) (a : RequestArgument) :
    s.merge (t.add a) = (s.merge t).add a := by
  cases a <;> simp [merge, add, Capabilities.union, Bool.or_assoc]

theorem ofArguments_snoc (as : List RequestArgument) (a : RequestArgument) :
    ofArguments (as ++ [a]) = (ofArguments as).add a := by
  simp only [ofArguments, List.foldl_append, List.foldl_cons, List.foldl_nil]

theorem merge_merge (s : RequestSettings) (as bs : List RequestArgument) :
    (s.merge (ofArguments as)).merge (ofArguments bs) = s.merge (ofArguments (as ++ bs)) := by
  induction bs using List.reverseRecOn with
  | nil =>
    rw [List.append_nil]
    exact merge_empty _
  | append_singleton bs b ih =>
    rw [ofArguments_snoc, merge_add, ih, ← List.append_assoc, ofArguments_snoc, merge_add]

theorem ofAttributes_eq (attributes : List Attribute) :
    ofAttributes attributes = (Attribute.argumentsOfAll value attributes).map ofArguments := by
  -- The attributes are merged into settings that say nothing.
  have hempty (t : RequestSettings) : empty.merge t = t := by
    obtain ⟨_, ⟨_, _, _⟩, _, _, _, _⟩ := t
    simp [merge, empty, Capabilities.union, Capabilities.empty]
  have hmerged : ofAttributes attributes =
      (Attribute.argumentsOfAll value attributes).map fun as => empty.merge (ofArguments as) :=
    Attribute.foldlM_arguments merge_empty merge_merge empty
  simpa only [hempty] using hmerged

theorem union_ofList (cs ds : List Capability) :
    (Capabilities.ofList cs).union (.ofList ds) = .ofList (cs ++ ds) := by
  simp only [Capabilities.union, Capabilities.ofList, List.contains_append]

theorem ofArguments_eq (as : List RequestArgument) : ofArguments as =
    ⟨as.findSomeRev? response?, .ofList (as.filterMap flag?), as.findSomeRev? resource?,
      as.findSomeRev? resourceId?, as.findSomeRev? cacheKey?, as.findSomeRev? cacheExpiration?⟩ := by
  induction as using List.reverseRecOn with
  | nil => rfl
  | append_singleton as a ih =>
    rw [ofArguments_snoc, ih]
    simp only [List.findSomeRev?_eq_findSome?_reverse, List.reverse_append, List.reverse_singleton,
      List.singleton_append, List.findSome?_cons, List.filterMap_append, ← union_ofList]
    cases a with
    | flag c => rfl
    | _ => simp [add, flag?, response?, resource?, resourceId?, cacheKey?, cacheExpiration?,
        Capabilities.ofList, Capabilities.union]

theorem ofArguments_of_rearranged {as bs : List RequestArgument} (h : Rearranged as bs) :
    ofArguments as = ofArguments bs := by
  have hflags : Capabilities.ofList (as.filterMap flag?) = .ofList (bs.filterMap flag?) := by
    have hcontains (c : Capability) :
        (as.filterMap flag?).contains c = (bs.filterMap flag?).contains c := by
      rw [Bool.eq_iff_iff, List.contains_iff_mem, List.contains_iff_mem, mem_flags_iff,
        mem_flags_iff]
      exact h.2 c
    simp only [Capabilities.ofList, hcontains]
  rw [ofArguments_eq, ofArguments_eq, hflags, h.findSomeRev?_eq fun _ => rfl,
    h.findSomeRev?_eq fun _ => rfl, h.findSomeRev?_eq fun _ => rfl, h.findSomeRev?_eq fun _ => rfl,
    h.findSomeRev?_eq fun _ => rfl]

end RequestSettings

-- ---------------------------------------------------------------------------
-- Written arguments
-- ---------------------------------------------------------------------------

/-- What may be behind an argument: nothing, a comma, or the name of the next. -/
inductive MayFollow : List Token → Prop
  | nil : MayFollow []
  | comma (joint : Bool) (ts : List Token) : MayFollow (.mark ',' joint :: ts)
  | name {name : String} (h : isKeyword name = false) (ts : List Token) :
      MayFollow (.word name :: ts)

namespace MayFollow

theorem not_beginsWith (h : MayFollow rest) (text : String) {c : Char} {cs : List Char}
    (htext : text.toList = c :: cs) (hc : c ≠ ',') : beginsWith text rest = false := by
  rw [beginsWith, htext]
  cases h with
  | nil => cases cs <;> rfl
  | comma joint ts => cases cs <;> simp [beginsWithChars, hc]
  | name hname ts => cases cs <;> rfl

theorem not_beginsWithGroup (h : MayFollow rest) (d : Delimiter) :
    beginsWithGroup d rest = false := by
  cases h <;> rfl

end MayFollow

/-! A name before what may follow is a type of its own: a path of one segment without arguments, that
neither is called nor invoked nor bounded. -/

section
variable {w : String} (hw : isKeyword w = false) (h : MayFollow rest) (below : Level)
include hw h

theorem segment_name :
    Reader.segment below false (.word w :: rest) = .ok ⟨false, 1, [.word w], none⟩ := by
  have hcolons := h.not_beginsWith "::" rfl (by decide)
  have hangle := h.not_beginsWith "<" rfl (by decide)
  simp only [Reader.segment]
  rw [ahead_bind, not_beginsWithAnyWord_of_subset hw (by decide),
    not_beginsWithWord_of_mem hw (by decide)]
  refine bind_of_one_taken (identifier_eq_ok_iff.mpr ⟨w, rest, hw, rfl, rfl⟩) ?_
  rw [ahead_bind, hcolons, beginsWithJust, hangle]
  rfl

theorem path_name :
    path below false (.word w :: rest) = .ok ⟨⟨false, [false]⟩, 1, [.word w], none⟩ := by
  have hcolons := h.not_beginsWith "::" rfl (by decide)
  have hend : segments below false rest = .ok ⟨[], 0, [], none⟩ :=
    many_of_no_more (by rw [hcolons]; rfl)
  rw [path, bind_of_nothing_taken (sign?_of_not_beginsWith rfl)]
  exact bind_of_one_taken (segment_name hw h below) (bind_of_nothing_taken hend)

theorem calledPath_name : calledPath below (.word w :: rest) =
    .ok ⟨(⟨false, [false]⟩, false), 1, [.word w], none⟩ := by
  have hcolons := h.not_beginsWith "::" rfl (by decide)
  have hcall : isCall rest = false := by simp [isCall, hcolons, h.not_beginsWithGroup]
  refine bind_of_one_taken (path_name hw h below) ?_
  show iterateAt _ (rest.length + 1) _ rest = _
  rw [iterateAt, bind_of_nothing_taken (a := none)]
  · rfl
  · refine ahead_bind.trans ?_
    rw [hcall]
    rfl

theorem type_name : Reader.type (.word w :: rest) = .ok ⟨.name, 1, [.word w], none⟩ := by
  have hbang := h.not_beginsWith "!" rfl (by decide)
  have hplus := h.not_beginsWith "+" rfl (by decide)
  have hhash := h.not_beginsWith "#" rfl (by decide)
  have hname : beginsWithName (.word w :: rest) = true := by simp [beginsWithName, hw]
  have hbuiltin : beginsWithBuiltin (.word w :: rest) = false := by
    simp [beginsWithBuiltin, hhash]
  have hbinder (level : Level) : binder? level (.word w :: rest) = .ok ⟨false, 0, [], none⟩ :=
    bind_of_nothing_taken (word?_of_not_beginsWithWord (not_beginsWithWord_of_mem hw (by decide)))
  show typeWith _ true _ = _
  simp only [typeWith]
  rw [bind_of_nothing_taken (hbinder _), ahead_bind, hname, hbuiltin,
    not_beginsWithAnyWord_of_subset hw (by decide)]
  refine bind_of_one_taken (calledPath_name hw h _) (ahead_bind.trans ?_)
  simp only [beginsWithJust, hbang, hplus]
  rfl

theorem typeAhead_name : TypeAhead (.word w :: rest) [.word w] rest := by
  refine ⟨.name, ⟨(.name, [.word w]), 1, [.word w], none⟩, ?_, rfl, rfl, rfl⟩
  rw [written, type_name hw h]
  rfl

end

/-- An argument as it may be written wherever an argument may be, with or without a comma. -/
structure WrittenArgument where
  argument : RequestArgument
  tokens : List Token
  comma : Option Bool
  ahead : ∀ rest, MayFollow rest → RequestArgument.Ahead (tokens ++ rest) argument rest

namespace WrittenArgument

def content (w : WrittenArgument) : List Token := w.tokens ++ (w.comma.map (.mark ',' ·)).toList

theorem mayFollow_append (w : WrittenArgument) (rest : List Token) :
    MayFollow (w.tokens ++ rest) := by
  obtain ⟨name, behind, hname, heq, -⟩ := RequestArgument.named_value_iff.mpr (w.ahead [] .nil)
  rw [List.append_nil] at heq
  rw [heq]
  exact .name hname _

theorem mayFollow_flatMap (ws : List WrittenArgument) : MayFollow (ws.flatMap content) := by
  cases ws with
  | nil => exact .nil
  | cons w ws =>
    rw [List.flatMap_cons, content, List.append_assoc]
    exact w.mayFollow_append _

theorem listing_flatMap (ws : List WrittenArgument) :
    Listing RequestArgument.Ahead (ws.flatMap content) (ws.map argument) := by
  induction ws with
  | nil => exact .nil
  | cons w ws ih =>
    rw [List.flatMap_cons, List.map_cons, content, List.append_assoc]
    cases w.comma with
    | none => exact .cons (w.ahead _ (mayFollow_flatMap ws)) ih
    | some joint => exact .comma (w.ahead _ (.comma joint _)) ih

end WrittenArgument

-- ---------------------------------------------------------------------------
-- The implementation
-- ---------------------------------------------------------------------------

/-- The attributes of the item that are about requests have these arguments, one attribute's behind
the other's. -/
def Item.Declares (i : Item) (as : List RequestArgument) : Prop :=
  Attribute.AllHave RequestArgument.Ahead (i.attributesCalled "request") as

theorem Item.declares_of_written {i : Item} {pieces : List (List WrittenArgument)}
    (h : List.Forall₂ (fun a ws => a.form = .arguments (ws.flatMap WrittenArgument.content))
      (i.attributesCalled "request") pieces) :
    i.Declares (pieces.flatten.map (·.argument)) := by
  refine ⟨pieces.map (·.map (·.argument)), ?_, List.map_flatten.symm⟩
  rw [List.forall₂_map_right_iff]
  exact h.imp fun a ws hform => ⟨_, hform, WrittenArgument.listing_flatMap ws⟩

namespace RequestImplementation

open RequestArgument

/-- What is implemented for an item with these arguments. -/
structure Implements (i : Item) (as : List RequestArgument) (impl : RequestImplementation) :
    Prop where
  type : impl.type = i.type
  parameters : impl.parameters = i.parameters
  response : impl.response =
    Token.compact ((as.findSomeRev? response?).getD [.group .parenthesis []])
  capabilities (c : Capability) : impl.capabilities.has c = true ↔ .flag c ∈ as
  resource (rule : ResourceRule) : impl.resource = some rule ↔
    (∃ a ∈ as, a.resource?.isSome = true ∨ a.resourceId?.isSome = true) ∧
      rule.kind = as.findSomeRev? resource? ∧ rule.idField = as.findSomeRev? resourceId?
  cacheKey : impl.cacheKey = as.findSomeRev? cacheKey?
  cacheExpiration : impl.cacheExpiration = as.findSomeRev? cacheExpiration?

theorem Implements.ofSettings (i : Item) (as : List RequestArgument) :
    Implements i as (ofSettings i (.ofArguments as)) := by
  have hresource :
      ((as.findSomeRev? resource?).isSome || (as.findSomeRev? resourceId?).isSome) = true ↔
        ∃ a ∈ as, a.resource?.isSome = true ∨ a.resourceId?.isSome = true := by
    simp only [List.findSomeRev?_eq_findSome?_reverse, Bool.or_eq_true, List.findSome?_isSome_iff,
      List.mem_reverse, ← exists_or, and_or_left]
  rw [RequestSettings.ofArguments_eq]
  refine ⟨rfl, rfl, rfl, fun c => ?_, fun rule => ?_, rfl, rfl⟩
  · show (Capabilities.ofList _).has c = true ↔ _
    rw [Capabilities.has_ofList, List.contains_iff_mem, mem_flags_iff]
  · rw [← hresource]
    obtain ⟨kind, idField⟩ := rule
    simp only [RequestImplementation.ofSettings, Option.ite_none_right_eq_some, Option.some.injEq,
      ResourceRule.mk.injEq]
    exact and_congr_right fun _ => and_congr eq_comm eq_comm

theorem Implements.unique {i : Item} {as : List RequestArgument} {impl impl' : RequestImplementation}
    (h : Implements i as impl) (h' : Implements i as impl') : impl = impl' := by
  have hcapabilities : impl.capabilities = impl'.capabilities := by
    have hhas (c : Capability) : impl.capabilities.has c = impl'.capabilities.has c :=
      Bool.eq_iff_iff.mpr ((h.capabilities c).trans (h'.capabilities c).symm)
    have h1 := hhas .auditable
    have h2 := hhas .authorizable
    have h3 := hhas .cacheable
    simp only [Capabilities.has] at h1 h2 h3
    rw [Capabilities.mk.injEq]
    exact ⟨h1, h2, h3⟩
  have hresource : impl.resource = impl'.resource :=
    Option.ext fun rule => (h.resource rule).trans (h'.resource rule).symm
  obtain ⟨⟩ := impl
  obtain ⟨⟩ := impl'
  rw [mk.injEq]
  exact ⟨h.type.trans h'.type.symm, h.parameters.trans h'.parameters.symm,
    h.response.trans h'.response.symm, hcapabilities, hresource, h.cacheKey.trans h'.cacheKey.symm,
    h.cacheExpiration.trans h'.cacheExpiration.symm⟩

theorem ofItem_eq (i : Item) : ofItem i =
    (Attribute.argumentsOfAll value (i.attributesCalled "request")).map fun as =>
      ofSettings i (.ofArguments as) := by
  rw [ofItem, RequestSettings.ofAttributes_eq]
  cases Attribute.argumentsOfAll value (i.attributesCalled "request") <;> rfl

theorem named_value_eq : Named value = Ahead := by
  funext ts a rest
  exact propext named_value_iff

theorem declares_iff {i : Item} {as : List RequestArgument} : i.Declares as ↔
    Attribute.argumentsOfAll value (i.attributesCalled "request") = .ok as := by
  rw [Item.Declares, Attribute.argumentsOfAll_eq_ok_iff, named_value_eq]

theorem ofItem_of_declares {i : Item} {as : List RequestArgument} (h : i.Declares as) :
    ofItem i = .ok (ofSettings i (.ofArguments as)) := by
  rw [ofItem_eq, declares_iff.mp h]
  rfl

theorem ofItem_eq_ok_iff {i : Item} {impl : RequestImplementation} :
    ofItem i = .ok impl ↔ ∃ as, i.Declares as ∧ Implements i as impl := by
  constructor
  · intro h
    rw [ofItem_eq] at h
    cases hread : Attribute.argumentsOfAll value (i.attributesCalled "request") with
    | error e => simp [hread, Except.map] at h
    | ok as =>
      have himpl : ofSettings i (.ofArguments as) = impl := by simpa [hread, Except.map] using h
      exact ⟨as, declares_iff.mpr hread, himpl ▸ .ofSettings i as⟩
  · rintro ⟨as, hdeclares, himpl⟩
    rw [ofItem_of_declares hdeclares, (Implements.ofSettings i as).unique himpl]

theorem ofItem_eq_error_iff {i : Item} {e : Rejection} : ofItem i = .error e ↔
    Attribute.argumentsOfAll value (i.attributesCalled "request") = .error e := by
  rw [ofItem_eq]
  cases Attribute.argumentsOfAll value (i.attributesCalled "request") <;> simp [Except.map]

/-- What is implemented for a request type depends on nothing but the sequence of its arguments. It
does not matter how they are split among attributes, which other attributes there are, and where and
how often a flag is. -/
theorem determined_by_arguments (i : Item) :
    (∀ impl, ofItem i = .ok impl ↔ ∃ as, i.Declares as ∧ Implements i as impl) ∧
    (∀ e, ofItem i = .error e ↔
      ∃ before a after, i.attributesCalled "request" = before ++ a :: after ∧
        (∀ b ∈ before, ∃ bs, b.Has Ahead bs) ∧ a.arguments value = .error e) ∧
    ((∃ e, ofItem i = .error e) ↔
      ∃ a ∈ i.attributesCalled "request", ∀ as, ¬ a.Has Ahead as) ∧
    (∀ attributes as bs, i.Declares as → { i with attributes }.Declares bs → Rearranged as bs →
      ofItem { i with attributes } = ofItem i) ∧
    (∀ pieces : List (List WrittenArgument),
      List.Forall₂ (fun a ws => a.form = .arguments (ws.flatMap WrittenArgument.content))
        (i.attributesCalled "request") pieces →
      i.Declares (pieces.flatten.map (·.argument))) := by
  refine ⟨fun impl => ofItem_eq_ok_iff, fun e => ?_, ?_, fun attributes as bs has hbs hsame => ?_,
    fun pieces h => Item.declares_of_written h⟩
  · rw [ofItem_eq_error_iff, Attribute.argumentsOfAll_eq_error_iff, named_value_eq]
  · simp only [ofItem_eq_error_iff, Attribute.exists_argumentsOfAll_eq_error_iff, named_value_eq]
  · rw [ofItem_of_declares has, ofItem_of_declares hbs,
      RequestSettings.ofArguments_of_rearranged hsame]
    rfl

/-! A type declared in parts, and the same at once. -/

/-- `response = User` -/
def userResponse (comma : Option Bool) : WrittenArgument where
  argument := .response [.word "User"]
  tokens := [.word "response", .mark '=' false, .word "User"]
  comma := comma
  ahead _ h := .response (typeAhead_name (by decide) h)

/-- `cache_key = id` -/
def idKey (comma : Option Bool) : WrittenArgument :=
  ⟨.cacheKey "id", [.word "cache_key", .mark '=' false, .word "id"], comma,
    fun rest _ => .cacheKey false (by decide) rest⟩

def flagged (c : Capability) (comma : Option Bool) : WrittenArgument :=
  ⟨.flag c, [.word (capabilityWord c)], comma, fun rest _ => .flag c rest⟩

/-- `#[request(cacheable, response = User)] #[doc] #[request(cache_key = id cacheable)]` -/
def userInParts : Item where
  attributes := [
    ⟨["request"], .arguments <|
      [flagged .cacheable (some false), userResponse none].flatMap WrittenArgument.content⟩,
    ⟨["doc"], .bare⟩,
    ⟨["request"], .arguments <|
      [idKey none, flagged .cacheable none].flatMap WrittenArgument.content⟩]
  name := "GetUser"
  generics := ⟨[]⟩

/-- `#[request(response = User, cache_key = id, cacheable)]` -/
def userAtOnce : Item :=
  { userInParts with
    attributes := [⟨["request"], .arguments <|
      [userResponse (some false), idKey (some false), flagged .cacheable none].flatMap
        WrittenArgument.content⟩] }

theorem user_in_parts : ofItem userAtOnce = ofItem userInParts ∧
    ∃ impl, ofItem userInParts = .ok impl ∧ impl.response = "User" ∧
      impl.capabilities.has .cacheable = true ∧ impl.cacheKey = some "id" := by
  obtain ⟨hok, -, -, hsame, hwritten⟩ := determined_by_arguments userInParts
  obtain ⟨-, -, -, -, hwritten'⟩ := determined_by_arguments userAtOnce
  have hparts := hwritten [[flagged .cacheable (some false), userResponse none],
    [idKey none, flagged .cacheable none]] (.cons rfl (.cons rfl .nil))
  have honce := hwritten' [[userResponse (some false), idKey (some false), flagged .cacheable none]]
    (.cons rfl .nil)
  refine ⟨hsame _ _ _ hparts honce ⟨rfl, fun c => ?_⟩, ?_⟩
  · cases c <;> simp [flagged, userResponse, idKey]
  · have himpl := Implements.ofSettings userInParts
      [.flag .cacheable, .response [.word "User"], .cacheKey "id", .flag .cacheable]
    refine ⟨_, (hok _).mpr ⟨_, hparts, himpl⟩, ?_, (himpl.capabilities _).mpr (by simp), rfl⟩
    rfl

end RequestImplementation

end Mediator.Declaration
