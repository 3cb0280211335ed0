import Mathlib.Data.List.Forall2
import Mediator.Declaration.Arguments

/-!
# What readers read

A reader `Reads` a value off the tokens that stand before a rest. Each reader has a rule that says
when it does. The arguments of an attribute are read just if they are a `Listing`: one argument after
the other, each perhaps with a comma behind it (`Attribute.arguments_eq_ok_iff`). Those of several
attributes are read as one sequence (`Attribute.foldlM_arguments`), and all of them have to be
readable (`Attribute.argumentsOfAll_eq_ok_iff`).
-/

namespace Mediator.Declaration

variable {α β : Type}

namespace Reader

/-- The reader takes the tokens up to `rest` and says `a` of them, and nothing is left of a group. -/
def Reads (p : Reader α) (ts : List Token) (a : α) (rest : List Token) : Prop :=
  ∃ r, p ts = .ok r ∧ r.value = a ∧ r.leftover = none ∧ ts.drop r.count = rest

section
variable {p : Reader α} {f : α → Reader β} {ts rest : List Token} {a : α} {b : β}

theorem reads_pure_iff {b : α} : (pure a : Reader α).Reads ts b rest ↔ a = b ∧ ts = rest := by
  show (∃ r, Except.ok _ = Except.ok r ∧ _) ↔ _
  simp

theorem reads_bind_iff : (p >>= f).Reads ts b rest ↔
    ∃ a between, p.Reads ts a between ∧ (f a).Reads between b rest := by
  show (∃ r, Reader.bind p f ts = .ok r ∧ _) ↔ _
  unfold Reader.bind
  constructor
  · rintro ⟨r, h, rfl, hleftover, rfl⟩
    cases hp : p ts with
    | error e => simp [hp] at h
    | ok r₁ =>
      cases hf : f r₁.value (ts.drop r₁.count) with
      | error e => simp [hp, hf] at h
      | ok r₂ =>
        simp only [hp, hf, Except.ok.injEq] at h
        subst h
        simp only [Option.or_eq_none_iff] at hleftover
        exact ⟨r₁.value, _, ⟨r₁, hp, rfl, hleftover.1, rfl⟩,
          ⟨r₂, hf, rfl, hleftover.2, by simp [List.drop_drop]⟩⟩
  · rintro ⟨a, between, ⟨r₁, hp, rfl, hleftover₁, rfl⟩, ⟨r₂, hf, rfl, hleftover₂, rfl⟩⟩
    refine ⟨⟨r₂.value, r₁.count + r₂.count, r₁.written ++ r₂.written, none⟩, ?_⟩
    simp [hp, hf, hleftover₁, hleftover₂, List.drop_drop]

theorem reads_map_iff {g : α → β} :
    (g <$> p).Reads ts b rest ↔ ∃ a, p.Reads ts a rest ∧ g a = b := by
  rw [← bind_pure_comp, reads_bind_iff]
  simp only [reads_pure_iff]
  constructor
  · rintro ⟨a, between, h, hb, rfl⟩
    exact ⟨a, h, hb⟩
  · rintro ⟨a, h, hb⟩
    exact ⟨a, rest, h, hb, rfl⟩

theorem not_reads_reject {e : Rejection} : ¬ (reject e : Reader α).Reads ts a rest := by
  rintro ⟨r, h, -⟩
  cases h

theorem reads_accept_iff {n : Nat} {b : α} :
    (accept n a).Reads ts b rest ↔ a = b ∧ ts.drop n = rest := by
  have hdrop : ts.drop (min n ts.length) = ts.drop n := by
    rcases Nat.le_total n ts.length with h | h
    · rw [Nat.min_eq_left h]
    · rw [Nat.min_eq_right h, List.drop_length, List.drop_eq_nil_of_le h]
  show (∃ r, Except.ok _ = Except.ok r ∧ _) ↔ _
  simp [hdrop]

theorem reads_ahead_iff {us : List Token} : ahead.Reads ts us rest ↔ ts = us ∧ ts = rest := by
  show (∃ r, Except.ok _ = Except.ok r ∧ _) ↔ _
  simp

theorem beginsWith_iff {text : String} {c : Char} (h : text.toList = [c]) :
    beginsWith text ts = true ↔ ∃ joint after, ts = .mark c joint :: after := by
  rw [beginsWith, h]
  cases ts with
  | nil => simp [beginsWithChars]
  | cons t ts =>
    cases t with
    | mark c' joint => simp [beginsWithChars, eq_comm (a := c)]
    | _ => simp [beginsWithChars]

/-- A sign of one character is read also where it is joined to another. -/
theorem reads_sign_iff {text : String} {c : Char} {u : Unit} (h : text.toList = [c]) :
    (sign text).Reads ts u rest ↔ ∃ joint, ts = .mark c joint :: rest := by
  have hlength : text.length = 1 := by rw [← String.length_toList, h, List.length_singleton]
  simp only [sign, reads_bind_iff, reads_ahead_iff]
  constructor
  · rintro ⟨us, between, ⟨rfl, rfl⟩, hrest⟩
    split at hrest
    · next hbegins =>
      obtain ⟨joint, after, rfl⟩ := (beginsWith_iff h).mp hbegins
      rw [skip, reads_accept_iff, hlength] at hrest
      exact ⟨joint, by simpa using hrest⟩
    · exact absurd hrest not_reads_reject
  · rintro ⟨joint, rfl⟩
    refine ⟨_, _, ⟨rfl, rfl⟩, ?_⟩
    rw [if_pos ((beginsWith_iff h).mpr ⟨joint, rest, rfl⟩), skip, reads_accept_iff, hlength]
    exact ⟨rfl, rfl⟩

theorem reads_equals_iff {u : Unit} :
    (sign "=").Reads ts u rest ↔ ∃ joint, ts = .mark '=' joint :: rest := reads_sign_iff rfl

theorem identifier_eq_ok_iff {r : Reading String} : identifier ts = .ok r ↔
    ∃ w rest, isKeyword w = false ∧ ts = .word w :: rest ∧ r = ⟨w, 1, [.word w], none⟩ := by
  constructor
  · intro h
    unfold identifier at h
    split at h
    · next w rest =>
      split at h
      · cases h
      · next hw =>
        cases h
        exact ⟨w, rest, by simpa using hw, rfl, by simp⟩
    · cases h
  · rintro ⟨w, rest, hw, rfl, rfl⟩
    simp [identifier, hw, accept]

theorem reads_identifier_iff {w : String} :
    identifier.Reads ts w rest ↔ isKeyword w = false ∧ ts = .word w :: rest := by
  simp only [Reads, identifier_eq_ok_iff]
  constructor
  · rintro ⟨_, ⟨w, rest, hw, rfl, rfl⟩, rfl, -, rfl⟩
    exact ⟨hw, rfl⟩
  · rintro ⟨hw, rfl⟩
    exact ⟨_, ⟨w, rest, hw, rfl, rfl⟩, rfl, rfl, rfl⟩

theorem reads_stringLiteral_iff {s : String} :
    stringLiteral.Reads ts s rest ↔ ∃ text, ts = .literal (.string s) text :: rest := by
  constructor
  · rintro ⟨r, h, rfl, -, rfl⟩
    unfold stringLiteral at h
    split at h
    · next text _ =>
      cases h
      exact ⟨text, by simp⟩
    · cases h
  · rintro ⟨text, rfl⟩
    exact ⟨⟨s, 1, [.literal (.string s) text], none⟩, by simp [stringLiteral, accept], rfl, rfl, rfl⟩

theorem reads_number64_iff {n : UInt64} : number64.Reads ts n rest ↔
    ∃ text, ts = .literal (.integer n.toNat) text :: rest := by
  constructor
  · rintro ⟨r, h, rfl, -, rfl⟩
    unfold number64 at h
    split at h
    · next m text _ =>
      split at h
      · next hm =>
        cases h
        have hword : (UInt64.ofNat m).toNat = m := UInt64.toNat_ofNat_of_lt hm
        exact ⟨text, by simp only [hword]; simp⟩
      · cases h
    · cases h
    · cases h
  · rintro ⟨text, rfl⟩
    refine ⟨⟨n, 1, [.literal (.integer n.toNat) text], none⟩, ?_, rfl, rfl, rfl⟩
    simp [number64, accept, n.toNat_lt]

/-! What is only looked at leaves the tokens to what comes next. -/

theorem bind_of_nothing_taken (hp : p ts = .ok ⟨a, 0, [], none⟩) : (p >>= f) ts = f a ts := by
  show Reader.bind p f ts = _
  simp only [Reader.bind, hp, List.drop_zero, Nat.zero_add, List.nil_append, Option.none_or]
  cases f a ts <;> rfl

theorem bind_of_one_taken {t : Token} (hp : p (t :: ts) = .ok ⟨a, 1, [t], none⟩)
    (hf : f a ts = .ok ⟨b, 0, [], none⟩) : (p >>= f) (t :: ts) = .ok ⟨b, 1, [t], none⟩ := by
  show Reader.bind p f (t :: ts) = _
  simp only [Reader.bind, hp, List.drop_succ_cons, List.drop_zero, hf]
  rfl

theorem ahead_bind {f : List Token → Reader β} : (ahead >>= f) ts = f ts ts :=
  bind_of_nothing_taken rfl

theorem sign?_of_not_beginsWith {text : String} (h : beginsWith text ts = false) :
    sign? text ts = .ok ⟨false, 0, [], none⟩ := by
  rw [sign?, ahead_bind, h]
  rfl

theorem word?_of_not_beginsWithWord {text : String} (h : beginsWithWord text ts = false) :
    word? text ts = .ok ⟨false, 0, [], none⟩ := by
  rw [word?, ahead_bind, h]
  rfl

theorem many_of_no_more {more : List Token → Bool} (h : more ts = false) :
    many more p ts = .ok ⟨[], 0, [], none⟩ := by
  show repeatAt _ p _ (ts.length + 1) ts = _
  rw [repeatAt, ahead_bind, h]
  rfl

theorem not_beginsWithWord_of_mem {w k : String} (hw : isKeyword w = false) (hk : k ∈ keywords) :
    beginsWithWord k (.word w :: ts) = false := by
  simp only [beginsWithWord, beq_eq_false_iff_ne]
  rintro rfl
  simp [isKeyword, hk] at hw

theorem not_beginsWithAnyWord_of_subset {w : String} {ks : List String} (hw : isKeyword w = false)
    (hks : ∀ k ∈ ks, k ∈ keywords) : beginsWithAnyWord ks (.word w :: ts) = false := by
  simp only [beginsWithAnyWord, List.any_eq_false, Bool.not_eq_true]
  exact fun k hk => not_beginsWithWord_of_mem hw (hks k hk)

end

-- ---------------------------------------------------------------------------
-- Arguments
-- ---------------------------------------------------------------------------

/-- Arguments one after the other, each perhaps with a comma behind it. What an argument is says
`IsArgument`: which tokens may begin with it, what it says, and what is behind it. -/
inductive Listing (IsArgument : List Token → α → List Token → Prop) : List Token → List α → Prop
  | nil : Listing IsArgument [] []
  | cons {ts rest : List Token} {a : α} {as : List α} (h : IsArgument ts a rest)
      (hrest : Listing IsArgument rest as) : Listing IsArgument ts (a :: as)
  | comma {ts rest : List Token} {joint : Bool} {a : α} {as : List α}
      (h : IsArgument ts a (.mark ',' joint :: rest)) (hrest : Listing IsArgument rest as) :
      Listing IsArgument ts (a :: as)

def Named (value : String → Reader α) (ts : List Token) (a : α) (rest : List Token) : Prop :=
  ∃ name behind, isKeyword name = false ∧ ts = .word name :: behind ∧
    (value name).Reads behind a rest

variable {value : String → Reader α} {ts : List Token} {as : List α}

theorem except_bind_eq_ok_iff {ε α β : Type} {x : Except ε α} {f : α → Except ε β} {b : β} :
    x >>= f = .ok b ↔ ∃ a, x = .ok a ∧ f a = .ok b := by
  cases x <;> simp [bind, Except.bind]

theorem argumentsOf_cons_eq_ok_iff {t : Token} :
    argumentsOf value (t :: ts) = .ok (as, none) ↔ ∃ a behind as', Named value (t :: ts) a behind ∧
      argumentsOf value (dropComma behind) = .ok (as', none) ∧ a :: as' = as := by
  rw [argumentsOf]
  simp only [except_bind_eq_ok_iff]
  constructor
  · rintro ⟨name, hname, r, hr, ⟨as', leftover⟩, hrest, h⟩
    obtain ⟨w, rest, hw, heq, rfl⟩ := identifier_eq_ok_iff.mp hname
    cases heq
    have hor : r.value :: as' = as ∧ r.leftover = none ∧ leftover = none := by
      simpa [pure, Except.pure] using h
    obtain ⟨rfl, hleftover, rfl⟩ := hor
    exact ⟨_, _, as', ⟨w, ts, hw, rfl, r, hr, rfl, hleftover, rfl⟩, hrest, rfl⟩
  · rintro ⟨_, _, as', ⟨w, behind, hw, heq, r, hr, rfl, hleftover, rfl⟩, hrest, rfl⟩
    cases heq
    refine ⟨⟨w, 1, [.word w], none⟩, by simp [identifier, hw, accept], r, hr, _, hrest, ?_⟩
    simp [hleftover, pure, Except.pure]

theorem beginsWith_comma_iff :
    beginsWith "," ts = true ↔ ∃ joint rest, ts = .mark ',' joint :: rest :=
  beginsWith_iff rfl

theorem dropComma_comma (joint : Bool) (ts : List Token) :
    dropComma (.mark ',' joint :: ts) = ts := by
  rw [dropComma, if_pos (beginsWith_comma_iff.mpr ⟨joint, ts, rfl⟩), List.drop_one, List.tail_cons]

theorem dropComma_word (w : String) (ts : List Token) :
    dropComma (.word w :: ts) = .word w :: ts := by
  rw [dropComma, if_neg]
  simp [beginsWith_comma_iff]

theorem Listing.dropComma_eq {IsArgument : List Token → α → List Token → Prop}
    (hword : ∀ {ts a rest}, IsArgument ts a rest → ∃ w behind, ts = .word w :: behind)
    (h : Listing IsArgument ts as) : dropComma ts = ts := by
  cases h with
  | nil => rfl
  | cons h hrest =>
    obtain ⟨w, behind, rfl⟩ := hword h
    exact dropComma_word w behind
  | comma h hrest =>
    obtain ⟨w, behind, rfl⟩ := hword h
    exact dropComma_word w behind

theorem Named.exists_word {a : α} {rest : List Token} (h : Named value ts a rest) :
    ∃ w behind, ts = .word w :: behind := by
  obtain ⟨w, behind, -, rfl, -⟩ := h
  exact ⟨w, behind, rfl⟩

theorem argumentsOf_eq_ok_iff :
    argumentsOf value ts = .ok (as, none) ↔ Listing (Named value) ts as := by
  constructor
  · intro h
    -- The reader drops a comma before it goes on, and whether one was there picks the constructor.
    induction ts using argumentsOf.induct generalizing as with
    | case1 =>
      rw [argumentsOf] at h
      cases h
      exact .nil
    | case2 t ts ih =>
      obtain ⟨a, behind, as', hnamed, hrest, rfl⟩ := argumentsOf_cons_eq_ok_iff.mp h
      have hlisting : Listing (Named value) (dropComma behind) as' := by
        obtain ⟨w, behind', -, heq, r, -, -, -, rfl⟩ := hnamed
        cases heq
        exact ih r hrest
      by_cases hcomma : beginsWith "," behind = true
      · obtain ⟨joint, after, rfl⟩ := beginsWith_comma_iff.mp hcomma
        rw [dropComma_comma] at hlisting
        exact .comma hnamed hlisting
      · rw [dropComma, if_neg hcomma] at hlisting
        exact .cons hnamed hlisting
  · intro h
    induction h with
    | nil => rw [argumentsOf]
    | cons h hrest ih =>
      obtain ⟨w, behind, rfl⟩ := h.exists_word
      have hcomma := hrest.dropComma_eq Named.exists_word
      exact argumentsOf_cons_eq_ok_iff.mpr ⟨_, _, _, h, hcomma.symm ▸ ih, rfl⟩
    | comma h hrest ih =>
      obtain ⟨w, behind, rfl⟩ := h.exists_word
      exact argumentsOf_cons_eq_ok_iff.mpr ⟨_, _, _, h, (dropComma_comma _ _).symm ▸ ih, rfl⟩

end Reader

def Attribute.Has (IsArgument : List Token → α → List Token → Prop) (a : Attribute)
    (as : List α) : Prop :=
  ∃ ts, a.form = .arguments ts ∧ Reader.Listing IsArgument ts as

theorem Attribute.arguments_eq_ok_iff {value : String → Reader α} {a : Attribute} {as : List α} :
    a.arguments value = .ok as ↔ a.Has (Reader.Named value) as := by
  simp only [Attribute.Has, ← Reader.argumentsOf_eq_ok_iff]
  obtain ⟨path, _ | ts | _⟩ := a
  · simp [Attribute.arguments]
  · simp only [Attribute.arguments, AttributeForm.arguments.injEq, exists_eq_left',
      Reader.except_bind_eq_ok_iff]
    constructor
    · rintro ⟨⟨as', leftover⟩, h, heq⟩
      cases leftover with
      | none =>
        cases heq
        exact h
      | some d => cases heq
    · intro h
      exact ⟨_, h, rfl⟩
  · simp [Attribute.arguments]

-- ---------------------------------------------------------------------------
-- Several attributes
-- ---------------------------------------------------------------------------

theorem mapM_eq_ok_iff {ε : Type} {f : α → Except ε β} {l : List α} {bs : List β} :
    l.mapM f = .ok bs ↔ List.Forall₂ (fun a b => f a = .ok b) l bs := by
  induction l generalizing bs with
  | nil => simp [pure, Except.pure, eq_comm]
  | cons a l ih =>
    simp only [List.mapM_cons, Reader.except_bind_eq_ok_iff, ih, List.forall₂_cons_left_iff]
    constructor
    · rintro ⟨b, hb, cs, hcs, h⟩
      cases h
      exact ⟨b, cs, hb, hcs, rfl⟩
    · rintro ⟨b, cs, hb, hcs, rfl⟩
      exact ⟨b, hb, cs, hcs, rfl⟩

theorem mapM_eq_error_iff {ε : Type} {f : α → Except ε β} {l : List α} {e : ε} :
    l.mapM f = .error e ↔ ∃ before a after, l = before ++ a :: after ∧
      (∀ b ∈ before, ∃ c, f b = .ok c) ∧ f a = .error e := by
  induction l with
  | nil => simp [pure, Except.pure]
  | cons a l ih =>
    rw [List.mapM_cons]
    cases hf : f a with
    | error e' =>
      constructor
      · intro h
        cases h
        exact ⟨[], a, l, rfl, by simp, hf⟩
      · rintro ⟨_ | ⟨b, before⟩, a', after, heq, hbefore, hlast⟩
        · cases heq
          cases hf.symm.trans hlast
          rfl
        · cases heq
          obtain ⟨c, hc⟩ := hbefore _ (List.mem_cons_self ..)
          cases hf.symm.trans hc
    | ok b =>
      -- What comes after a success can only fail where the rest does.
      have hstep : (do let b ← Except.ok b; let bs ← l.mapM f; pure (b :: bs) : Except ε (List β)) =
          .error e ↔ l.mapM f = .error e := by
        cases l.mapM f <;> simp [bind, Except.bind, pure, Except.pure]
      rw [hstep, ih]
      constructor
      · rintro ⟨before, a', after, rfl, hbefore, hlast⟩
        exact ⟨a :: before, a', after, rfl, List.forall_mem_cons.mpr ⟨⟨b, hf⟩, hbefore⟩, hlast⟩
      · rintro ⟨_ | ⟨b', before⟩, a', after, heq, hbefore, hlast⟩
        · cases heq
          cases hf.symm.trans hlast
        · cases heq
          exact ⟨before, a', after, rfl, (List.forall_mem_cons.mp hbefore).2, hlast⟩

theorem exists_of_forall₂ {R : α → β → Prop} {l : List α} {bs : List β} (h : List.Forall₂ R l bs)
    {a : α} (ha : a ∈ l) : ∃ b, R a b := by
  induction h with
  | nil => cases ha
  | cons hab h ih =>
    rcases List.mem_cons.mp ha with rfl | ha
    · exact ⟨_, hab⟩
    · exact ih ha

theorem exists_forall₂ {γ : Type} {R : α → β → Prop} {S : α → γ → Prop} {l : List α} {bs : List β}
    (h : List.Forall₂ R l bs) (hR : ∀ a b, R a b → ∃ c, S a c) : ∃ cs, List.Forall₂ S l cs := by
  induction h with
  | nil => exact ⟨[], .nil⟩
  | cons hab h ih =>
    obtain ⟨c, hc⟩ := hR _ _ hab
    obtain ⟨cs, hcs⟩ := ih
    exact ⟨c :: cs, .cons hc hcs⟩

namespace Attribute

variable {σ : Type} {value : String → Reader α} {attributes : List Attribute}

def AllHave (IsArgument : List Token → α → List Token → Prop) (attributes : List Attribute)
    (as : List α) : Prop :=
  ∃ parts, List.Forall₂ (Attribute.Has IsArgument) attributes parts ∧ parts.flatten = as

/-- The arguments of the attributes, read one attribute after the other; the first that cannot be
read is rejected. -/
def argumentsOfAll (value : String → Reader α) (attributes : List Attribute) :
    Except Rejection (List α) := do
  return (← attributes.mapM (·.arguments value)).flatten

/-- Where it does not matter how arguments are split, neither does it which attribute has them. -/
theorem foldlM_arguments {add : σ → List α → σ} (hnil : ∀ s, add s [] = s)
    (happend : ∀ s as bs, add (add s as) bs = add s (as ++ bs)) (s : σ) :
    attributes.foldlM (fun s a => do return add s (← a.arguments value)) s =
      (argumentsOfAll value attributes).map (add s) := by
  induction attributes generalizing s with
  | nil => exact congrArg Except.ok (hnil s).symm
  | cons a attributes ih =>
    rw [argumentsOfAll, List.foldlM_cons, List.mapM_cons]
    cases a.arguments value with
    | error e => rfl
    | ok as =>
      show attributes.foldlM _ (add s as) = _
      rw [ih, argumentsOfAll]
      cases attributes.mapM (·.arguments value) with
      | error e => rfl
      | ok parts => exact congrArg Except.ok (happend s as parts.flatten)

theorem argumentsOfAll_eq_ok_iff {as : List α} :
    argumentsOfAll value attributes = .ok as ↔ AllHave (Reader.Named value) attributes as := by
  simp only [AllHave, argumentsOfAll, Reader.except_bind_eq_ok_iff, mapM_eq_ok_iff,
    arguments_eq_ok_iff, pure, Except.pure, Except.ok.injEq]

theorem argumentsOfAll_eq_error_iff {e : Rejection} : argumentsOfAll value attributes = .error e ↔
    ∃ before a after, attributes = before ++ a :: after ∧
      (∀ b ∈ before, ∃ bs, b.Has (Reader.Named value) bs) ∧ a.arguments value = .error e := by
  have hstep : argumentsOfAll value attributes = .error e ↔
      attributes.mapM (·.arguments value) = .error e := by
    rw [argumentsOfAll]
    cases attributes.mapM (·.arguments value) <;> simp [bind, Except.bind, pure, Except.pure]
  simp only [hstep, mapM_eq_error_iff, arguments_eq_ok_iff]

theorem exists_argumentsOfAll_eq_error_iff : (∃ e, argumentsOfAll value attributes = .error e) ↔
    ∃ a ∈ attributes, ∀ as, ¬ a.Has (Reader.Named value) as := by
  constructor
  · rintro ⟨e, h⟩
    obtain ⟨before, a, after, rfl, -, hread⟩ := argumentsOfAll_eq_error_iff.mp h
    refine ⟨a, List.mem_append_right _ (List.mem_cons_self ..), fun as has => ?_⟩
    rw [arguments_eq_ok_iff.mpr has] at hread
    cases hread
  · rintro ⟨a, ha, hnot⟩
    cases h : argumentsOfAll value attributes with
    | error e => exact ⟨e, rfl⟩
    | ok as =>
      obtain ⟨parts, hparts, -⟩ := argumentsOfAll_eq_ok_iff.mp h
      obtain ⟨part, has⟩ := exists_of_forall₂ hparts ha
      exact absurd has (hnot part)

end Attribute

end Mediator.Declaration
