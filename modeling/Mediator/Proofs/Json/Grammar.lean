import Mathlib.Data.List.Basic
import Mathlib.Data.Option.Basic
import Mediator.Json.Record

/-!
# The grammar of JSON

`Spells cs d` is the grammar: these characters are the value `d`. Blanks may stand around every
value and every punctuation mark, characters of strings may be escaped, and numbers may have any
size. The reader takes a text of the grammar for its value, and reads it to its end
(`IsText.ofText_eq`).
-/

namespace Mediator.Json

open Draft

variable {cs rest : List Char}

-- ---------------------------------------------------------------------------
-- Blanks
-- ---------------------------------------------------------------------------

def Blank (cs : List Char) : Prop := ∀ c ∈ cs, isBlank c = true

theorem skipBlanks_cons {c : Char} {cs : List Char} (h : isBlank c = false) :
    skipBlanks (c :: cs) = c :: cs := by
  simp [skipBlanks, h]

theorem Blank.skipBlanks_append {b : List Char} (h : Blank b) (cs : List Char) :
    skipBlanks (b ++ cs) = skipBlanks cs := List.dropWhile_append_of_pos h

theorem Blank.skipBlanks_append_cons {b : List Char} {c : Char} (h : Blank b)
    (hc : isBlank c = false) (cs : List Char) : skipBlanks (b ++ c :: cs) = c :: cs :=
  (h.skipBlanks_append _).trans (skipBlanks_cons hc)

theorem Blank.skipBlanks_eq {b : List Char} (h : Blank b) : skipBlanks b = [] := by
  rw [← List.append_nil b, h.skipBlanks_append]
  rfl

theorem Blank.value_append {b : List Char} (h : Blank b) (fuel : Nat) (cs : List Char) :
    value (fuel + 1) (b ++ cs) = value (fuel + 1) cs := by
  simp only [value, h.skipBlanks_append]

-- ---------------------------------------------------------------------------
-- Strings
-- ---------------------------------------------------------------------------

def letterEscapes : List (Char × Char) := [
  ('"', '"'), ('\\', '\\'), ('/', '/'), ('b', '\x08'), ('f', '\x0c'), ('n', '\n'), ('r', '\r'),
  ('t', '\t')]

inductive SpellsUnit : List Char → Unit16 → Prop
  | plain {c : Char} (hcontrol : ¬c.toNat < 32) (hquote : c ≠ '"') (hback : c ≠ '\\') :
    SpellsUnit [c] (.char c)
  | letter {c u : Char} (h : (c, u) ∈ letterEscapes) : SpellsUnit ['\\', c] (.char u)
  | code {c₁ c₂ c₃ c₄ : Char} {n₁ n₂ n₃ n₄ : Nat} (h₁ : hexValue? c₁ = some n₁)
    (h₂ : hexValue? c₂ = some n₂) (h₃ : hexValue? c₃ = some n₃) (h₄ : hexValue? c₄ = some n₄) :
    SpellsUnit ['\\', 'u', c₁, c₂, c₃, c₄] (.code (((n₁ * 16 + n₂) * 16 + n₃) * 16 + n₄))

/-- What stands between the quotes of a string. -/
inductive SpellsUnits : List Char → List Unit16 → Prop
  | nil : SpellsUnits [] []
  | cons {cs cs' : List Char} {u : Unit16} {us : List Unit16} (h : SpellsUnit cs u)
    (hrest : SpellsUnits cs' us) : SpellsUnits (cs ++ cs') (u :: us)

/-- The string of these units, unless half of a pair stands alone among them. -/
def stringOf? (us : List Unit16) : Option String := (textOf? us).map String.ofList

theorem scanUnits_plain {c : Char} (h : ¬c.toNat < 32) (hquote : c ≠ '"') (hback : c ≠ '\\') :
    scanUnits (c :: rest) = (scanUnits rest).map fun (us, rest) => (.char c :: us, rest) := by
  rw [scanUnits.eq_def]
  split
  · next heq => exact absurd (List.cons.inj heq).1 hquote
  · next heq => exact absurd (List.cons.inj heq).1 hback
  · next heq => exact absurd (List.cons.inj heq).1 hback
  · next heq =>
    cases heq
    exact if_neg h
  · next heq => cases heq

theorem SpellsUnit.scanUnits {u : Unit16} (h : SpellsUnit cs u) (rest : List Char) :
    Draft.scanUnits (cs ++ rest) =
      (Draft.scanUnits rest).map fun (us, rest) => (u :: us, rest) := by
  cases h with
  | plain hcontrol hquote hback => exact scanUnits_plain hcontrol hquote hback
  | letter h =>
    simp only [letterEscapes, List.mem_cons, Prod.mk.injEq, List.not_mem_nil, or_false] at h
    rcases h with ⟨rfl, rfl⟩ | ⟨rfl, rfl⟩ | ⟨rfl, rfl⟩ | ⟨rfl, rfl⟩ | ⟨rfl, rfl⟩ | ⟨rfl, rfl⟩ |
      ⟨rfl, rfl⟩ | ⟨rfl, rfl⟩ <;> rfl
  | code h₁ h₂ h₃ h₄ =>
    simp only [List.cons_append, List.nil_append]
    rw [Draft.scanUnits, h₁, h₂, h₃, h₄]

theorem SpellsUnits.scanString {us : List Unit16} (h : SpellsUnits cs us) (rest : List Char) :
    Draft.scanString (cs ++ '"' :: rest) = some (stringOf? us, rest) := by
  have hscan : Draft.scanUnits (cs ++ '"' :: rest) = some (us, rest) := by
    induction h with
    | nil => rfl
    | cons h _ ih =>
      rw [List.append_assoc, h.scanUnits, ih]
      rfl
  rw [Draft.scanString, hscan]
  rfl

-- ---------------------------------------------------------------------------
-- Numbers
-- ---------------------------------------------------------------------------

structure Digits (cs : List Char) : Prop where
  ne_nil : cs ≠ []
  isDigit : ∀ c ∈ cs, c.isDigit = true

inductive SpellsFraction : List Char → Option (List Char) → Prop
  | absent : SpellsFraction [] none
  | given {digits : List Char} (h : Digits digits) : SpellsFraction ('.' :: digits) (some digits)

inductive SpellsExponent : List Char → Option (Bool × List Char) → Prop
  | absent : SpellsExponent [] none
  | given {letter : Char} {sign digits : List Char} {down : Bool}
    (hletter : letter = 'e' ∨ letter = 'E')
    (hsign : (sign, down) ∈ [([], false), (['+'], false), (['-'], true)]) (h : Digits digits) :
    SpellsExponent (letter :: (sign ++ digits)) (some (down, digits))

inductive SpellsNumber : List Char → Lexeme → Prop
  | mk {negative : Bool} {whole cs cs' : List Char} {fraction : Option (List Char)}
    {exponent : Option (Bool × List Char)} (hwhole : Digits whole)
    (hzero : whole.head? = some '0' → whole.length = 1) (hfraction : SpellsFraction cs fraction)
    (hexponent : SpellsExponent cs' exponent) :
    SpellsNumber ((if negative then ['-'] else []) ++ (whole ++ (cs ++ cs')))
      ⟨negative, whole, fraction, exponent⟩

/-- Nothing that would prolong a number. -/
def Apart (rest : List Char) : Prop :=
  ∀ c cs, rest = c :: cs → c.isDigit = false ∧ c ≠ '.' ∧ c ≠ 'e' ∧ c ≠ 'E'

theorem apart_cons {c : Char} {cs : List Char}
    (h : (c.isDigit || c == '.' || c == 'e' || c == 'E') = false) : Apart (c :: cs) := by
  intro c' cs' heq
  cases heq
  simpa [and_assoc] using h

theorem Blank.apart {b : List Char} (h : Blank b) (hrest : Apart rest) : Apart (b ++ rest) := by
  cases b with
  | nil => exact hrest
  | cons c b =>
    have hc := h c List.mem_cons_self
    simp only [isBlank, Bool.or_eq_true, beq_iff_eq] at hc
    refine apart_cons ?_
    rcases hc with ((rfl | rfl) | rfl) | rfl <;> rfl

def Ends (rest : List Char) : Prop := ∀ c cs, rest = c :: cs → c.isDigit = false

theorem Digits.not_isEmpty {digits : List Char} (h : Digits digits) :
    (!digits.isEmpty) = true := by
  simpa using h.ne_nil

theorem Digits.takeWhile {digits : List Char} (h : Digits digits) (hrest : Ends rest) :
    (digits ++ rest).takeWhile Char.isDigit = digits := by
  rw [List.takeWhile_append_of_pos h.isDigit]
  cases rest with
  | nil => simp
  | cons c cs => simp [hrest c cs rfl]

theorem Digits.dropWhile {digits : List Char} (h : Digits digits) (hrest : Ends rest) :
    (digits ++ rest).dropWhile Char.isDigit = rest := by
  rw [List.dropWhile_append_of_pos h.isDigit]
  cases rest with
  | nil => rfl
  | cons c cs => simp [hrest c cs rfl]

theorem Digits.exists_cons {digits : List Char} (h : Digits digits) :
    ∃ d ds, digits = d :: ds ∧ d.isDigit = true := by
  obtain ⟨d, ds, rfl⟩ := List.exists_cons_of_ne_nil h.ne_nil
  exact ⟨d, ds, rfl, h.isDigit d List.mem_cons_self⟩

theorem Apart.ends (h : Apart rest) : Ends rest := fun c cs heq => (h c cs heq).1

theorem SpellsExponent.head {exponent : Option (Bool × List Char)}
    (h : SpellsExponent cs exponent) (hrest : Apart rest) {c : Char} {tail : List Char}
    (heq : cs ++ rest = c :: tail) : c.isDigit = false ∧ c ≠ '.' := by
  cases h with
  | absent => exact ⟨(hrest c tail heq).1, (hrest c tail heq).2.1⟩
  | given hletter =>
    cases heq
    rcases hletter with rfl | rfl <;> decide

theorem SpellsFraction.ends {fraction : Option (List Char)} (h : SpellsFraction cs fraction)
    (hrest : Ends rest) : Ends (cs ++ rest) := by
  cases h with
  | absent => exact hrest
  | given _ =>
    rintro c t heq
    cases heq
    rfl

namespace Lexeme

def scanSign : List Char → Bool × List Char
  | '-' :: rest => (true, rest)
  | '+' :: rest => (false, rest)
  | rest => (false, rest)

def scanExponent (number : Option (Bool × List Char) → Lexeme) :
    List Char → Option (Lexeme × List Char)
  | c :: rest =>
    if c == 'e' || c == 'E' then do
      let (down, rest) := scanSign rest
      let digits := rest.takeWhile Char.isDigit
      guard !digits.isEmpty
      return (number (some (down, digits)), rest.dropWhile Char.isDigit)
    else return (number none, c :: rest)
  | [] => return (number none, [])

theorem scanSign_append {sign digits : List Char} {down : Bool}
    (hsign : (sign, down) ∈ [([], false), (['+'], false), (['-'], true)]) (h : Digits digits)
    (rest : List Char) : scanSign (sign ++ digits ++ rest) = (down, digits ++ rest) := by
  simp only [List.mem_cons, Prod.mk.injEq, List.not_mem_nil, or_false] at hsign
  rcases hsign with ⟨rfl, rfl⟩ | ⟨rfl, rfl⟩ | ⟨rfl, rfl⟩
  · obtain ⟨d, ds, rfl, hd⟩ := h.exists_cons
    show scanSign (d :: (ds ++ rest)) = _
    unfold scanSign
    split
    · next heq => cases heq; cases hd
    · next heq => cases heq; cases hd
    · rfl
  · rfl
  · rfl

theorem scanExponent_append {exponent : Option (Bool × List Char)} (h : SpellsExponent cs exponent)
    (hrest : Apart rest) (number : Option (Bool × List Char) → Lexeme) :
    scanExponent number (cs ++ rest) = some (number exponent, rest) := by
  cases h with
  | absent =>
    cases rest with
    | nil => rfl
    | cons c rest =>
      obtain ⟨-, -, he, hE⟩ := hrest c rest rfl
      exact if_neg (by simp [he, hE])
  | given hletter hsign h =>
    rw [List.cons_append, scanExponent, if_pos (by simpa using hletter), scanSign_append hsign h]
    dsimp only
    rw [h.takeWhile hrest.ends, h.dropWhile hrest.ends, h.not_isEmpty]
    rfl

theorem scan?_append {cs : List Char} {l : Lexeme} (h : SpellsNumber cs l) (hrest : Apart rest) :
    scan? (cs ++ rest) = some (l, rest) := by
  obtain @⟨negative, whole, cs, cs', fraction, exponent, hwhole, hzero, hfraction, hexponent⟩ := h
  have hends := hfraction.ends fun c tail heq => (hexponent.head hrest heq).1
  have hguard : (whole.head? != some '0' || whole.length == 1) = true := by
    by_cases h : whole.head? = some '0'
    · simp [hzero h]
    · simp [h]
  simp only [List.append_assoc]
  unfold scan?
  split
  rename_i sign tail hsign
  obtain ⟨rfl, rfl⟩ : sign = negative ∧ tail = whole ++ (cs ++ (cs' ++ rest)) := by
    cases negative with
    | true => exact ⟨(congrArg Prod.fst hsign).symm, (congrArg Prod.snd hsign).symm⟩
    | false =>
      obtain ⟨d, ds, rfl, hd⟩ := hwhole.exists_cons
      split at hsign
      · next heq =>
        cases heq
        cases hd
      · exact ⟨(congrArg Prod.fst hsign).symm, (congrArg Prod.snd hsign).symm⟩
  dsimp only
  rw [hwhole.takeWhile hends, hwhole.dropWhile hends, hwhole.not_isEmpty, hguard]
  have hlast (fraction : Option (List Char)) :=
    scanExponent_append hexponent hrest fun e => ⟨sign, whole, fraction, e⟩
  cases hfraction with
  | absent =>
    rw [List.nil_append]
    split
    · next heq => exact absurd rfl (hexponent.head hrest heq).2
    · exact hlast none
  | given h =>
    have hends' : Ends (cs' ++ rest) := fun c tail heq => (hexponent.head hrest heq).1
    simp only [List.cons_append, h.takeWhile hends', h.dropWhile hends', h.not_isEmpty]
    exact hlast _

end Lexeme

-- ---------------------------------------------------------------------------
-- Values
-- ---------------------------------------------------------------------------

/-- An item of an array, or what a member of an object has for its value. -/
structure Item where
  before : List Char
  text : List Char
  after : List Char
  draft : Draft

structure Member where
  before : List Char
  key : List Char
  units : List Unit16
  gap : List Char
  item : Item

def Item.chars (i : Item) : List Char := i.before ++ (i.text ++ i.after)

def Member.inner (m : Member) : List Char := m.key ++ '"' :: (m.gap ++ ':' :: m.item.chars)

def Member.chars (m : Member) : List Char := m.before ++ '"' :: m.inner

def Member.pair (m : Member) : Option String × Draft := (stringOf? m.units, m.item.draft)

/-- The characters are this value, from its first to its last one. -/
inductive Spells : List Char → Draft → Prop
  | null : Spells ['n', 'u', 'l', 'l'] .null
  | isTrue : Spells ['t', 'r', 'u', 'e'] (.bool true)
  | isFalse : Spells ['f', 'a', 'l', 's', 'e'] (.bool false)
  | number {cs : List Char} {l : Lexeme} (h : SpellsNumber cs l) : Spells cs (.number l.numeral?)
  | string {cs : List Char} {us : List Unit16} (h : SpellsUnits cs us) :
    Spells ('"' :: (cs ++ ['"'])) (.string (stringOf? us))
  | noItems {b : List Char} (hb : Blank b) : Spells ('[' :: (b ++ [']'])) (.array [] true)
  | items {i : Item} {is : List Item} (hblank : ∀ j ∈ i :: is, Blank j.before ∧ Blank j.after)
    (h : ∀ j ∈ i :: is, Spells j.text j.draft) :
    Spells ('[' :: (i.chars ++ ((is.flatMap fun j => ',' :: j.chars) ++ [']'])))
      (.array ((i :: is).map Item.draft) true)
  | noMembers {b : List Char} (hb : Blank b) : Spells ('\x7b' :: (b ++ ['\x7d'])) (.object [] none)
  | members {m : Member} {ms : List Member}
    (hkeys : ∀ n ∈ m :: ms, SpellsUnits n.key n.units)
    (hblank : ∀ n ∈ m :: ms,
      Blank n.before ∧ Blank n.gap ∧ Blank n.item.before ∧ Blank n.item.after)
    (h : ∀ n ∈ m :: ms, Spells n.item.text n.item.draft) :
    Spells ('\x7b' :: (m.chars ++ ((ms.flatMap fun n => ',' :: n.chars) ++ ['\x7d'])))
      (.object ((m :: ms).map Member.pair) none)

theorem SpellsNumber.exists_cons {l : Lexeme} (h : SpellsNumber cs l) :
    ∃ c tail, cs = c :: tail ∧ (c.isDigit || c == '-') = true := by
  obtain @⟨negative, whole, _, _, _, _, hwhole, _, _, _⟩ := h
  cases negative with
  | true => exact ⟨'-', _, rfl, rfl⟩
  | false =>
    obtain ⟨d, ds, rfl, hd⟩ := hwhole.exists_cons
    exact ⟨d, _, rfl, by simp [hd]⟩

theorem isBlank_of_numeric {c : Char} (h : (c.isDigit || c == '-') = true) :
    isBlank c = false := by
  by_contra hblank
  simp only [isBlank, Bool.not_eq_false, Bool.or_eq_true, beq_iff_eq] at hblank
  rcases hblank with ((rfl | rfl) | rfl) | rfl <;> cases h

theorem Spells.exists_cons {d : Draft} (h : Spells cs d) :
    ∃ c tail, cs = c :: tail ∧ isBlank c = false ∧ c ≠ ']' := by
  cases h with
  | number h =>
    obtain ⟨c, tail, rfl, hc⟩ := h.exists_cons
    refine ⟨c, tail, rfl, isBlank_of_numeric hc, ?_⟩
    rintro rfl
    cases hc
  | _ => exact ⟨_, _, rfl, by decide, by decide⟩

/-- The value is read from the characters, whatever comes apart from them. Two units of fuel for a
character are enough: an item takes one for itself and one for its place in the list, and has at
least one character. -/
def ReadsAs (cs : List Char) (d : Draft) : Prop :=
  ∀ (fuel : Nat) (rest : List Char), 2 * cs.length ≤ fuel → Apart rest →
    value fuel (cs ++ rest) = (d, some rest)

theorem readsAs_of_succ {c : Char} {d : Draft}
    (h : ∀ fuel rest, 2 * cs.length ≤ fuel → Apart rest →
      value (fuel + 1) (c :: (cs ++ rest)) = (d, some rest)) : ReadsAs (c :: cs) d := by
  intro fuel rest hfuel hrest
  rw [List.length_cons] at hfuel
  obtain _ | fuel := fuel
  · cases hfuel
  · exact h fuel rest (by omega) hrest

theorem SpellsNumber.readsAs {l : Lexeme} (h : SpellsNumber cs l) :
    ReadsAs cs (.number l.numeral?) := by
  obtain ⟨c, tail, rfl, hc⟩ := h.exists_cons
  refine readsAs_of_succ fun fuel rest _ hrest => ?_
  have hscan := Lexeme.scan?_append h hrest
  rw [List.cons_append] at hscan
  rw [value, skipBlanks_cons (isBlank_of_numeric hc)]
  -- Only the last case is about numbers; all others begin with a character of their own.
  split
  case h_7 => simp only [hscan]
  all_goals
    next heq =>
      obtain rfl := (List.cons.inj heq).1
      cases hc

theorem SpellsUnits.readsAs {us : List Unit16} (h : SpellsUnits cs us) :
    ReadsAs ('"' :: (cs ++ ['"'])) (.string (stringOf? us)) := by
  refine readsAs_of_succ fun fuel rest _ _ => ?_
  rw [List.append_assoc, List.singleton_append]
  simp only [value, skipBlanks_cons (c := '"') rfl, h.scanString]

-- ---------------------------------------------------------------------------
-- Arrays
-- ---------------------------------------------------------------------------

theorem Item.value_chars {i : Item} (fuel : Nat) (rest : List Char)
    (hblank : Blank i.before ∧ Blank i.after) (hi : ReadsAs i.text i.draft)
    (hfuel : 2 * i.text.length ≤ fuel + 1) (hrest : Apart rest) :
    value (fuel + 1) (i.chars ++ rest) = (i.draft, some (i.after ++ rest)) := by
  rw [chars, List.append_assoc, List.append_assoc, hblank.1.value_append]
  exact hi _ _ hfuel (hblank.2.apart hrest)

theorem items_chars (rest : List Char) {i : Item} {is : List Item}
    (hblank : ∀ j ∈ i :: is, Blank j.before ∧ Blank j.after)
    (hread : ∀ j ∈ i :: is, ReadsAs j.text j.draft) {fuel : Nat}
    (hfuel : 2 * (i.chars ++ is.flatMap fun j => ',' :: j.chars).length ≤ fuel) :
    Draft.items (fuel + 2) (i.chars ++ ((is.flatMap fun j => ',' :: j.chars) ++ ']' :: rest)) =
      ((i :: is).map Item.draft, some rest) := by
  induction is generalizing i fuel with
  | nil =>
    obtain ⟨hblank, -⟩ := List.forall_mem_cons.mp hblank
    obtain ⟨hread, -⟩ := List.forall_mem_cons.mp hread
    have hvalue := Item.value_chars fuel (']' :: rest) hblank hread
      (by simp [Item.chars] at hfuel; omega) (apart_cons rfl)
    rw [List.flatMap_nil, List.nil_append, Draft.items, hvalue]
    simp only [hblank.2.skipBlanks_append_cons (c := ']') rfl]
    rfl
  | cons j is ih =>
    obtain ⟨hblank, hblanks⟩ := List.forall_mem_cons.mp hblank
    obtain ⟨hread, hreads⟩ := List.forall_mem_cons.mp hread
    rw [List.flatMap_cons, List.cons_append, List.length_append, List.length_cons] at hfuel
    obtain _ | fuel := fuel
    · omega
    have hvalue := fun tail => Item.value_chars (fuel + 1) (',' :: tail) hblank hread
      (by simp [Item.chars] at hfuel; omega) (apart_cons rfl)
    have hmore := ih hblanks hreads (by omega : _ ≤ fuel)
    simp only [List.flatMap_cons, List.cons_append, List.append_assoc]
    rw [Draft.items, hvalue]
    simp only [hblank.2.skipBlanks_append_cons (c := ',') rfl, hmore]
    rfl

theorem Blank.items_append {b : List Char} (h : Blank b) (fuel : Nat) (cs : List Char) :
    Draft.items (fuel + 2) (b ++ cs) = Draft.items (fuel + 2) cs := by
  simp only [Draft.items, h.value_append]

/-- The blanks before the first item are skipped twice. -/
theorem value_array {i : Item} (hblank : Blank i.before) (hi : Spells i.text i.draft) (fuel : Nat)
    (tail : List Char) :
    value (fuel + 3) ('[' :: (i.chars ++ tail)) =
      (.array (Draft.items (fuel + 2) (i.chars ++ tail)).1
        (Draft.items (fuel + 2) (i.chars ++ tail)).2.isSome,
      (Draft.items (fuel + 2) (i.chars ++ tail)).2) := by
  obtain ⟨c, text, htext, hc, hclose⟩ := hi.exists_cons
  rw [Item.chars, htext, List.append_assoc, hblank.items_append]
  simp only [value, skipBlanks_cons (c := '[') rfl, hblank.skipBlanks_append, List.cons_append,
    skipBlanks_cons hc]
  split
  · next heq => exact absurd (List.cons.inj heq).1 hclose
  · rfl

theorem readsAs_array {i : Item} {is : List Item}
    (hblank : ∀ j ∈ i :: is, Blank j.before ∧ Blank j.after)
    (h : ∀ j ∈ i :: is, Spells j.text j.draft) (hread : ∀ j ∈ i :: is, ReadsAs j.text j.draft) :
    ReadsAs ('[' :: (i.chars ++ ((is.flatMap fun j => ',' :: j.chars) ++ [']'])))
      (.array ((i :: is).map Item.draft) true) := by
  refine readsAs_of_succ fun fuel rest hfuel _ => ?_
  rw [List.length_append, List.length_append, List.length_singleton] at hfuel
  obtain ⟨fuel, rfl⟩ : ∃ k, fuel = k + 2 := ⟨fuel - 2, by omega⟩
  have hitems := items_chars rest hblank hread (by rw [List.length_append]; omega : _ ≤ fuel)
  simp only [List.append_assoc, List.singleton_append]
  rw [value_array (hblank i List.mem_cons_self).1 (h i List.mem_cons_self), hitems]
  rfl

-- ---------------------------------------------------------------------------
-- Objects
-- ---------------------------------------------------------------------------

theorem members_inner (rest : List Char) {m : Member} {ms : List Member}
    (hkeys : ∀ n ∈ m :: ms, SpellsUnits n.key n.units)
    (hblank : ∀ n ∈ m :: ms,
      Blank n.before ∧ Blank n.gap ∧ Blank n.item.before ∧ Blank n.item.after)
    (hread : ∀ n ∈ m :: ms, ReadsAs n.item.text n.item.draft) {fuel : Nat}
    (hfuel : 2 * (m.inner ++ ms.flatMap fun n => ',' :: n.chars).length ≤ fuel) :
    Draft.members (fuel + 2)
        (m.inner ++ ((ms.flatMap fun n => ',' :: n.chars) ++ '\x7d' :: rest)) =
      ((m :: ms).map Member.pair, some rest) := by
  induction ms generalizing m fuel with
  | nil =>
    obtain ⟨⟨-, hgap, hitem⟩, -⟩ := List.forall_mem_cons.mp hblank
    obtain ⟨hread, -⟩ := List.forall_mem_cons.mp hread
    obtain ⟨hkey, -⟩ := List.forall_mem_cons.mp hkeys
    have hvalue := Item.value_chars fuel ('\x7d' :: rest) hitem hread
      (by simp [Member.inner, Item.chars] at hfuel; omega) (apart_cons rfl)
    simp only [List.flatMap_nil, List.nil_append, Member.inner, List.append_assoc, List.cons_append]
    rw [Draft.members, hkey.scanString]
    simp only [hgap.skipBlanks_append_cons (c := ':') rfl, hvalue,
      hitem.2.skipBlanks_append_cons (c := '\x7d') rfl]
    rfl
  | cons n ms ih =>
    obtain ⟨⟨-, hgap, hitem⟩, hblanks⟩ := List.forall_mem_cons.mp hblank
    obtain ⟨hread, hreads⟩ := List.forall_mem_cons.mp hread
    obtain ⟨hkey, hkeys⟩ := List.forall_mem_cons.mp hkeys
    have hbefore := (hblanks n List.mem_cons_self).1
    rw [List.flatMap_cons, List.cons_append, List.length_append, List.length_cons, Member.chars,
      List.append_assoc, List.length_append, List.cons_append, List.length_cons] at hfuel
    obtain _ | fuel := fuel
    · omega
    have hvalue := fun tail => Item.value_chars (fuel + 1) (',' :: tail) hitem hread
      (by simp [Member.inner, Item.chars] at hfuel; omega) (apart_cons rfl)
    have hmore := ih hkeys hblanks hreads (by omega : _ ≤ fuel)
    simp only [Member.inner, List.flatMap_cons, Member.chars, List.append_assoc,
      List.cons_append] at hmore ⊢
    rw [Draft.members, hkey.scanString]
    simp only [hgap.skipBlanks_append_cons (c := ':') rfl, hvalue,
      hitem.2.skipBlanks_append_cons (c := ',') rfl, hbefore.skipBlanks_append_cons (c := '"') rfl,
      hmore]
    rfl

theorem readsAs_object {m : Member} {ms : List Member}
    (hkeys : ∀ n ∈ m :: ms, SpellsUnits n.key n.units)
    (hblank : ∀ n ∈ m :: ms,
      Blank n.before ∧ Blank n.gap ∧ Blank n.item.before ∧ Blank n.item.after)
    (hread : ∀ n ∈ m :: ms, ReadsAs n.item.text n.item.draft) :
    ReadsAs ('\x7b' :: (m.chars ++ ((ms.flatMap fun n => ',' :: n.chars) ++ ['\x7d'])))
      (.object ((m :: ms).map Member.pair) none) := by
  refine readsAs_of_succ fun fuel rest hfuel _ => ?_
  rw [List.length_append, List.length_append, List.length_singleton, Member.chars,
    List.length_append, List.length_cons] at hfuel
  obtain ⟨fuel, rfl⟩ : ∃ k, fuel = k + 2 := ⟨fuel - 2, by omega⟩
  have hmembers := members_inner rest hkeys hblank hread
    (by rw [List.length_append]; omega : _ ≤ fuel)
  have hbefore := (hblank m List.mem_cons_self).1
  simp only [Member.chars, List.append_assoc, List.cons_append, List.nil_append] at hmembers ⊢
  simp only [value, skipBlanks_cons (c := '\x7b') rfl,
    hbefore.skipBlanks_append_cons (c := '"') rfl, hmembers]
  rfl

-- ---------------------------------------------------------------------------
-- Texts
-- ---------------------------------------------------------------------------

theorem Spells.readsAs {d : Draft} (h : Spells cs d) : ReadsAs cs d := by
  induction h with
  | null => exact readsAs_of_succ fun _ _ _ _ => rfl
  | isTrue => exact readsAs_of_succ fun _ _ _ _ => rfl
  | isFalse => exact readsAs_of_succ fun _ _ _ _ => rfl
  | number h => exact h.readsAs
  | string h => exact h.readsAs
  | noItems hb =>
    refine readsAs_of_succ fun fuel rest _ _ => ?_
    rw [List.append_assoc, List.singleton_append]
    simp only [value, skipBlanks_cons (c := '[') rfl, hb.skipBlanks_append_cons (c := ']') rfl]
  | items hblank h ih => exact readsAs_array hblank h ih
  | noMembers hb =>
    refine readsAs_of_succ fun fuel rest _ _ => ?_
    rw [List.append_assoc, List.singleton_append]
    simp only [value, skipBlanks_cons (c := '\x7b') rfl,
      hb.skipBlanks_append_cons (c := '\x7d') rfl]
  | members hkeys hblank _ ih => exact readsAs_object hkeys hblank ih

theorem Spells.members_spelled {ms : List (Option String × Draft)} {cut : Option Draft}
    (h : Spells cs (.object ms cut)) : cut = none ∧ ∀ m ∈ ms, ∃ cs, Spells cs m.2 := by
  cases h with
  | noMembers hb => exact ⟨rfl, nofun⟩
  | members _ _ h =>
    refine ⟨rfl, fun m hm => ?_⟩
    obtain ⟨n, hn, rfl⟩ := List.mem_map.mp hm
    exact ⟨_, h n hn⟩

theorem areWhole_iff {ds : List Draft} : areWhole ds = true ↔ ∀ d ∈ ds, d.isWhole = true := by
  induction ds with
  | nil => simp [areWhole]
  | cons d ds ih => simp [areWhole, ih]

theorem membersAreWhole_iff {ms : List (Option String × Draft)} :
    membersAreWhole ms = true ↔ ∀ m ∈ ms, m.2.isWhole = true := by
  induction ms with
  | nil => simp [membersAreWhole]
  | cons m ms ih => simp [membersAreWhole, ih]

theorem Spells.isWhole {d : Draft} (h : Spells cs d) : d.isWhole = true := by
  induction h with
  | items _ _ ih => simpa [Draft.isWhole, areWhole_iff] using ih
  | members _ _ _ ih => simpa [Draft.isWhole, membersAreWhole_iff, Member.pair] using ih
  | _ => rfl

def IsText (text : String) (d : Draft) : Prop :=
  ∃ before cs after, text.toList = before ++ (cs ++ after) ∧ Blank before ∧ Blank after ∧
    Spells cs d

theorem IsText.ofText_eq {text : String} {d : Draft} (h : IsText text d) :
    ofText text = (d, true) := by
  obtain ⟨before, cs, after, htext, hbefore, hafter, hspells⟩ := h
  have hrest : Apart after := by
    rw [← List.append_nil after]
    exact hafter.apart nofun
  have hvalue := hspells.readsAs (2 * text.toList.length + 2) after
    (by simp [htext]; omega) hrest
  rw [ofText]
  dsimp only
  rw [htext, hbefore.value_append, ← htext, hvalue]
  simp only [hafter.skipBlanks_eq]
  rfl

theorem IsText.readText_eq {α : Type} (read : Draft → Except ReadError α) {text : String}
    {d : Draft} (h : IsText text d) : readText read text = read d := by
  rw [readText, h.ofText_eq]
  cases hread : read d <;> simp only [hread] <;> rfl

end Mediator.Json
