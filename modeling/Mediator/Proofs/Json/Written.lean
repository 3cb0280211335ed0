import Mediator.Proofs.Json.Grammar

/-!
# What is written is read again

The compact form of a value is a text of the grammar for that value (`spells_render`). So a text
that was written has its value for a draft, without anything cut off or left over
(`ofText_render`). The values are those whose numbers are integers of 64 bits, signed or not; there
is nothing about doubles here.
-/

namespace Mediator.Json

open Draft

-- ---------------------------------------------------------------------------
-- Strings
-- ---------------------------------------------------------------------------

theorem hexValue?_hexDigit {n : Nat} (h : n < 16) : hexValue? (hexDigit n) = some n := by
  have hall : ∀ n : Fin 16, hexValue? (hexDigit n) = some n.val := by decide
  exact hall ⟨n, h⟩

theorem spellsUnit_control {n : Nat} (h : n < 32) :
    SpellsUnit ['\\', 'u', '0', '0', hexDigit (n / 16), hexDigit (n % 16)] (.code n) := by
  have hzero : hexValue? '0' = some 0 := rfl
  have hcode := SpellsUnit.code hzero hzero
    (hexValue?_hexDigit (n := n / 16) (by omega)) (hexValue?_hexDigit (n := n % 16) (by omega))
  simpa [Nat.div_add_mod'] using hcode

theorem textOf?_control {n : Nat} (h : n < 32) (us : List Unit16) :
    textOf? (.code n :: us) = (textOf? us).map (Char.ofNat n :: ·) := by
  have hhigh : isHigh n = false := by simp [isHigh]; omega
  have hlow : isLow n = false := by simp [isLow]; omega
  cases us with
  | nil => simp [textOf?, hhigh, hlow]
  | cons u us => cases u <;> simp [textOf?, hhigh, hlow]

def writtenUnit (c : Char) : Unit16 :=
  match c with
  | '\n' | '\r' | '\t' | '\x08' | '\x0c' => .char c
  | c => if c.toNat < 32 then .code c.toNat else .char c

theorem spellsUnit_escape (c : Char) : SpellsUnit (escape c) (writtenUnit c) := by
  unfold escape
  -- The last case has no letter of its own: a control character, or a plain one.
  split
  case h_8 hquote hback hn hr ht hb hf =>
    have hunit : writtenUnit c = if c.toNat < 32 then .code c.toNat else .char c := by
      unfold writtenUnit
      split <;> first | contradiction | rfl
    rw [hunit]
    split
    · next h => exact spellsUnit_control h
    · next h => exact .plain h hquote hback
  all_goals exact .letter (by decide)

theorem textOf?_writtenUnit (c : Char) (us : List Unit16) :
    textOf? (writtenUnit c :: us) = (textOf? us).map (c :: ·) := by
  unfold writtenUnit
  split
  case h_6 =>
    split
    · next h => rw [textOf?_control h, Char.ofNat_toNat]
    · rfl
  all_goals rfl

theorem spellsUnits_escape (cs : List Char) :
    SpellsUnits (cs.flatMap escape) (cs.map writtenUnit) := by
  induction cs with
  | nil => exact .nil
  | cons c cs ih => exact .cons (spellsUnit_escape c) ih

theorem stringOf?_writtenUnits (s : String) : stringOf? (s.toList.map writtenUnit) = some s := by
  have htext : ∀ cs : List Char, textOf? (cs.map writtenUnit) = some cs := by
    intro cs
    induction cs with
    | nil => rfl
    | cons c cs ih => rw [List.map_cons, textOf?_writtenUnit, ih]; rfl
  simp [stringOf?, htext]

-- ---------------------------------------------------------------------------
-- Numbers
-- ---------------------------------------------------------------------------

namespace Lexeme

theorem natOf_toDigits (n : Nat) : natOf (Nat.toDigits 10 n) = n := by
  have hfold := Nat.ofDigitChars_ten_toDigits (n := n)
  rw [Nat.ofDigitChars_eq_foldl] at hfold
  simpa only [natOf, digitValue, Nat.mul_comm] using hfold

theorem head?_toDigits_ne {n : Nat} (hn : 0 < n) : (Nat.toDigits 10 n).head? ≠ some '0' := by
  induction n using Nat.strongRecOn with
  | ind n ih =>
    by_cases hlt : n < 10
    · have hdigit : ∀ d : Fin 10, 0 < d.val → d.val.digitChar ≠ '0' := by decide
      rw [Nat.toDigits_of_lt_base hlt]
      simpa using hdigit ⟨n, hlt⟩ hn
    · rw [Nat.toDigits_of_base_le (by decide) (by omega),
        List.head?_append_of_ne_nil _ Nat.toDigits_ne_nil]
      exact ih (n / 10) (by omega) (by omega)

theorem length_toDigits_of_head? {n : Nat} (h : (Nat.toDigits 10 n).head? = some '0') :
    (Nat.toDigits 10 n).length = 1 := by
  obtain rfl | hn := Nat.eq_zero_or_pos n
  · rfl
  · exact absurd h (head?_toDigits_ne hn)

theorem numeral?_int {n : Int} (hlow : -Nat.pow 2 63 ≤ n) (hhigh : n < Nat.pow 2 64) :
    numeral? ⟨n < 0, Nat.toDigits 10 n.natAbs, none, none⟩ = some (.int n) := by
  simp only [numeral?, natOf_toDigits, Option.isNone_none, Bool.and_self, if_true]
  by_cases hn : n < 0
  · have habs : 0 < n.natAbs ∧ n.natAbs ≤ Nat.pow 2 63 := by omega
    have heq : -(n.natAbs : Int) = n := by omega
    rw [decide_eq_true hn, if_pos rfl, if_pos (by simpa using habs), heq]
  · have habs : n.natAbs ≤ maxWord := by
      simp only [maxWord]
      omega
    have heq : (n.natAbs : Int) = n := by omega
    rw [decide_eq_false hn, if_neg Bool.false_ne_true, if_pos habs, heq]

end Lexeme

theorem digits_toDigits (n : Nat) : Digits (Nat.toDigits 10 n) :=
  ⟨Nat.toDigits_ne_nil, fun _ h => Nat.isDigit_of_mem_toDigits (b := 10) (by decide) (by decide) h⟩

theorem toList_text (n : Int) : (Numeral.int n).text.toList =
    (if n < 0 then ['-'] else []) ++ Nat.toDigits 10 n.natAbs := by
  cases n with
  | ofNat n =>
    have hneg : ¬Int.ofNat n < 0 := by simp
    rw [if_neg hneg]
    exact Nat.toList_repr
  | negSucc n =>
    have hneg : Int.negSucc n < 0 := Int.negSucc_lt_zero n
    have htext : (Numeral.int (.negSucc n)).text = "-" ++ (n + 1).repr := rfl
    rw [if_pos hneg, htext, String.toList_append, Nat.toList_repr]
    rfl

theorem spellsNumber_text (n : Int) : SpellsNumber (Numeral.int n).text.toList
    ⟨n < 0, Nat.toDigits 10 n.natAbs, none, none⟩ := by
  have hspells : SpellsNumber _ ⟨n < 0, Nat.toDigits 10 n.natAbs, none, none⟩ :=
    .mk (digits_toDigits n.natAbs) Lexeme.length_toDigits_of_head? .absent .absent
  simpa [toList_text] using hspells

-- ---------------------------------------------------------------------------
-- Values
-- ---------------------------------------------------------------------------

/-- The numbers in the value are integers of 64 bits, signed or not. -/
inductive Exact : Json → Prop
  | null : Exact .null
  | bool (b : Bool) : Exact (.bool b)
  | int {n : Int} (hlow : -Nat.pow 2 63 ≤ n) (hhigh : n < Nat.pow 2 64) : Exact (.int n)
  | string (s : String) : Exact (.string s)
  | array {items : List Json} (h : ∀ item ∈ items, Exact item) : Exact (.array items)
  | object {members : List (String × Json)} (h : ∀ m ∈ members, Exact m.2) :
    Exact (.object members)

theorem exact_object_iff {ms : List (String × Json)} :
    (Json.object ms).Exact ↔ ∀ m ∈ ms, m.2.Exact := by
  refine ⟨fun h => ?_, .object⟩
  cases h
  assumption

theorem toList_renderString (s : String) :
    (renderString s).toList = '"' :: (s.toList.flatMap escape ++ ['"']) := by
  simp [renderString]

def writtenItem (j : Json) : Item := ⟨[], (render j).toList, [], ofJson j⟩

theorem toList_items (j : Json) (js : List Json) :
    (",".intercalate (renderItems (j :: js))).toList =
      (writtenItem j).chars ++ (js.map writtenItem).flatMap fun i => ',' :: i.chars := by
  induction js generalizing j with
  | nil => simp [renderItems, writtenItem, Item.chars]
  | cons k js ih =>
    rw [renderItems, renderItems, String.intercalate_cons_cons, ← renderItems]
    simp [ih, writtenItem, Item.chars]

theorem ofJsons_eq (js : List Json) : ofJsons js = (js.map writtenItem).map Item.draft := by
  induction js with
  | nil => rfl
  | cons j js ih => simp [ofJsons, ih, writtenItem]

theorem blank_nil : Blank [] := nofun

theorem spells_array {js : List Json} (h : ∀ j ∈ js, Spells (render j).toList (ofJson j)) :
    Spells (render (.array js)).toList (ofJson (.array js)) := by
  cases js with
  | nil => exact .noItems blank_nil
  | cons j js =>
    have hitems : Spells _ (.array ((writtenItem j :: js.map writtenItem).map Item.draft) true) :=
      .items (List.forall_mem_map (l := j :: js).mpr fun _ _ => ⟨blank_nil, blank_nil⟩)
        (List.forall_mem_map (l := j :: js).mpr h)
    rw [← List.map_cons, ← ofJsons_eq] at hitems
    rw [render, String.toList_append, String.toList_append, toList_items, List.append_assoc,
      List.append_assoc]
    exact hitems

def writtenMember (m : String × Json) : Member :=
  ⟨[], m.1.toList.flatMap escape, m.1.toList.map writtenUnit, [], writtenItem m.2⟩

theorem toList_members (m : String × Json) (ms : List (String × Json)) :
    (",".intercalate (renderMembers (m :: ms))).toList =
      (writtenMember m).chars ++ (ms.map writtenMember).flatMap fun n => ',' :: n.chars := by
  induction ms generalizing m with
  | nil =>
    simp [renderMembers, toList_renderString, writtenMember, Member.chars, Member.inner,
      writtenItem, Item.chars]
  | cons n ms ih =>
    rw [renderMembers, renderMembers, String.intercalate_cons_cons, ← renderMembers]
    simp [ih, toList_renderString, writtenMember, Member.chars, Member.inner, writtenItem,
      Item.chars]

theorem ofMembers_eq (ms : List (String × Json)) :
    ofMembers ms = (ms.map writtenMember).map Member.pair := by
  induction ms with
  | nil => rfl
  | cons m ms ih =>
    simp [ofMembers, ih, writtenMember, Member.pair, writtenItem, stringOf?_writtenUnits]

theorem spells_object {ms : List (String × Json)}
    (h : ∀ m ∈ ms, Spells (render m.2).toList (ofJson m.2)) :
    Spells (render (.object ms)).toList (ofJson (.object ms)) := by
  cases ms with
  | nil => exact .noMembers blank_nil
  | cons m ms =>
    have hmembers :
        Spells _ (.object ((writtenMember m :: ms.map writtenMember).map Member.pair) none) :=
      .members (List.forall_mem_map (l := m :: ms).mpr fun n _ => spellsUnits_escape n.1.toList)
        (List.forall_mem_map (l := m :: ms).mpr fun _ _ =>
          ⟨blank_nil, blank_nil, blank_nil, blank_nil⟩)
        (List.forall_mem_map (l := m :: ms).mpr h)
    rw [← List.map_cons, ← ofMembers_eq] at hmembers
    rw [render, String.toList_append, String.toList_append, toList_members, List.append_assoc,
      List.append_assoc]
    exact hmembers

theorem spells_render {j : Json} (h : j.Exact) : Spells (render j).toList (ofJson j) := by
  induction h with
  | null => exact .null
  | bool b =>
    cases b with
    | true => exact .isTrue
    | false => exact .isFalse
  | @int n hlow hhigh =>
    have hnumber := Spells.number (spellsNumber_text n)
    rwa [Lexeme.numeral?_int hlow hhigh] at hnumber
  | string s =>
    rw [render, toList_renderString, ofJson, ← stringOf?_writtenUnits s]
    exact .string (spellsUnits_escape s.toList)
  | array _ ih => exact spells_array ih
  | object _ ih => exact spells_object ih

theorem isText_render {j : Json} (h : j.Exact) : IsText (render j) (ofJson j) :=
  ⟨[], _, [], (List.append_nil _).symm, blank_nil, blank_nil, spells_render h⟩

/-- A text that was written is the draft of its value, without anything cut off or left over. -/
theorem ofText_render {j : Json} (h : j.Exact) : ofText (render j) = (ofJson j, true) :=
  (isText_render h).ofText_eq

theorem readText_render {α : Type} (read : Draft → Except ReadError α) {j : Json} (h : j.Exact) :
    readText read (render j) = read (ofJson j) := (isText_render h).readText_eq read

mutual

theorem toJson?_ofJson : (j : Json) → (ofJson j).toJson? = some j
  | .null => rfl
  | .bool _ => rfl
  | .number _ => rfl
  | .string _ => rfl
  | .array js => by simp [ofJson, toJson?, toJsons?_ofJsons js]
  | .object ms => by simp [ofJson, toJson?, toMembers?_ofMembers ms]

theorem toJsons?_ofJsons : (js : List Json) → toJsons? (ofJsons js) = some js
  | [] => rfl
  | j :: js => by simp [ofJsons, toJsons?, toJson?_ofJson j, toJsons?_ofJsons js]

theorem toMembers?_ofMembers :
    (ms : List (String × Json)) → toMembers? (ofMembers ms) = some ms
  | [] => rfl
  | (key, j) :: ms => by
    simp [ofMembers, toMembers?, toJson?_ofJson j, toMembers?_ofMembers ms]

end

theorem parse?_render {j : Json} (h : j.Exact) : parse? (render j) = some j := by
  rw [parse?, ofText_render h]
  exact toJson?_ofJson j

end Mediator.Json
