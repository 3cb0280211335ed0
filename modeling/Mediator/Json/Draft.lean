import Mediator.Json

/-!
# What a text says before it stops being JSON

`Draft.ofText` reads a text as far as it is JSON. The result is a tree like that of a JSON value,
except that a container may have been cut off and a value may be missing. A reader that walks the
tree from left to right meets whatever is wrong with the text in the order in which it is written,
whether it is the text that is malformed there or the value that does not fit.
-/

namespace Mediator.Json

inductive Draft where
  | null
  | bool (b : Bool)
  /-- `none`: too large for a double. -/
  | number (n : Option Numeral)
  /-- `none`: an escaped half of a surrogate pair stands alone. -/
  | string (s : Option String)
  | array (items : List Draft) (closed : Bool)
  /-- `cut`: what stood where a key or the end belongs, if it was neither. -/
  | object (members : List (Option String × Draft)) (cut : Option Draft)
  | missing
deriving Inhabited

namespace Draft

/-! ## From characters -/

def isBlank (c : Char) : Bool := c == ' ' || c == '\n' || c == '\t' || c == '\r'

def skipBlanks (cs : List Char) : List Char := cs.dropWhile isBlank

def hexValue? (c : Char) : Option Nat :=
  if '0' ≤ c && c ≤ '9' then some (c.toNat - 48)
  else if 'a' ≤ c && c ≤ 'f' then some (c.toNat - 87)
  else if 'A' ≤ c && c ≤ 'F' then some (c.toNat - 55)
  else none

/-- A character of a string, or an escaped number that may be half of one. -/
inductive Unit16 where
  | char (c : Char)
  | code (n : Nat)

/-- The units of a string up to its closing quote, and what follows; `none` if it has no end or
holds a control character or an unknown escape. -/
def scanUnits : List Char → Option (List Unit16 × List Char)
  | '"' :: rest => some ([], rest)
  | '\\' :: 'u' :: a :: b :: c :: d :: rest =>
    match hexValue? a, hexValue? b, hexValue? c, hexValue? d with
    | some a, some b, some c, some d =>
      (scanUnits rest).map fun (us, rest) => (.code (((a * 16 + b) * 16 + c) * 16 + d) :: us, rest)
    | _, _, _, _ => none
  | '\\' :: c :: rest =>
    let unit : Option Char :=
      match c with
      | '"' => some '"'
      | '\\' => some '\\'
      | '/' => some '/'
      | 'b' => some '\x08'
      | 'f' => some '\x0c'
      | 'n' => some '\n'
      | 'r' => some '\r'
      | 't' => some '\t'
      | _ => none
    match unit with
    | some u => (scanUnits rest).map fun (us, rest) => (.char u :: us, rest)
    | none => none
  | c :: rest =>
    if c.toNat < 32 then none
    else (scanUnits rest).map fun (us, rest) => (.char c :: us, rest)
  | [] => none

def isHigh (n : Nat) : Bool := 0xD800 ≤ n && n ≤ 0xDBFF

def isLow (n : Nat) : Bool := 0xDC00 ≤ n && n ≤ 0xDFFF

/-- The text of the units; `none` if half of a pair stands alone. -/
def textOf? : List Unit16 → Option (List Char)
  | [] => some []
  | .char c :: rest => (textOf? rest).map (c :: ·)
  | .code h :: .code l :: rest =>
    if isHigh h then
      if isLow l then
        (textOf? rest).map (Char.ofNat (0x10000 + (h - 0xD800) * 0x400 + (l - 0xDC00)) :: ·)
      else none
    else if isLow h then none
    else (textOf? (.code l :: rest)).map (Char.ofNat h :: ·)
  | .code n :: rest =>
    if isHigh n || isLow n then none else (textOf? rest).map (Char.ofNat n :: ·)

def scanString (cs : List Char) : Option (Option String × List Char) :=
  (scanUnits cs).map fun (us, rest) => ((textOf? us).map String.ofList, rest)

mutual

/-- One value, and what follows it; `none` if the text stops being JSON before its end. Each call
takes one unit of fuel and at least one character, so a fuel above the length never runs out. -/
def value : Nat → List Char → Draft × Option (List Char)
  | 0, _ => (.missing, none)
  | fuel + 1, cs =>
    match skipBlanks cs with
    | 'n' :: 'u' :: 'l' :: 'l' :: rest => (.null, some rest)
    | 't' :: 'r' :: 'u' :: 'e' :: rest => (.bool true, some rest)
    | 'f' :: 'a' :: 'l' :: 's' :: 'e' :: rest => (.bool false, some rest)
    | '"' :: rest =>
      match scanString rest with
      | some (s, rest) => (.string s, some rest)
      | none => (.missing, none)
    | '[' :: rest =>
      match skipBlanks rest with
      | ']' :: rest => (.array [] true, some rest)
      | rest =>
        let (items, after) := items fuel rest
        (.array items after.isSome, after)
    | '\x7b' :: rest =>
      match skipBlanks rest with
      | '\x7d' :: rest => (.object [] none, some rest)
      | '"' :: rest =>
        let (members, after) := members fuel rest
        (.object members (if after.isSome then none else some .missing), after)
      | rest => (.object [] (some (value fuel rest).1), none)
    | cs =>
      match Lexeme.scan? cs with
      | some (l, rest) => (.number l.numeral?, some rest)
      | none => (.missing, none)

def items : Nat → List Char → List Draft × Option (List Char)
  | 0, _ => ([.missing], none)
  | fuel + 1, cs =>
    match value fuel cs with
    | (item, none) => ([item], none)
    | (item, some rest) =>
      match skipBlanks rest with
      | ']' :: rest => ([item], some rest)
      | ',' :: rest =>
        let (more, after) := items fuel rest
        (item :: more, after)
      | _ => ([item], none)

/-- The members of an object, after the opening quote of the first key. -/
def members : Nat → List Char → List (Option String × Draft) × Option (List Char)
  | 0, _ => ([], none)
  | fuel + 1, cs =>
    match scanString cs with
    | none => ([], none)
    | some (key, rest) =>
      match skipBlanks rest with
      | ':' :: rest =>
        match value fuel rest with
        | (item, none) => ([(key, item)], none)
        | (item, some rest) =>
          match skipBlanks rest with
          | '\x7d' :: rest => ([(key, item)], some rest)
          | ',' :: rest =>
            match skipBlanks rest with
            | '"' :: rest =>
              let (more, after) := members fuel rest
              ((key, item) :: more, after)
            | _ => ([(key, item)], none)
          | _ => ([(key, item)], none)
      | _ => ([(key, .missing)], none)

end

/-- The draft of a text, and whether nothing but blanks follows it. -/
def ofText (text : String) : Draft × Bool :=
  let cs := text.toList
  let (draft, after) := value (2 * cs.length + 2) cs
  (draft, match after with
    | some rest => (skipBlanks rest).isEmpty
    | none => false)

/-! ## Whole values -/

mutual

/-- Whether nothing is cut off or missing, so that the value may be passed over. -/
def isWhole : Draft → Bool
  | .array items closed => closed && areWhole items
  | .object members cut => cut.isNone && membersAreWhole members
  | .missing => false
  | _ => true

def areWhole : List Draft → Bool
  | [] => true
  | d :: rest => isWhole d && areWhole rest

def membersAreWhole : List (Option String × Draft) → Bool
  | [] => true
  | (_, d) :: rest => isWhole d && membersAreWhole rest

end

mutual

def toJson? : Draft → Option Json
  | .null => some .null
  | .bool b => some (.bool b)
  | .number n => n.map .number
  | .string s => s.map .string
  | .array items closed => if closed then (toJsons? items).map .array else none
  | .object members cut =>
    if cut.isNone then (toMembers? members).map .object else none
  | .missing => none

def toJsons? : List Draft → Option (List Json)
  | [] => some []
  | d :: rest => do return (← toJson? d) :: (← toJsons? rest)

def toMembers? : List (Option String × Draft) → Option (List (String × Json))
  | [] => some []
  | (key, d) :: rest => do return (← key, ← toJson? d) :: (← toMembers? rest)

end

mutual

def ofJson : Json → Draft
  | .null => .null
  | .bool b => .bool b
  | .number n => .number (some n)
  | .string s => .string (some s)
  | .array items => .array (ofJsons items) true
  | .object members => .object (ofMembers members) none

def ofJsons : List Json → List Draft
  | [] => []
  | j :: rest => ofJson j :: ofJsons rest

def ofMembers : List (String × Json) → List (Option String × Draft)
  | [] => []
  | (key, j) :: rest => (some key, ofJson j) :: ofMembers rest

end

end Draft

def parse? (text : String) : Option Json :=
  match Draft.ofText text with
  | (draft, true) => draft.toJson?
  | (_, false) => none

end Mediator.Json
