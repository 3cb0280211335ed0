import Mediator.Json.Draft
import Mediator.Text.Quoted

/-!
# Reading records from JSON

A record is written as an object whose members are its fields in any order, or as an array of its
fields in their order. Fields may be left out, unknown members are passed over, and no field may be
given twice. `Malformed` texts and values that do not fit are told apart; of several faults the one
written first counts.
-/

namespace Mediator.Json

inductive Expected where
  | boolean
  | word
  | unit
  | record (name : String)
  | variantName
deriving DecidableEq, Repr

def Expected.text : Expected → String
  | .boolean => "a boolean"
  | .word => "u64"
  | .unit => "unit"
  | .record name => "struct " ++ name
  | .variantName => "variant identifier"

/-- Why a well-formed value does not fit. -/
inductive Misfit where
  | wrongType (found : String) (expected : Expected)
  | wrongValue (found : String) (expected : Expected)
  | duplicateField (name : String)
  | unknownVariant (name : String) (variants : List String)
deriving DecidableEq, Repr

def Misfit.text : Misfit → String
  | .wrongType found expected => "invalid type: " ++ found ++ ", expected " ++ expected.text
  | .wrongValue found expected => "invalid value: " ++ found ++ ", expected " ++ expected.text
  | .duplicateField name => "duplicate field `" ++ name ++ "`"
  | .unknownVariant name variants =>
    "unknown variant `" ++ name ++ "`, expected one of "
      ++ ", ".intercalate (variants.map fun v => "`" ++ v ++ "`")

inductive ReadError where
  | malformed
  | unfit (why : Misfit)
deriving DecidableEq, Repr

namespace Draft

/-- How a value is named when it is not what was asked for. A container is known by its first
character; all else has to be well-formed. -/
def describe? : Draft → Option String
  | .null => some "null"
  | .bool b => some ("boolean `" ++ toString b ++ "`")
  | .number (some (.int n)) => some ("integer `" ++ toString n ++ "`")
  | .number (some (.float x)) => some ("floating point `" ++ (Numeral.float x).text ++ "`")
  | .number none => none
  | .string (some s) => some ("string " ++ Text.quote s)
  | .string none => none
  | .array _ _ => some "sequence"
  | .object _ _ => some "map"
  | .missing => none

def refuse (d : Draft) (expected : Expected) : ReadError :=
  match d.describe? with
  | some found => .unfit (.wrongType found expected)
  | none => .malformed

def readBool : Draft → Except ReadError Bool
  | .bool b => .ok b
  | d => .error (d.refuse .boolean)

def readWord : Draft → Except ReadError UInt64
  | .number (some (.int n)) =>
    if 0 ≤ n then .ok (UInt64.ofNat n.toNat)
    else .error (.unfit (.wrongValue ("integer `" ++ toString n ++ "`") .word))
  | d => .error (d.refuse .word)

def readUnit : Draft → Except ReadError Unit
  | .null => .ok ()
  | d => .error (d.refuse .unit)

def readOption {α : Type} (read : Draft → Except ReadError α) : Draft → Except ReadError (Option α)
  | .null => .ok none
  | d => (read d).map some

def readVariant {α : Type} (variants : List (String × α)) (name : String) : Except ReadError α :=
  match variants.find? (·.1 == name) with
  | some (_, a) => .ok a
  | none => .error (.unfit (.unknownVariant name (variants.map (·.1))))

/-- A variant without contents: its name, or an object with its name for the only key and `null`
for the value. -/
def readEnum {α : Type} (variants : List (String × α)) : Draft → Except ReadError α
  | .string (some name) => readVariant variants name
  | .object ((some name, content) :: more) cut => do
    let a ← readVariant variants name
    readUnit content
    if more.isEmpty && cut.isNone then return a else throw .malformed
  | .object [] (some found) => .error (found.refuse .variantName)
  | _ => .error .malformed

end Draft

/-- A field of a record of type `ρ`: its name, and how its value changes the record. -/
structure Field (ρ : Type) where
  name : String
  read : Draft → ρ → Except ReadError ρ

namespace Draft

variable {ρ : Type}

/-- Read the members of an object, of which the fields in `seen` have been given before. -/
def readMembers (fields : List (Field ρ)) (cut : Option Draft) :
    List String → List (Option String × Draft) → ρ → Except ReadError ρ
  | _, [], r => if cut.isNone then .ok r else .error .malformed
  | _, (none, _) :: _, _ => .error .malformed
  | seen, (some key, d) :: rest, r =>
    match fields.find? (·.name == key) with
    | none => if d.isWhole then readMembers fields cut seen rest r else .error .malformed
    | some field =>
      if seen.contains key then .error (.unfit (.duplicateField key))
      else
        match field.read d r with
        | .ok r => readMembers fields cut (key :: seen) rest r
        | .error e => .error e

def readItems (closed : Bool) : List (Field ρ) → List Draft → ρ → Except ReadError ρ
  | _, [], r => if closed then .ok r else .error .malformed
  | [], _ :: _, _ => .error .malformed
  | field :: fields, d :: rest, r =>
    match field.read d r with
    | .ok r => readItems closed fields rest r
    | .error e => .error e

/-- Read a record, starting from the one that has every field at its default. -/
def readRecord (name : String) (fields : List (Field ρ)) (default : ρ) :
    Draft → Except ReadError ρ
  | .object members cut => readMembers fields cut [] members default
  | .array items closed => readItems closed fields items default
  | d => .error (d.refuse (.record name))

end Draft

def readText {α : Type} (read : Draft → Except ReadError α) (text : String) : Except ReadError α :=
  match Draft.ofText text with
  | (draft, whole) => do
    let a ← read draft
    if whole then return a else throw .malformed

end Mediator.Json
