/-!
# Delivery strategies

How a notification reaches its subscribers. A strategy is named in lower case with underscores.
Where people write a name, the case of the letters does not matter and hyphens may stand for the
underscores; outside of declarations spaces may as well.
-/

namespace Mediator

inductive Strategy where
  /-- One at a time in the order of registration; failures are collected. -/
  | sequential
  /-- One at a time in the order of registration, up to the first failure. -/
  | failFast
  /-- All at once; failures are collected. -/
  | parallel
  /-- All on detached tasks; nobody learns of failures. -/
  | fireAndForget
deriving DecidableEq, Repr, Inhabited

namespace Strategy

def all : List Strategy := [.sequential, .failFast, .parallel, .fireAndForget]

def name : Strategy → String
  | .sequential => "sequential"
  | .failFast => "fail_fast"
  | .parallel => "parallel"
  | .fireAndForget => "fire_and_forget"

def ofName? (name : String) : Option Strategy := all.find? (·.name == name)

/-- The spellings that are read, once letter case and separators are out of the way: the name with
or without its underscores. -/
def ofSpelling? : String → Option Strategy
  | "sequential" => some .sequential
  | "fail_fast" | "failfast" => some .failFast
  | "parallel" => some .parallel
  | "fire_and_forget" | "fireandforget" => some .fireAndForget
  | _ => none

/-- The text in lower case, with an underscore for each of the separators. Only the letters from A
to Z have a lower case here. -/
def normalize (separators : List Char) (text : String) : String :=
  String.ofList (text.toList.map fun c => if separators.contains c then '_' else c.toLower)

def parse? (text : String) : Option Strategy := ofSpelling? (normalize ['-', ' '] text)

def parseDeclared? (text : String) : Option Strategy := ofSpelling? (normalize ['-'] text)

theorem ofName?_name (s : Strategy) : ofName? s.name = some s := by
  cases s <;> decide

theorem parse?_name (s : Strategy) : parse? s.name = some s := by
  cases s <;> decide

end Strategy

end Mediator
