import Mediator.Message
import Mediator.Rehearsal.Calculation

/-!
# The message types of rehearsals

A small shop: its request types and notification types, and the messages of these types that JSON
objects stand for. A field that is missing or of another JSON type counts as empty, zero or absent.
-/

namespace Mediator.Rehearsal

/-! ## Fields of a payload -/

def textField? (payload : Json) (name : String) : Option String :=
  (payload.member? name).bind Json.string?

def intField? (payload : Json) (name : String) : Option Int :=
  ((payload.member? name).bind Json.int?).filter fitsInt64

def natField? (payload : Json) (name : String) : Option Nat :=
  ((payload.member? name).bind Json.int?).bind fun n =>
    if 0 ≤ n && n < Int.pow 2 64 then some n.toNat else none

def parseNat? (s : String) : Option Nat :=
  let cs := s.toList
  if cs.isEmpty || !cs.all Char.isDigit then none
  else some (cs.foldl (fun n c => n * 10 + (c.toNat - '0'.toNat)) 0)

/-- A duration in seconds, as a number or its digits, and nanoseconds. -/
def duration? (j : Json) : Option Duration :=
  match j with
  | .object _ =>
    let secs := ((natField? j "secs").orElse fun _ =>
      (textField? j "secs").bind parseNat?).getD 0
    some (.ofParts secs ((natField? j "nanos").getD 0))
  | _ => none

def responseOf (type : ResponseType) (j : Json) : Value :=
  match type with
  | .text => .text (j.string?.getD "")
  | .int => .int ((j.int?.filter fitsInt64).getD 0)
  | .unit => .unit

/-! ## Requests -/

/-- How the requests of a type are made from a payload. -/
structure RequestMaker where
  /-- The name that scenarios use. -/
  label : String
  type : RequestType
  resource : Json → Resource
  cacheKey : Json → Option String
  cacheExpiration : Json → Option Duration

def typePath : String := "app::requests::"

namespace RequestMaker

/-- Requests with no more than a type, whose name is given, and a payload. -/
def named (id : Nat) (label name : String) (response : ResponseType) (caps : List Capability) :
    RequestMaker where
  label := label
  type := ⟨⟨id⟩, typePath ++ name, .ofList caps, response⟩
  resource _ := .ofType (typePath ++ name)
  cacheKey _ := none
  cacheExpiration _ := none

def plain (id : Nat) (label : String) : ResponseType → List Capability → RequestMaker :=
  named id label label

def make (m : RequestMaker) (payload : Json) : Request :=
  ⟨m.type, payload, m.resource payload, m.cacheKey payload, m.cacheExpiration payload⟩

end RequestMaker

def requestMakers : List RequestMaker := [
  .plain 0 "Echo" .text [],
  { RequestMaker.plain 1 "GetPrice" .int [.cacheable] with
    cacheKey := fun p => textField? p "key"
    cacheExpiration := fun p => (p.member? "ttl").bind duration? },
  { RequestMaker.plain 2 "DeleteOrder" .unit [.auditable, .authorizable] with
    resource := fun p => ⟨"Order", some (toString ((natField? p "id").getD 0))⟩ },
  .plain 3 "Transfer" .unit [.auditable],
  .plain 4 "Secured" .int [.authorizable],
  { RequestMaker.plain 5 "Vault" .text [.auditable, .authorizable, .cacheable] with
    cacheKey := fun p => textField? p "key" },
  { RequestMaker.plain 6 "Report<i64>" .int [.auditable, .cacheable] with
    cacheKey := fun p => some ((textField? p "key").getD "") },
  { RequestMaker.named 7 "Report<String>" "Report<alloc::string::String>" .text
      [.auditable, .cacheable] with
    cacheKey := fun p => some ((textField? p "key").getD "") },
  { RequestMaker.plain 8 "GetProfile" .text [.cacheable] with
    cacheKey := fun p => some (toString ((natField? p "id").getD 0))
    cacheExpiration := fun _ => some (.ofSecs 30) },
  { RequestMaker.plain 9 "VoidInvoice" .unit [.auditable, .authorizable] with
    resource := fun p => ⟨"Invoice", some ((textField? p "number").getD "")⟩ },
  { RequestMaker.plain 10 "Lookup" .int [.authorizable, .cacheable] with
    resource := fun p => ⟨"Lookup", some (toString ((intField? p "slot").getD 0))⟩
    cacheKey := fun p => some (toString ((intField? p "slot").getD 0)) }]

def requestMaker? (label : String) : Option RequestMaker := requestMakers.find? (·.label == label)

/-! ## Notifications -/

structure NotificationMaker where
  label : String
  type : NotificationType

namespace NotificationMaker

def named (id : Nat) (label name : String) (strategy : Option Strategy) : NotificationMaker :=
  ⟨label, ⟨⟨id⟩, typePath ++ name, strategy⟩⟩

def plain (id : Nat) (label : String) : Option Strategy → NotificationMaker := named id label label

def make (m : NotificationMaker) (payload : Json) : Notification := ⟨m.type, payload⟩

end NotificationMaker

def notificationMakers : List NotificationMaker := [
  .plain 11 "OrderPlaced" none,
  .plain 12 "Broadcast" (some .parallel),
  .plain 13 "ProfileViewed" (some .fireAndForget),
  .plain 14 "StockLow" (some .failFast),
  .plain 15 "Changed<i64>" (some .sequential),
  .named 16 "Changed<String>" "Changed<alloc::string::String>" (some .sequential)]

def notificationMaker? (label : String) : Option NotificationMaker :=
  notificationMakers.find? (·.label == label)

end Mediator.Rehearsal
