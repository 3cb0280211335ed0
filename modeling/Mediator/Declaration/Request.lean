import Mediator.Capability
import Mediator.Declaration.Arguments

/-!
# Declared request types

What the attributes called `request` say about a type: its response, its capabilities, and how its
resource and its cache entry are found. Each attribute is read on its own; of what several say, the
last counts, except that a capability once given stays.
-/

namespace Mediator.Declaration

inductive RequestArgument where
  | flag (capability : Capability)
  | response (type : List Token)
  | resource (kind : String)
  | resourceId (field : String)
  | cacheKey (field : String)
  | cacheExpiration (secs : UInt64)
deriving Repr, Inhabited

namespace RequestArgument

def value (name : String) : Reader RequestArgument := do
  match name with
  | "auditable" => pure (.flag .auditable)
  | "authorizable" => pure (.flag .authorizable)
  | "cacheable" => pure (.flag .cacheable)
  | "response" =>
    Reader.sign "="
    let (_, type) ← Reader.written Reader.type
    pure (.response type)
  | "resource" =>
    Reader.sign "="
    .resource <$> Reader.stringLiteral
  | "resource_id" =>
    Reader.sign "="
    .resourceId <$> Reader.identifier
  | "cache_key" =>
    Reader.sign "="
    .cacheKey <$> Reader.identifier
  | "cache_expiration_secs" =>
    Reader.sign "="
    .cacheExpiration <$> Reader.number64
  | name => Reader.reject (.unknownArgument name)

end RequestArgument

structure RequestSettings where
  response : Option (List Token)
  capabilities : Capabilities
  resource : Option String
  resourceId : Option String
  cacheKey : Option String
  cacheExpiration : Option UInt64
deriving Repr

namespace RequestSettings

def empty : RequestSettings := ⟨none, .empty, none, none, none, none⟩

instance : Inhabited RequestSettings := ⟨empty⟩

def add (s : RequestSettings) : RequestArgument → RequestSettings
  | .flag c => { s with capabilities := s.capabilities.union (.ofList [c]) }
  | .response type => { s with response := some type }
  | .resource kind => { s with resource := some kind }
  | .resourceId field => { s with resourceId := some field }
  | .cacheKey field => { s with cacheKey := some field }
  | .cacheExpiration secs => { s with cacheExpiration := some secs }

def ofArguments (as : List RequestArgument) : RequestSettings := as.foldl add empty

def merge (s later : RequestSettings) : RequestSettings where
  response := later.response.or s.response
  capabilities := s.capabilities.union later.capabilities
  resource := later.resource.or s.resource
  resourceId := later.resourceId.or s.resourceId
  cacheKey := later.cacheKey.or s.cacheKey
  cacheExpiration := later.cacheExpiration.or s.cacheExpiration

def ofAttributes (as : List Attribute) : Except Rejection RequestSettings :=
  as.foldlM (fun s a => do return s.merge (ofArguments (← a.arguments RequestArgument.value))) empty

end RequestSettings

structure ResourceRule where
  /-- `none`: the name of the type. -/
  kind : Option String
  idField : Option String
deriving DecidableEq, Repr, Inhabited

structure RequestImplementation where
  type : String
  parameters : String
  response : String
  capabilities : Capabilities
  resource : Option ResourceRule
  cacheKey : Option String
  cacheExpiration : Option UInt64
deriving Repr, Inhabited

namespace RequestImplementation

/-- The implementation for a type with these settings. The response is nothing unless a type is
given; there is a rule for the resource if anything is said about it. -/
def ofSettings (i : Item) (s : RequestSettings) : RequestImplementation where
  type := i.type
  parameters := i.parameters
  response := Token.compact (s.response.getD [.group .parenthesis []])
  capabilities := s.capabilities
  resource :=
    if s.resource.isSome || s.resourceId.isSome then some ⟨s.resource, s.resourceId⟩ else none
  cacheKey := s.cacheKey
  cacheExpiration := s.cacheExpiration

def ofItem (i : Item) : Except Rejection RequestImplementation :=
  (RequestSettings.ofAttributes (i.attributesCalled "request")).map (ofSettings i)

def ofText (text : String) : Except Rejection RequestImplementation := Item.ofText text >>= ofItem

end RequestImplementation

end Mediator.Declaration
