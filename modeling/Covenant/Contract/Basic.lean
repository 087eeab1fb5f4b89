import Covenant.Json.Value
import Covenant.SourceIndex.Basic

/-!
# Contracts

A contract maps path templates, in declaration order, to path items. A path item holds shared
parameters and at most one operation for each of eight request methods; its operations are
always listed in the order GET, PUT, POST, DELETE, OPTIONS, HEAD, PATCH, TRACE. Adding a path
that is already present replaces its item and keeps its position.
-/

namespace Covenant

/-- The request methods that can carry operations, in their listing order. -/
inductive Verb where
  | get | put | post | delete | options | head | patch | trace
  deriving DecidableEq, BEq, Repr

namespace Verb

def all : List Verb := [.get, .put, .post, .delete, .options, .head, .patch, .trace]

/-- The method name, in capitals. -/
def name : Verb → String
  | .get => "GET"
  | .put => "PUT"
  | .post => "POST"
  | .delete => "DELETE"
  | .options => "OPTIONS"
  | .head => "HEAD"
  | .patch => "PATCH"
  | .trace => "TRACE"

/-- The verb of an exact method name; names are case-sensitive. -/
def ofName? (s : String) : Option Verb := all.find? (fun v => v.name == s)

end Verb

/-- A request method: a non-empty token of HTTP's token characters. -/
structure Method where
  name : String
  deriving BEq, Repr

namespace Method

/-- HTTP token characters: letters, digits and ``!#$%&'*+-.^_`|~``. -/
def isTokenChar (c : Char) : Bool :=
  (c.toNat < 128 && c.isAlphanum) || "!#$%&'*+-.^_`|~".toList.contains c

/-- Accepts a method name made of token characters only. -/
def parse? (s : String) : Option Method :=
  if !s.isEmpty && s.toList.all isTokenChar then some ⟨s⟩ else none

/-- The verb this method carries operations for, if any. -/
def verb? (m : Method) : Option Verb := Verb.ofName? m.name

end Method

/-- The JSON Schema type names a parameter schema may declare. -/
inductive SchemaType where
  | string | number | integer | boolean | array | object | null
  deriving DecidableEq, BEq, Repr

namespace SchemaType

def name : SchemaType → String
  | .string => "string"
  | .number => "number"
  | .integer => "integer"
  | .boolean => "boolean"
  | .array => "array"
  | .object => "object"
  | .null => "null"

def all : List SchemaType := [.string, .number, .integer, .boolean, .array, .object, .null]

def ofName? (s : String) : Option SchemaType := all.find? (fun t => t.name == s)

def isNumeric : SchemaType → Bool
  | .number | .integer => true
  | _ => false

end SchemaType

/-- Where a parameter is carried. -/
inductive ParameterLocation where
  | path | query | header | cookie
  deriving DecidableEq, BEq, Repr

namespace ParameterLocation

def name : ParameterLocation → String
  | .path => "path"
  | .query => "query"
  | .header => "header"
  | .cookie => "cookie"

def ofName? (s : String) : Option ParameterLocation :=
  [ParameterLocation.path, .query, .header, .cookie].find? (fun l => l.name == s)

end ParameterLocation

/-- A schema: its declared types, where its `type` key sits, and its rendered value. -/
structure SchemaDefinition where
  types : List SchemaType
  location : Location
  value : Json

namespace SchemaDefinition

/-- The declared types of a schema value: a known `type` name, or the known names of a
`type` list in order, repeats kept. -/
def typesOf (value : Json) : List SchemaType :=
  match value.get? "type" with
  | some (.str name) => (SchemaType.ofName? name).toList
  | some (.arr names) => names.filterMap (fun n => n.getStr?.bind SchemaType.ofName?)
  | _ => []

/-- A schema read from a value, at an unknown location. -/
def ofValue (value : Json) : SchemaDefinition := ⟨typesOf value, .unknown, value⟩

/-- The schema `{"type": t}`. -/
def ofType (t : SchemaType) : SchemaDefinition := ofValue (.obj [("type", .str t.name)])

def withLocation (s : SchemaDefinition) (l : Location) : SchemaDefinition :=
  { s with location := l }

end SchemaDefinition

/-- A parameter; path parameters are required unless stated otherwise. -/
structure Parameter where
  name : String
  location : ParameterLocation
  required : Bool
  schema : Option SchemaDefinition := none

namespace Parameter

def new (name : String) (location : ParameterLocation) : Parameter :=
  ⟨name, location, location == .path, none⟩

def types (p : Parameter) : List SchemaType := (p.schema.map (·.types)).getD []

def isPathNamed (p : Parameter) (name : String) : Bool := p.location == .path && p.name == name

end Parameter

/-- An operation of a path item. -/
structure Operation where
  operationId : Option String := none
  parameters : List Parameter := []
  requestBody : Option SchemaDefinition := none
  deprecated : Bool := false
  tags : List String := []

/-- A path item: shared parameters and one optional operation per verb. -/
structure PathItem where
  parameters : List Parameter := []
  slots : Verb → Option Operation := fun _ => none

namespace PathItem

def operation (item : PathItem) (v : Verb) : Option Operation := item.slots v

/-- Sets the operation of a verb. -/
def withOperation (item : PathItem) (v : Verb) (op : Operation) : PathItem :=
  { item with slots := fun w => if w = v then some op else item.slots w }

/-- The operations present, in verb order. -/
def operations (item : PathItem) : List (Verb × Operation) :=
  Verb.all.filterMap (fun v => (item.slots v).map (v, ·))

/-- The path parameter of a name for an operation: its own parameters first, then the
shared ones. -/
def pathParameter (item : PathItem) (op : Operation) (name : String) : Option Parameter :=
  (op.parameters ++ item.parameters).find? (·.isPathNamed name)

end PathItem

/-- A contract: title, version, and path items by template in declaration order. -/
structure Contract where
  title : String := ""
  version : String := ""
  paths : List (String × PathItem) := []

namespace Contract

/-- Adds a path; a template already present keeps its position and takes the new item. -/
def addPath (c : Contract) (template : String) (item : PathItem) : Contract :=
  if c.paths.any (·.1 == template) then
    { c with paths := c.paths.map (fun p => if p.1 == template then (template, item) else p) }
  else { c with paths := c.paths ++ [(template, item)] }

def pathItem? (c : Contract) (template : String) : Option PathItem :=
  (c.paths.find? (·.1 == template)).map (·.2)

def operationCount (c : Contract) : Nat :=
  (c.paths.map (fun p => p.2.operations.length)).foldr (· + ·) 0

/-- The first operation with an id: templates in order, then verbs in order. -/
def findOperation (c : Contract) (id : String) : Option (String × Verb × Operation) :=
  c.paths.findSome? (fun (t, item) =>
    (item.operations.find? (fun (_, op) => op.operationId == some id)).map
      (fun (v, op) => (t, v, op)))

end Contract

end Covenant
