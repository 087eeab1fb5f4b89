import Covenant.Contract.Basic
import Covenant.Report
import Covenant.Route.Template
import Covenant.Route.Numeric

/-!
# Resolving requests to path templates

A request (method, path) resolves to the first candidate template whose item has an operation
for the method and whose segments fit the path: literal segments spell themselves, each
placeholder takes the path's segment as a parameter, and the rebuilt path must equal the
requested one after `canonicalJoin`. A typed path parameter rejects a value of the wrong kind
(a number where a string is declared, or the reverse); such a template is skipped, and the
mismatch is reported when asked. Candidates are taken in declaration order, or from most to
least specific (a stable sort). A miss always ends with a `path missing` finding.
-/

namespace Covenant.Route

/-- The order in which templates are tried. -/
inductive MatchOrder where
  | declared
  | specificity
  deriving DecidableEq, BEq, Repr

namespace MatchOrder

def name : MatchOrder → String
  | .declared => "declared"
  | .specificity => "specificity"

/-- Reads an order name without regard to case. -/
def parse? (s : String) : Option MatchOrder :=
  match s.toLower with
  | "declared" => some .declared
  | "specificity" => some .specificity
  | _ => none

end MatchOrder

/-- How a resolver tries templates and whether it reports parameter type mismatches. -/
structure ResolverConfig where
  matchOrder : MatchOrder := .declared
  reportParameterTypes : Bool := false
  deriving BEq, Repr

/-- Specificity order with type mismatches reported. -/
def ResolverConfig.strict : ResolverConfig := ⟨.specificity, true⟩

/-- The outcome of resolving one request. -/
structure Match where
  /-- The template and item matched, with the operation for the method. -/
  found : Option (String × PathItem × Operation)
  pathParams : List (String × String)
  findings : List Finding

namespace Match

def isMatch (m : Match) : Bool := m.found.isSome

def template (m : Match) : String := (m.found.map (·.1)).getD ""

def operation? (m : Match) : Option Operation := m.found.map (·.2.2)

end Match

/-- The first declared type that a value contradicts: a numeric value where a string is
declared, a non-numeric one where a number or integer is declared. -/
def rejectingType (types : List SchemaType) (value : String) : Option SchemaType :=
  let numeric := isNumeric value
  types.find? fun t =>
    match t with
    | .string => numeric
    | .number | .integer => !numeric
    | _ => false

/-- A path parameter whose value contradicts its declared type. -/
structure Mismatch where
  parameter : Parameter
  expected : SchemaType
  value : String

/-- "an" before integer, array and object, "a" otherwise. -/
def article : SchemaType → String
  | .integer | .array | .object => "an"
  | _ => "a"

/-- The finding of a mismatch for a request path, located at the parameter schema's `type`. -/
def Mismatch.toFinding (m : Mismatch) (path : String) : Finding :=
  let name := m.parameter.name
  let value := m.value
  let location := (m.parameter.schema.map (·.location)).getD .unknown
  if m.expected.isNumeric then
    let a := article m.expected
    let t := m.expected.name
    { kind := .path, subKind := some "number", hint := some Finding.invalidNumberHint,
      location := location,
      message := s!"Match for path '{path}', but the parameter '{name}' is not a number",
      reason := s!"The parameter '{name}' is defined as {a} '{t}', but the value '{value}' is not a number" }
  else
    { kind := .path, subKind := some "string", hint := some Finding.invalidStringHint,
      location := location,
      message := s!"Match for path '{path}', but the parameter '{name}' is a number",
      reason := s!"The parameter '{name}' is defined as a 'string', but the value '{value}' is a number" }

/-- How one template compares with a request path. -/
inductive Comparison where
  | fits (params : List (String × String))
  | mismatched (mismatches : List Mismatch)
  | differs

/-- Sets a parameter: a repeated name keeps its first position and takes the later value. -/
def setParam (params : List (String × String)) (name value : String) :
    List (String × String) :=
  if params.any (·.1 == name) then params.map (fun p => if p.1 == name then (name, value) else p)
  else params ++ [(name, value)]

/-- One segment of a comparison: a literal is copied into the rebuilt path; a placeholder
copies the requested segment, sets its parameter, and records a mismatch when the declared
types of the parameter it names reject the value. -/
def compareStep (item : PathItem) (op : Operation)
    (acc : List String × List (String × String) × List Mismatch) (pair : Segment × String) :
    List String × List (String × String) × List Mismatch :=
  let (rebuilt, params, mismatches) := acc
  match pair with
  | (.literal text, _) => (rebuilt ++ [text], params, mismatches)
  | (.placeholder _ name, value) =>
    let mismatches :=
      match item.pathParameter op name with
      | some p =>
        match rejectingType p.types value with
        | some t => mismatches ++ [⟨p, t, value⟩]
        | none => mismatches
      | none => mismatches
    (rebuilt ++ [value], setParam params name value, mismatches)

/-- Compares a template's segments with the requested segments. -/
def compare (template : Template) (requested : List String) (item : PathItem)
    (op : Operation) : Comparison :=
  if template.segments.length ≠ requested.length then .differs
  else
    let (rebuilt, params, mismatches) :=
      (template.segments.zip requested).foldl (compareStep item op) ([], [], [])
    if canonicalJoin rebuilt ≠ canonicalJoin requested then .differs
    else if mismatches.isEmpty then .fits params
    else .mismatched mismatches

/-- Resolves a request against candidates in order. -/
def resolve (candidates : List (String × PathItem)) (verb : Option Verb) (path : String)
    (report : Bool) : Match :=
  let requested := splitSegments path
  let rec go : List (String × PathItem) → List Finding → Match
    | [], errors => ⟨none, [], errors ++ [Finding.pathMissing path]⟩
    | (template, item) :: rest, errors =>
      match verb.bind item.operation with
      | none => go rest errors
      | some op =>
        if path = template then ⟨some (template, item, op), [], []⟩
        else
          match compare (Template.ofString template) requested item op with
          | .fits params => ⟨some (template, item, op), params, []⟩
          | .mismatched ms =>
            go rest (if report then errors ++ ms.map (·.toFinding path) else errors)
          | .differs => go rest errors
  go candidates []

/-- A resolver: a contract, its configuration, and the candidate order. -/
structure Resolver where
  contract : Contract
  config : ResolverConfig
  /-- The contract's paths in the order they are tried. -/
  candidates : List (String × PathItem)

namespace Resolver

/-- Orders the contract's templates; the specificity sort is stable. -/
def new (contract : Contract) (config : ResolverConfig) : Resolver :=
  let candidates :=
    match config.matchOrder with
    | .declared => contract.paths
    | .specificity =>
      contract.paths.mergeSort (fun a b => specificity a.1 b.1 != .gt)
  ⟨contract, config, candidates⟩

def findPath (r : Resolver) (method : Method) (path : String) : Match :=
  resolve r.candidates method.verb? path r.config.reportParameterTypes

def hasPath (r : Resolver) (method : Method) (path : String) : Bool :=
  (r.findPath method path).isMatch

/-- The templates, in trial order, whose item has an operation for the method. -/
def templatesFor (r : Resolver) (method : Method) : List String :=
  (r.candidates.filter (fun (_, item) => (method.verb?.bind item.operation).isSome)).map (·.1)

/-- The verbs, in their order, for which some path has an operation. -/
def verbs (r : Resolver) : List Verb :=
  Verb.all.filter (fun v => r.contract.paths.any (fun (_, item) => (item.operation v).isSome))

end Resolver

/-- Resolves in declaration order without reporting type mismatches. -/
def findPath (contract : Contract) (method : Method) (path : String) : Match :=
  resolve contract.paths method.verb? path false

end Covenant.Route
