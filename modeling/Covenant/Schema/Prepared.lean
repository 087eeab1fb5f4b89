import Covenant.Schema.Engine

/-!
# Schemas ready for checking

Before a schema checks anything it is prepared, and preparing it can fail; the first problem
found is the reason. The steps run in this order:

1. the draft is read from the root's `$schema`;
2. the root's location is read from its identifier, and the schema is crawled for the
   locations, anchors and outside references of its subschemas (`Registry.ofSchema`);
3. the schema is checked against its draft's meta-schema (a lone `true` or `false` needs
   no check);
4. every keyword the draft knows is looked at in order, and every subschema and every
   reference reached from it: references must resolve and lead to schemas, patterns must
   compile, and keyword values must have the right kind where the meta-schema does not
   already say so.
-/

namespace Covenant.Schema

/-- A schema that passed preparation, with the scope its root is read in. -/
structure Prepared where
  scope : Scope
  schema : Json

/-- The message for a keyword value of the wrong kind. -/
def kindProblem (value : Json) (kind : String) : String :=
  let shown := value.render
  s!"{shown} is not of type \"{kind}\""

/-- What is wrong with a count limit: it must be a non-negative whole number. -/
def countProblem (value : Json) : Option String :=
  match value with
  | .num (.neg _) =>
    let shown := value.render
    some s!"{shown} is less than the minimum of 0"
  | .num n => if n.count?.isSome then none else some (kindProblem value "integer")
  | _ => some (kindProblem value "integer")

/-- What is wrong with a `type` value: a type name, or a list of type names. -/
def typeProblem (value : Json) : Option String :=
  let nameProblem (item : Json) : Option String :=
    match item with
    | .str name =>
      if typeOrder.contains name then none
      else
        let shown := item.render
        let listed := candidates (typeOrder.map Json.str)
        some s!"{shown} is not one of {listed}"
    | _ => some (kindProblem item "string")
  match value with
  | .str _ => nameProblem value
  | .arr items => items.findSome? nameProblem
  | _ =>
    let shown := value.render
    some s!"{shown} is not of types \"array\", \"string\""

/-- What is wrong with a list of property names. -/
def namesProblem (value : Json) : Option String :=
  match value with
  | .arr items => items.findSome? fun i => if i.getStr?.isSome then none else some (kindProblem i "string")
  | _ => some (kindProblem value "array")

/-- Stops at the first problem of a list of steps, threading the places already visited. -/
def firstProblem {α : Type} (items : List α) (seen : List String)
    (step : α → List String → Except String (List String)) : Except String (List String) :=
  items.foldlM (fun seen item => step item seen) seen

/-- Where a reference keyword leads when preparing: the key naming the place (to stop at
places already visited), and the scope and schema there. -/
def referencePlace (scope : Scope) (key text : String) : Except String (String × Scope × Json) := do
  if key == "$recursiveRef" then
    match scope.followRecursive with
    | some (inner, target) => pure (inner.base.render ++ "#recursive", inner, target)
    | none => throw s!"Pointer '' does not exist"
  else
    let resolved ← Uri.resolveText scope.base text
    let target ← scope.registry.lookup scope.base text
    let trail :=
      if scope.trail.isEmpty || target.document.render != scope.base.render then scope.base :: scope.trail
      else scope.trail
    pure (resolved.render, { scope with base := target.base, draft := target.draft, trail := trail },
      target.schema)

/-- Looks at a schema and everything reachable from it, stopping at the first problem.
`seen` holds the places references already led to, so a cycle of references ends. -/
def schemaProblem : Nat → Scope → Json → List String → Except String (List String)
  | 0, _, _, seen => .ok seen
  | fuel + 1, scope, schema, seen =>
    match schema with
    | .bool _ => .ok seen
    | .obj fields => do
      let base ← match scope.draft.idOf schema with
        | some id => Uri.resolveText scope.base id
        | none => pure scope.base
      let scope := { scope with base := base }
      let d := scope.draft
      let sub (s : Json) (seen : List String) := schemaProblem fuel scope s seen
      let check (problem : Option String) (seen : List String) : Except String (List String) :=
        match problem with
        | some p => .error p
        | none => .ok seen
      firstProblem (activeFields d fields) seen fun (key, value) seen =>
        match key with
        | "$ref" | "$dynamicRef" | "$recursiveRef" =>
          if (key == "$dynamicRef" && d != .draft2020) || (key == "$recursiveRef" && d != .draft2019) then
            .ok seen
          else
            match value with
            | .str text => do
              let (place, inner, target) ← referencePlace scope key text
              if seen.contains place then pure seen
              else schemaProblem fuel inner target (place :: seen)
            | _ => .error (kindProblem value "string")
        | "properties" =>
          match value with
          | .obj members => firstProblem members seen fun (_, s) => sub s
          | _ => .error (kindProblem value "object")
        | "patternProperties" =>
          match value with
          | .obj members =>
            firstProblem members seen fun (p, s) seen =>
              if patternCompiles p then sub s seen
              else
                let shown := value.render
                .error s!"{shown} is not a \"regex\""
          | _ => .error (kindProblem value "object")
        | "dependentSchemas" =>
          if !d.atLeast .draft2019 then .ok seen
          else match value with
            | .obj members => firstProblem members seen fun (_, s) => sub s
            | _ => .error (kindProblem value "object")
        | "dependentRequired" =>
          if !d.atLeast .draft2019 then .ok seen
          else match value with
            | .obj members => firstProblem members seen fun (_, names) => check (namesProblem names)
            | _ => .error (kindProblem value "object")
        | "dependencies" =>
          match value with
          | .obj members =>
            firstProblem members seen fun (_, dep) seen =>
              match dep with
              | .arr _ => check (namesProblem dep) seen
              | _ => sub dep seen
          | _ => .error (kindProblem value "object")
        | "additionalProperties" | "not" => sub value seen
        | "propertyNames" | "contains" => if d.atLeast .draft6 then sub value seen else .ok seen
        | "unevaluatedItems" | "unevaluatedProperties" =>
          if d.atLeast .draft2019 then sub value seen else .ok seen
        | "if" =>
          if !d.atLeast .draft7 then .ok seen
          else do
            let seen ← sub value seen
            let seen ← match fields.lookup "then" with
              | some t => sub t seen
              | none => pure seen
            match fields.lookup "else" with
            | some e => sub e seen
            | none => pure seen
        | "items" =>
          match value with
          | .arr schemas => if d == .draft2020 then sub value seen else firstProblem schemas seen sub
          | _ => sub value seen
        | "prefixItems" =>
          if d != .draft2020 then .ok seen
          else match value with
            | .arr schemas => firstProblem schemas seen sub
            | _ => .error (kindProblem value "array")
        | "additionalItems" =>
          if d == .draft2020 then .ok seen
          else match fields.lookup "items" with
            | some (.arr _) => sub value seen
            | _ => .ok seen
        | "allOf" | "anyOf" | "oneOf" =>
          match value with
          | .arr schemas => firstProblem schemas seen sub
          | _ => .error (kindProblem value "array")
        | "pattern" =>
          match value with
          | .str p =>
            if patternCompiles p then .ok seen
            else
              let shown := value.render
              .error s!"{shown} is not a \"regex\""
          | _ => .error (kindProblem value "string")
        | "type" => check (typeProblem value) seen
        | "enum" => if value.getArr?.isSome then .ok seen else .error (kindProblem value "array")
        | "required" => check (namesProblem value) seen
        | "minimum" | "maximum" | "multipleOf" =>
          match value with
          | .num _ => .ok seen
          | _ => .error (kindProblem value "number")
        | "exclusiveMinimum" | "exclusiveMaximum" =>
          if !d.atLeast .draft6 then .ok seen
          else match value with
            | .num _ => .ok seen
            | _ => .error (kindProblem value "number")
        | "minLength" | "maxLength" | "minItems" | "maxItems" | "minProperties" | "maxProperties" =>
          check (countProblem value) seen
        | "format" =>
          if d.assertsFormats && value.getStr?.isNone then .error (kindProblem value "string")
          else .ok seen
        | "contentMediaType" | "contentEncoding" =>
          if (d == .draft6 || d == .draft7) && value.getStr?.isNone then .error (kindProblem value "string")
          else .ok seen
        | _ => .ok seen
    | other =>
      let shown := other.render
      .error s!"{shown} is not of types \"boolean\", \"object\""

/-- Prepares a schema for checking, or says why it cannot be used. -/
def Prepared.ofSchema (schema : Json) : Except String Prepared := do
  let draft ← Draft.detect .draft2020 schema
  let (registry, base) ← Registry.ofSchema draft schema
  let isBoolean := match schema with
    | .bool _ => true
    | _ => false
  if !isBoolean then
    let (metaScope, metaSchema) := Scope.meta draft
    match violations nestingLimit metaScope metaSchema [] schema with
    | v :: _ => throw v.message
    | [] => pure ()
  let scope : Scope := { registry := registry, draft := draft, base := base }
  let _ ← schemaProblem nestingLimit scope schema []
  pure ⟨scope, schema⟩

/-- The violations of a value against a prepared schema. -/
def Prepared.check (p : Prepared) (value : Json) : List Violation :=
  violations nestingLimit p.scope p.schema [] value

end Covenant.Schema
