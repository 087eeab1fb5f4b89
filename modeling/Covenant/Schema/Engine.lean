import Covenant.Json.Writer
import Covenant.Json.Reader
import Covenant.Pointer
import Covenant.Schema.Number
import Covenant.Pattern.Compiled
import Covenant.Schema.Format
import Covenant.Schema.Registry
import Covenant.Text.Base64

/-!
# Checking values against schemas

A schema is `true`, `false`, or an object of keywords. Checking a value yields the list of
violations: for each keyword, in the order the schema lists them, the failures it finds,
each with the path of the failing keyword inside the schema. A value is valid exactly when
the list is empty.

Keywords that apply subschemas extend the keyword path: `properties/name/...`,
`items/...`, `allOf/0/...`, `$ref/...`. A reference is followed into the schema it points
at, and the path records the `$ref` step. Applicators that only ask whether a subschema
holds (`anyOf`, `oneOf`, `not`, `if`, `contains`) report one failure of their own.

What a keyword means depends on the draft the schema is read under (`Schema.Draft`):

* up to draft 7 `$ref` hides the other keywords of its schema, `items` may be a list of
  schemas with `additionalItems` for the rest, and `format`, `contentMediaType` and
  `contentEncoding` are checked;
* draft 4 counts only integers written without a fraction as `integer`, and makes
  `exclusiveMinimum`/`exclusiveMaximum` booleans that tighten `minimum`/`maximum`;
* `const`, `contains`, `propertyNames` and numeric exclusive bounds come with draft 6,
  `if`/`then`/`else` with draft 7, the `dependent*` and `unevaluated*` keywords and
  `min`/`maxContains` with 2019-09, `prefixItems` with 2020-12;
* a single-schema `items` beside a list `prefixItems` skips the prefix's length in every
  draft, even where `prefixItems` itself checks nothing.
-/

namespace Covenant.Schema

/-- One failing keyword: where it sits in the schema and what went wrong. -/
structure Violation where
  keywordPath : List String
  message : String

/-- Where a schema is read: the registry references are looked up in, the draft, the base
location, and the locations left by following references, innermost first. -/
structure Scope where
  registry : Registry
  draft : Draft
  base : Uri.Reference
  trail : List Uri.Reference := []

/-- The scope inside a schema object: its identifier, if it declares one, moves the base. -/
def Scope.enter (scope : Scope) (schema : Json) : Scope :=
  match scope.draft.idOf schema with
  | some id =>
    match Uri.resolveText scope.base id with
    | .ok b => { scope with base := b }
    | .error _ => scope
  | none => scope

/-- Follows a reference: the scope of the place it leads to, and the schema there. -/
def Scope.follow (scope : Scope) (text : String) : Option (Scope × Json) :=
  match scope.registry.lookup scope.base text with
  | .ok t =>
    let trail :=
      if scope.trail.isEmpty || t.document.render != scope.base.render then scope.base :: scope.trail
      else scope.trail
    some ({ scope with base := t.base, draft := t.draft, trail := trail }, t.schema)
  | .error _ => none

/-- Whether a schema sets `$recursiveAnchor`. -/
def setsRecursiveAnchor (schema : Json) : Bool := (schema.get? "$recursiveAnchor").bind Json.getBool? == some true

/-- Follows `$recursiveRef`: to the root of the current document, and when that sets
`$recursiveAnchor`, outwards through the documents left by references for as long as each
sets it too. -/
def Scope.followRecursive (scope : Scope) : Option (Scope × Json) :=
  match scope.follow "#" with
  | none => none
  | some (inner, target) =>
    if !setsRecursiveAnchor target then some (inner, target)
    else
      let rec outwards (current : Scope × Json) : List Uri.Reference → Scope × Json
        | [] => current
        | location :: rest =>
          match scope.follow location.render with
          | none => current
          | some (s, t) =>
            match t with
            | .bool true => current
            | .obj _ => if setsRecursiveAnchor t then outwards (s, t) rest else current
            | _ => outwards (s, t) rest
      some (outwards (inner, target) scope.trail)

/-- The scope and root schema of a draft's meta-schema. -/
def Scope.meta (d : Draft) : Scope × Json :=
  let location := (Uri.locate d.location).toOption.getD Uri.defaultBase
  let schema := ((Registry.known.find? location.render).map (·.contents)).getD (.bool true)
  ({ registry := Registry.known, draft := d, base := location }, schema)

/-! ## Messages -/

/-- The type names in the order messages list them. -/
def typeOrder : List String := ["array", "boolean", "integer", "null", "number", "object", "string"]

/-- Whether a value has the named type. `integer` takes every number without a fraction, or
with `strictIntegers` only numbers written as integers. -/
def hasType (strictIntegers : Bool) (name : String) (value : Json) : Bool :=
  match name, value with
  | "array", .arr _ => true
  | "boolean", .bool _ => true
  | "integer", .num n =>
    if strictIntegers then
      match n with
      | .float _ => false
      | _ => true
    else n.isWhole
  | "null", .null => true
  | "number", .num _ => true
  | "object", .obj _ => true
  | "string", .str _ => true
  | _, _ => false

/-- Items joined with `, `, and with ` or ` before the last. -/
def joinOr : List String → String
  | [] => ""
  | [x] => x
  | xs => ", ".intercalate xs.dropLast ++ " or " ++ (xs.getLast?.getD "")

/-- The candidates of an `enum` in a message: up to three in full, otherwise the first two
and how many others there are. -/
def candidates (options : List Json) : String :=
  if options.length ≤ 3 then joinOr (options.map Json.render)
  else
    let shown := ", ".intercalate ((options.take 2).map Json.render)
    let others := options.length - 2
    s!"{shown} or {others} other candidates"

/-- Quoted names listed for an unexpected-member message, with the right verb. -/
def unexpectedList (names : List String) : String :=
  let quoted := ", ".intercalate (names.map fun n => "'" ++ n ++ "'")
  let verb := if names.length == 1 then "was" else "were"
  s!"{quoted} {verb} unexpected"

/-- The plural ending of a count. -/
def plural (n : Nat) (one many : String) : String := if n == 1 then one else many

/-- A number as a count limit, when it is one. -/
def countOf : Json → Option Nat
  | .num n => n.count?
  | _ => none

/-- The members of an object schema value, empty for anything else. -/
def membersOf (v : Json) : List (String × Json) := (v.getObj?).getD []

/-- Whether a text matches a pattern; an invalid pattern matches nothing. -/
def patternMatches (pattern text : String) : Bool :=
  match Pattern.Compiled.ofText? pattern with
  | some c => c.matches text
  | none => false

/-- Whether a text is a pattern that compiles. -/
def patternCompiles (pattern : String) : Bool := (Pattern.Compiled.ofText? pattern).isSome

/-- The text of a pattern as messages show it: with its class abbreviations written out. -/
def patternShown (pattern : String) : String :=
  match Pattern.Compiled.ofText? pattern with
  | some c => c.shown
  | none => pattern

/-- Whether a `const` value accepts a value: numbers within the machine epsilon of each
other as doubles, anything else by equality. -/
def constAccepts (expected value : Json) : Bool :=
  match expected, value with
  | .num a, .num b => Float.abs (a.toFloat - b.toFloat) < Binary64.ofRat false 1 (Nat.pow 2 52)
  | .num _, _ => false
  | _, _ => sameValue expected value

/-- Whether a text is a JSON document. -/
def isJsonText (text : String) : Bool := (Json.read text).toOption.isSome

/-- A checker of subschemas: scope, subschema, keyword path, value. -/
abbrev Checker := Scope → Json → List String → Json → List Violation

/-! ## Evaluated members and items -/

/-- Where a reference keyword leads, in a scope. -/
def referenceTarget (scope : Scope) (key : String) (v : Json) : Option (Scope × Json) :=
  match key, v with
  | "$ref", .str r => scope.follow r
  | "$dynamicRef", .str r => if scope.draft == .draft2020 then scope.follow r else none
  | "$recursiveRef", .str _ => if scope.draft == .draft2019 then scope.followRecursive else none
  | _, _ => none

/-- The member names of an object value that a schema evaluates, given a test of validity:
those its `properties`, `patternProperties`, `additionalProperties` and
`unevaluatedProperties` reach, and those reached by subschemas that hold. -/
def evaluatedNames (valid : Scope → Json → Json → Bool) :
    Nat → Scope → Json → Json → List String
  | 0, _, _, _ => []
  | fuel + 1, scope, schema, value =>
    let scope := scope.enter schema
    let names := (membersOf value).map (·.1)
    let fields := membersOf schema
    fields.flatMap fun (key, v) =>
      match key with
      | "properties" => names.filter fun n => (membersOf v).any (·.1 == n)
      | "patternProperties" => names.filter fun n => (membersOf v).any fun p => patternMatches p.1 n
      | "additionalProperties" | "unevaluatedProperties" => names
      | "allOf" => ((v.getArr?).getD []).flatMap fun s => evaluatedNames valid fuel scope s value
      | "anyOf" | "oneOf" => ((v.getArr?).getD []).flatMap fun s =>
        if valid scope s value then evaluatedNames valid fuel scope s value else []
      | "if" =>
        if valid scope v value then
          evaluatedNames valid fuel scope v value ++
            ((fields.lookup "then").map fun t => evaluatedNames valid fuel scope t value).getD []
        else ((fields.lookup "else").map fun e => evaluatedNames valid fuel scope e value).getD []
      | "dependentSchemas" => (membersOf v).flatMap fun (p, s) =>
        if names.contains p then evaluatedNames valid fuel scope s value else []
      | "$ref" | "$dynamicRef" | "$recursiveRef" =>
        match referenceTarget scope key v with
        | some (inner, s) => evaluatedNames valid fuel inner s value
        | none => []
      | _ => []

/-- The item indices of an array value that a schema evaluates, given a test of validity. -/
def evaluatedItems (valid : Scope → Json → Json → Bool) :
    Nat → Scope → Json → Json → List Nat
  | 0, _, _, _ => []
  | fuel + 1, scope, schema, value =>
    let scope := scope.enter schema
    let items := (value.getArr?).getD []
    let all := List.range items.length
    let fields := membersOf schema
    fields.flatMap fun (key, v) =>
      match key with
      | "prefixItems" =>
        if scope.draft == .draft2020 then List.range (min items.length ((v.getArr?).getD []).length)
        else []
      | "items" =>
        match v with
        | .arr schemas => if scope.draft == .draft2020 then [] else List.range (min items.length schemas.length)
        | _ => all
      | "additionalItems" =>
        if scope.draft != .draft2020 && ((fields.lookup "items").bind Json.getArr?).isSome then all else []
      | "unevaluatedItems" => all
      | "contains" => all.filter fun i => valid scope v (items.getD i .null)
      | "allOf" => ((v.getArr?).getD []).flatMap fun s => evaluatedItems valid fuel scope s value
      | "anyOf" | "oneOf" => ((v.getArr?).getD []).flatMap fun s =>
        if valid scope s value then evaluatedItems valid fuel scope s value else []
      | "if" =>
        if valid scope v value then
          evaluatedItems valid fuel scope v value ++
            ((fields.lookup "then").map fun t => evaluatedItems valid fuel scope t value).getD []
        else ((fields.lookup "else").map fun e => evaluatedItems valid fuel scope e value).getD []
      | "$ref" | "$dynamicRef" | "$recursiveRef" =>
        match referenceTarget scope key v with
        | some (inner, s) => evaluatedItems valid fuel inner s value
        | none => []
      | _ => []

/-- How deep the search for evaluated members and items goes. -/
def evaluationDepth : Nat := 64

/-! ## Keywords -/

/-- The members of an object value checked by `additionalProperties`, together with
`properties` and `patternProperties` beside it: a member named in `properties` is checked
against that schema and the patterns it matches; any other member against the patterns it
matches, and when it matches none, against the additional schema. With `false` as the
additional schema, such members are collected and reported together at the end. -/
def additionalViolations (sub : Checker) (scope : Scope) (siblings : List (String × Json))
    (additional : Json) (path : List String) (members : List (String × Json)) :
    List Violation :=
  let props : Option (List (String × Json)) := (siblings.lookup "properties").bind Json.getObj?
  let patterns : List (String × Json) :=
    ((siblings.lookup "patternProperties").bind Json.getObj?).getD []
  let perMember : List (List Violation × Option String) := members.map fun (name, v) =>
    let matching := patterns.filter fun p => patternMatches p.1 name
    let patternErrors := matching.flatMap fun (p, s) =>
      sub scope s (path ++ ["patternProperties", p]) v
    match props.bind (·.lookup name) with
    | some s => (sub scope s (path ++ ["properties", name]) v ++ patternErrors, none)
    | none =>
      if !matching.isEmpty then (patternErrors, none)
      else
        match additional with
        | .bool false => ([], some name)
        | _ => (sub scope additional (path ++ ["additionalProperties"]) v, none)
  let unexpected := perMember.filterMap (·.2)
  let tail :=
    if unexpected.isEmpty then []
    else
      let listed := unexpectedList unexpected
      [⟨path ++ ["additionalProperties"], s!"Additional properties are not allowed ({listed})"⟩]
  perMember.flatMap (·.1) ++ tail

/-- Whether `additionalProperties` beside a keyword takes over `properties` and
`patternProperties`: it does when it is `false` or a schema object. -/
def additionalTakesOver (siblings : List (String × Json)) : Bool :=
  match siblings.lookup "additionalProperties" with
  | some (.bool false) | some (.obj _) => true
  | _ => false

/-- The failures of a lower or upper bound: `exclusive` makes the bound itself fail too, and
the failure is reported at `at_`. -/
def boundViolations (here : List String) (lower exclusive : Bool) (limit : Json) (inst : Json) :
    List Violation :=
  match limit, inst with
  | .num l, .num n =>
    let a := n.exact
    let b := l.exact
    let shown := inst.render
    let bound := limit.render
    match lower, exclusive with
    | true, false => if a.lt b then [⟨here, s!"{shown} is less than the minimum of {bound}"⟩] else []
    | false, false => if b.lt a then [⟨here, s!"{shown} is greater than the maximum of {bound}"⟩] else []
    | true, true =>
      if a.le b then [⟨here, s!"{shown} is less than or equal to the minimum of {bound}"⟩] else []
    | false, true =>
      if b.le a then [⟨here, s!"{shown} is greater than or equal to the maximum of {bound}"⟩] else []
  | _, _ => []

/-- The failures of the content keywords of drafts 6 and 7 on a string: the encoding is
decoded first, then the media type is checked on the result. Only `base64` and
`application/json` are known; other names check nothing. Decoded bytes that are not UTF-8
fail without a keyword path: the value is refused, but no keyword is to blame. -/
def contentViolations (path : List String) (siblings : List (String × Json)) (key : String)
    (inst : Json) : List Violation :=
  match inst with
  | .str s =>
    let shown := inst.render
    let encodingFailure : Violation :=
      ⟨path ++ ["contentEncoding"], s!"{shown} is not compliant with \"base64\" content encoding"⟩
    let mediaFailure : Violation :=
      ⟨path ++ ["contentMediaType"], s!"{shown} is not compliant with \"application/json\" media type"⟩
    match key, siblings.lookup "contentMediaType", siblings.lookup "contentEncoding" with
    | "contentMediaType", some (.str "application/json"), some (.str encoding) =>
      if encoding != "base64" then []
      else
        match Text.Base64.decode? s with
        | none => [encodingFailure]
        | some bytes =>
          match String.fromUTF8? (ByteArray.mk bytes.toArray) with
          | some text => if isJsonText text then [] else [mediaFailure]
          | none => [⟨[], "invalid utf-8 sequence"⟩]
    | "contentMediaType", some (.str "application/json"), _ => if isJsonText s then [] else [mediaFailure]
    | "contentEncoding", none, some (.str "base64") =>
      if (Text.Base64.decode? s).isSome then [] else [encodingFailure]
    | _, _, _ => []
  | _ => []

/-- The failures of one keyword of an object schema. `sub` checks subschemas, `siblings`
are the schema's members, and `path` is the schema's own keyword path. -/
def keywordViolations (sub : Checker) (scope : Scope) (siblings : List (String × Json))
    (key : String) (value : Json) (path : List String) (inst : Json) : List Violation :=
  let here := path ++ [key]
  let fail (message : String) : List Violation := [⟨here, message⟩]
  let valid (s : Json) (v : Json) : Bool := (sub scope s [] v).isEmpty
  let shown := inst.render
  let d := scope.draft
  match key with
  | "type" =>
    let names : List String := match value with
      | .str t => [t]
      | .arr ts => ts.filterMap Json.getStr?
      | _ => []
    if names.isEmpty || names.any (fun t => hasType (d == .draft4) t inst) then []
    else
      match names with
      | [t] => fail s!"{shown} is not of type \"{t}\""
      | _ =>
        let listed := ", ".intercalate
          ((typeOrder.filter names.contains).map fun t => "\"" ++ t ++ "\"")
        fail s!"{shown} is not of types {listed}"
  | "enum" =>
    match value with
    | .arr options =>
      if options.any (sameValue inst) then []
      else
        let listed := candidates options
        fail s!"{shown} is not one of {listed}"
    | _ => []
  | "const" =>
    if !d.atLeast .draft6 || constAccepts value inst then []
    else
      let expected := value.render
      fail s!"{expected} was expected"
  | "multipleOf" =>
    match value, inst with
    | .num m, .num n =>
      if multipleOf n.toFloat m.toFloat then []
      else
        let divisor := plainDecimal m.toFloat
        fail s!"{shown} is not a multiple of {divisor}"
    | _, _ => []
  | "minimum" | "maximum" =>
    let lower := key == "minimum"
    let flag := if lower then "exclusiveMinimum" else "exclusiveMaximum"
    let flagged := match siblings.lookup flag with
      | some (.bool true) => true
      | _ => false
    if d == .draft4 && flagged then
      boundViolations (path ++ [flag]) lower true value inst
    else boundViolations here lower false value inst
  | "exclusiveMinimum" | "exclusiveMaximum" =>
    if d.atLeast .draft6 then boundViolations here (key == "exclusiveMinimum") true value inst
    else []
  | "minLength" | "maxLength" =>
    match countOf value, inst with
    | some limit, .str s =>
      let ending := plural limit "character" "characters"
      if key == "minLength" then
        if s.length < limit then fail s!"{shown} is shorter than {limit} {ending}" else []
      else if s.length > limit then fail s!"{shown} is longer than {limit} {ending}" else []
    | _, _ => []
  | "minItems" | "maxItems" =>
    match countOf value, inst with
    | some limit, .arr xs =>
      let ending := plural limit "item" "items"
      if key == "minItems" then
        if xs.length < limit then fail s!"{shown} has less than {limit} {ending}" else []
      else if xs.length > limit then fail s!"{shown} has more than {limit} {ending}" else []
    | _, _ => []
  | "minProperties" | "maxProperties" =>
    match countOf value, inst with
    | some limit, .obj ms =>
      let ending := plural limit "property" "properties"
      if key == "minProperties" then
        if ms.length < limit then fail s!"{shown} has less than {limit} {ending}" else []
      else if ms.length > limit then fail s!"{shown} has more than {limit} {ending}" else []
    | _, _ => []
  | "uniqueItems" =>
    match value, inst with
    | .bool true, .arr xs => if allDistinct xs then [] else fail s!"{shown} has non-unique elements"
    | _, _ => []
  | "pattern" =>
    match value, inst with
    | .str p, .str s =>
      if patternMatches p s then []
      else
        let written := patternShown p
        fail s!"{shown} does not match \"{written}\""
    | _, _ => []
  | "format" =>
    match value, inst with
    | .str f, .str s =>
      if !d.assertsFormats || Format.holds Pattern.translates d f s then []
      else fail s!"{shown} is not a \"{f}\""
    | _, _ => []
  | "contentMediaType" | "contentEncoding" =>
    if d == .draft6 || d == .draft7 then contentViolations path siblings key inst else []
  | "required" =>
    match value, inst with
    | .arr names, .obj ms =>
      (names.filterMap Json.getStr?).filterMap fun n =>
        if ms.any (·.1 == n) then none
        else
          let quoted := (Json.str n).render
          some ⟨here, s!"{quoted} is a required property"⟩
    | _, _ => []
  | "dependencies" =>
    match inst with
    | .obj ms => (membersOf value).flatMap fun (p, dep) =>
      if !ms.any (·.1 == p) then []
      else
        match dep with
        | .arr reqs =>
          (reqs.filterMap Json.getStr?).filterMap fun n =>
            if ms.any (·.1 == n) then none
            else
              let quoted := (Json.str n).render
              some ⟨here, s!"{quoted} is a required property"⟩
        | s => sub scope s (here ++ [p]) inst
    | _ => []
  | "dependentRequired" =>
    match inst with
    | .obj ms =>
      if !d.atLeast .draft2019 then []
      else (membersOf value).flatMap fun (p, reqs) =>
        if ms.any (·.1 == p) then
          (((reqs.getArr?).getD []).filterMap Json.getStr?).filterMap fun n =>
            if ms.any (·.1 == n) then none
            else
              let quoted := (Json.str n).render
              some ⟨here, s!"{quoted} is a required property"⟩
        else []
    | _ => []
  | "dependentSchemas" =>
    match inst with
    | .obj ms =>
      if !d.atLeast .draft2019 then []
      else (membersOf value).flatMap fun (p, s) =>
        if ms.any (·.1 == p) then sub scope s (here ++ [p]) inst else []
    | _ => []
  | "properties" =>
    match inst with
    | .obj ms =>
      if additionalTakesOver siblings then []
      else (membersOf value).flatMap fun (name, s) =>
        match ms.lookup name with
        | some v => sub scope s (here ++ [name]) v
        | none => []
    | _ => []
  | "patternProperties" =>
    match inst with
    | .obj ms =>
      if additionalTakesOver siblings then []
      else (membersOf value).flatMap fun (p, s) =>
        ms.flatMap fun (name, v) => if patternMatches p name then sub scope s (here ++ [p]) v else []
    | _ => []
  | "additionalProperties" =>
    match value, inst with
    | .bool true, _ => []
    | _, .obj ms => additionalViolations sub scope siblings value path ms
    | _, _ => []
  | "propertyNames" =>
    match inst with
    | .obj ms => if d.atLeast .draft6 then ms.flatMap fun (name, _) => sub scope value here (.str name) else []
    | _ => []
  | "prefixItems" =>
    match value, inst with
    | .arr schemas, .arr xs =>
      if d != .draft2020 then []
      else ((List.range schemas.length).zip (schemas.zip xs)).flatMap fun (i, s, x) =>
        sub scope s (here ++ [toString i]) x
    | _, _ => []
  | "items" =>
    match value, inst with
    | .arr schemas, .arr xs =>
      if d == .draft2020 then []
      else ((List.range schemas.length).zip (schemas.zip xs)).flatMap fun (i, s, x) =>
        sub scope s (here ++ [toString i]) x
    | _, .arr xs =>
      let skip := match siblings.lookup "prefixItems" with
        | some (.arr ps) => ps.length
        | _ => 0
      (xs.drop skip).flatMap fun x => sub scope value here x
    | _, _ => []
  | "additionalItems" =>
    match siblings.lookup "items", inst with
    | some (.arr schemas), .arr xs =>
      if d == .draft2020 then []
      else
        let rest := xs.drop schemas.length
        match value with
        | .bool false =>
          if rest.isEmpty then []
          else
            let listed := ", ".intercalate (rest.map Json.render)
            let verb := if rest.length == 1 then "was" else "were"
            fail s!"Additional items are not allowed ({listed} {verb} unexpected)"
        | _ => rest.flatMap fun x => sub scope value here x
    | _, _ => []
  | "contains" =>
    match inst with
    | .arr xs =>
      if !d.atLeast .draft6 then []
      else
        let matched := (xs.filter (valid value)).length
        let message := s!"None of {shown} are valid under the given schema"
        let bound (k : String) : Option Nat :=
          if d.atLeast .draft2019 then countOf ((siblings.lookup k).getD .null) else none
        match bound "minContains", bound "maxContains" with
        | none, none => if matched == 0 then fail message else []
        | some lo, none => if matched < lo then [⟨path ++ ["minContains"], message⟩] else []
        | none, some hi =>
          if matched == 0 || matched > hi then [⟨path ++ ["maxContains"], message⟩] else []
        | some lo, some hi =>
          if matched < lo then [⟨path ++ ["minContains"], message⟩]
          else if matched > hi then [⟨path ++ ["maxContains"], message⟩]
          else []
    | _ => []
  | "if" =>
    if !d.atLeast .draft7 then []
    else if valid value inst then
      match siblings.lookup "then" with
      | some s => sub scope s (path ++ ["then"]) inst
      | none => []
    else
      match siblings.lookup "else" with
      | some s => sub scope s (path ++ ["else"]) inst
      | none => []
  | "allOf" =>
    let schemas := (value.getArr?).getD []
    ((List.range schemas.length).zip schemas).flatMap fun (i, s) =>
      sub scope s (here ++ [toString i]) inst
  | "anyOf" =>
    if ((value.getArr?).getD []).any (valid · inst) then []
    else fail s!"{shown} is not valid under any of the schemas listed in the 'anyOf' keyword"
  | "oneOf" =>
    let holding := (((value.getArr?).getD []).filter (valid · inst)).length
    if holding == 0 then
      fail s!"{shown} is not valid under any of the schemas listed in the 'oneOf' keyword"
    else if holding > 1 then
      fail s!"{shown} is valid under more than one of the schemas listed in the 'oneOf' keyword"
    else []
  | "not" =>
    if valid value inst then
      let schema := value.render
      fail s!"{schema} is not allowed for {shown}"
    else []
  | "$ref" | "$dynamicRef" | "$recursiveRef" =>
    match referenceTarget scope key value with
    | some (inner, s) => sub inner s here inst
    | none => []
  | "unevaluatedProperties" =>
    match inst with
    | .obj ms =>
      if !d.atLeast .draft2019 then []
      else
        let validIn (sc : Scope) (s : Json) (v : Json) : Bool := (sub sc s [] v).isEmpty
        let seen := evaluatedNames validIn evaluationDepth scope
          (.obj (siblings.filter (·.1 != key))) inst
        let unexpected := (ms.filter fun (n, v) => !seen.contains n && !valid value v).map (·.1)
        if unexpected.isEmpty then []
        else
          let listed := unexpectedList unexpected
          fail s!"Unevaluated properties are not allowed ({listed})"
    | _ => []
  | "unevaluatedItems" =>
    match inst with
    | .arr xs =>
      if !d.atLeast .draft2019 then []
      else
        let validIn (sc : Scope) (s : Json) (v : Json) : Bool := (sub sc s [] v).isEmpty
        let seen := evaluatedItems validIn evaluationDepth scope
          (.obj (siblings.filter (·.1 != key))) inst
        let unexpected := ((List.range xs.length).zip xs).filter fun (i, x) =>
          !seen.contains i && !valid value x
        if unexpected.isEmpty then []
        else
          let listed := ", ".intercalate (unexpected.map fun p => "'" ++ p.2.render ++ "'")
          let verb := if unexpected.length == 1 then "was" else "were"
          fail s!"Unevaluated items are not allowed ({listed} {verb} unexpected)"
    | _ => []
  | _ => []

/-- The keywords of a schema object that are checked: only `$ref` when it hides the others. -/
def activeFields (d : Draft) (fields : List (String × Json)) : List (String × Json) :=
  if d.refHidesSiblings then
    match fields.lookup "$ref" with
    | some r => [("$ref", r)]
    | none => fields
  else fields

/-- The violations of a value against a schema, in keyword order. `fuel` bounds the depth of
nested subschemas. -/
def violations : Nat → Scope → Json → List String → Json → List Violation
  | 0, _, _, _, _ => []
  | fuel + 1, scope, schema, path, inst =>
    match schema with
    | .bool false =>
      let shown := inst.render
      [⟨path, s!"False schema does not allow {shown}"⟩]
    | .obj fields =>
      let scope := scope.enter schema
      (activeFields scope.draft fields).flatMap fun (key, value) =>
        keywordViolations (fun sc s p v => violations fuel sc s p v) scope fields key value path inst
    | _ => []

/-- How deep nested subschemas are followed. -/
def nestingLimit : Nat := 2000

/-- The text of a keyword path: each step escaped and preceded by `/`. -/
def Violation.pathText (v : Violation) : String :=
  String.join (v.keywordPath.map fun t => "/" ++ Pointer.encodeToken t)

end Covenant.Schema
