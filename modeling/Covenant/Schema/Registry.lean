import Covenant.Schema.Draft
import Covenant.Schema.Meta.Classic
import Covenant.Schema.Meta.Vocabulary
import Covenant.Uri.Reference
import Covenant.Pointer

/-!
# Where references lead

A registry holds the schema documents that references may lead into, each under its
location, and the anchors declared in them. It is filled by crawling a schema: starting at
the root, whose location is its identifier or a default one, every embedded subschema is
visited breadth-first; an identifier gives a subschema a location of its own, resolved
against the location it sits in, and anchors are recorded under the location they are
declared in.

While crawling, each `$ref` that leaves the document is resolved and noted. References into
the meta-schemas of the known drafts are always available. Any other document would have to
be fetched, which is not done: a reference to it fails with the reason a fetch gives.

`Registry.lookup` follows a reference from a base location: to a whole document, a JSON
pointer inside it, or an anchor declared in it.
-/

namespace Covenant.Schema

/-- A document the registry holds: its location, contents and draft. -/
structure Resource where
  location : Uri.Reference
  contents : Json
  draft : Draft

/-- An anchor: the location of the document it is declared in, its name, and the schema it
names. -/
structure Anchor where
  base : Uri.Reference
  name : String
  contents : Json
  draft : Draft

/-- The documents and anchors references may lead to. -/
structure Registry where
  resources : List Resource := []
  anchors : List Anchor := []

/-- The document at a location. -/
def Registry.find? (r : Registry) (location : String) : Option Resource :=
  r.resources.find? (·.location.render == location)

/-- A document's own anchors, declared at its root. -/
def anchorsAt (base : Uri.Reference) (contents : Json) (draft : Draft) : List Anchor :=
  (draft.anchorsOf contents).map fun name => ⟨base, name, contents, draft⟩

/-- A document held under a known location. -/
def knownResource (location : String) (contents : Json) (draft : Draft) : Resource :=
  ⟨(Uri.locate location).toOption.getD Uri.defaultBase, contents, draft⟩

/-- The meta-schema documents of every known draft. -/
def metaResources : List Resource :=
  let d2019 (name : String) := "https://json-schema.org/draft/2019-09/" ++ name
  let d2020 (name : String) := "https://json-schema.org/draft/2020-12/" ++ name
  [knownResource Draft.draft4.location Meta.draft4 .draft4,
   knownResource Draft.draft6.location Meta.draft6 .draft6,
   knownResource Draft.draft7.location Meta.draft7 .draft7,
   knownResource (d2019 "schema") Meta.root2019 .draft2019,
   knownResource (d2019 "meta/core") Meta.core2019 .draft2019,
   knownResource (d2019 "meta/applicator") Meta.applicator2019 .draft2019,
   knownResource (d2019 "meta/validation") Meta.validation2019 .draft2019,
   knownResource (d2019 "meta/meta-data") Meta.metaData2019 .draft2019,
   knownResource (d2019 "meta/format") Meta.format2019 .draft2019,
   knownResource (d2019 "meta/content") Meta.content2019 .draft2019,
   knownResource (d2020 "schema") Meta.root2020 .draft2020,
   knownResource (d2020 "meta/core") Meta.core2020 .draft2020,
   knownResource (d2020 "meta/applicator") Meta.applicator2020 .draft2020,
   knownResource (d2020 "meta/unevaluated") Meta.unevaluated2020 .draft2020,
   knownResource (d2020 "meta/validation") Meta.validation2020 .draft2020,
   knownResource (d2020 "meta/meta-data") Meta.metaData2020 .draft2020,
   knownResource (d2020 "meta/format-annotation") Meta.formatAnnotation2020 .draft2020,
   knownResource (d2020 "meta/content") Meta.content2020 .draft2020]

/-- The registry of the meta-schema documents. -/
def Registry.known : Registry :=
  { resources := metaResources,
    anchors := metaResources.flatMap fun r => anchorsAt r.location r.contents r.draft }

/-! ## Following references -/

/-- Where a reference leads: the base location there, the schema, its draft, and the
location of the document it is in. -/
structure Target where
  base : Uri.Reference
  schema : Json
  draft : Draft
  document : Uri.Reference

/-- Walks a JSON pointer's tokens from a value; each value passed through that declares an
identifier moves the base, the target's own identifier excepted. -/
def walkPointer (draft : Draft) : Uri.Reference → Json → List String →
    Option (Uri.Reference × Json)
  | base, v, [] => some (base, v)
  | base, v, t :: ts =>
    let child := match v with
      | .obj _ => v.get? t
      | .arr items => (Pointer.parseIndex t).bind (items[·]?)
      | _ => none
    child.bind fun c =>
      let moved :=
        if ts.isEmpty then base
        else match draft.idOf c with
          | some id => (Uri.resolveText base id).toOption.getD base
          | none => base
      walkPointer draft moved c ts

/-- The byte a hex digit stands for. -/
def hexNibble? (c : Char) : Option Nat :=
  if '0' ≤ c && c ≤ '9' then some (c.toNat - 48)
  else if 'a' ≤ c && c ≤ 'f' then some (c.toNat - 87)
  else if 'A' ≤ c && c ≤ 'F' then some (c.toNat - 55)
  else none

/-- Percent escapes decoded into bytes; other characters kept as their UTF-8 bytes. -/
def percentBytes : List Char → List UInt8
  | '%' :: a :: b :: rest =>
    match hexNibble? a, hexNibble? b with
    | some x, some y => (x * 16 + y).toUInt8 :: percentBytes rest
    | _, _ => '%'.toString.toUTF8.toList ++ percentBytes (a :: b :: rest)
  | c :: rest => c.toString.toUTF8.toList ++ percentBytes rest
  | [] => []

/-- A fragment with its percent escapes decoded; kept as written when the bytes are not
UTF-8. -/
def percentDecode (s : String) : String :=
  (String.fromUTF8? (ByteArray.mk (percentBytes s.toList).toArray)).getD s

/-- The part of a reference before its last `#` and the part after it. -/
def splitFragment (text : String) : String × String :=
  match (text.splitOn "#").reverse with
  | [] | [_] => (text, "")
  | last :: before => ("#".intercalate before.reverse, last)

/-- Follows a reference read at a base location. -/
def Registry.lookup (r : Registry) (base : Uri.Reference) (text : String) : Except String Target := do
  let (location, fragment) ←
    if text.startsWith "#" then pure (base, String.ofList (text.toList.drop 1))
    else
      let (path, fragment) := splitFragment text
      let location ← Uri.resolveText base path
      pure (location, fragment)
  let key := location.render
  match r.find? key with
  | none =>
    .error s!"Resource '{key}' is not present in a registry and retrieving it failed: Retrieving external resources is not supported once the registry is populated"
  | some resource =>
    if fragment.startsWith "/" then
      let decoded := percentDecode fragment
      let tokens := ((decoded.splitOn "/").drop 1).map Pointer.decodeToken
      match walkPointer resource.draft location resource.contents tokens with
      | some (at_, target) => pure ⟨at_, target, resource.draft, location⟩
      | none => .error s!"Pointer '{decoded}' does not exist"
    else if fragment.isEmpty then pure ⟨location, resource.contents, resource.draft, location⟩
    else
      match r.anchors.find? fun a => a.base.render == key && a.name == fragment with
      | some a => pure ⟨a.base, a.contents, a.draft, location⟩
      | none =>
        if fragment.contains '/' then .error s!"Anchor '{fragment}' is invalid"
        else .error s!"Anchor '{fragment}' does not exist"

/-! ## Crawling a schema -/

/-- What a crawl has gathered: the registry so far, the references already noted at each
base, and the references that leave the document, as written and as resolved. -/
structure Crawl where
  registry : Registry
  noted : List (String × String) := []
  outside : List (String × Uri.Reference) := []

/-- Whether a reference names a meta-schema of a known draft, or is read inside one. -/
def isWellKnown (base : Uri.Reference) (text : String) : Bool :=
  text.startsWith "https://json-schema.org/draft/" || text.startsWith "http://json-schema.org/draft-" ||
    base.render.startsWith "https://json-schema.org/draft/"

/-- Resolves a reference that leaves the document. A base with a fragment lends only its
other parts; the reference's own fragment is kept. -/
def resolveOutside (base : Uri.Reference) (text : String) : Except String Uri.Reference :=
  if base.fragment.isSome then
    let (path, fragment) := match text.splitOn "#" with
      | [] | [_] => (text, none)
      | p :: rest => (p, some ("#".intercalate rest))
    (Uri.resolveText base.withoutFragment path).map fun r => { r with fragment := fragment }
  else Uri.resolveText base text

/-- Notes the references a schema object makes with `$ref` and `$schema`. A reference
inside the document (`#...`) is followed to its target, which is searched in turn; any other
is resolved and noted. `fuel` bounds how many local references are followed. -/
def Crawl.noteReferences (root : Json) : Nat → Uri.Reference → Json → Crawl → Except String Crawl
  | 0, _, _, c => .ok c
  | fuel + 1, base, contents, c =>
    if base.scheme == some "urn" then .ok c
    else
      match contents with
      | .obj fields =>
        let written : List String :=
          if fields.length < 3 then
            fields.filterMap fun (k, v) => if k == "$ref" || k == "$schema" then v.getStr? else none
          else ["$ref", "$schema"].filterMap fun k => (fields.lookup k).bind Json.getStr?
        written.foldlM (fun c text =>
          let key := (base.render, text)
          if isWellKnown base text || text == "#" || c.noted.contains key then .ok c
          else
            let c := { c with noted := key :: c.noted }
            if text.startsWith "#" then
              match Pointer.resolve root (String.ofList (text.toList.drop 1)) with
              | some target => Crawl.noteReferences root fuel base target c
              | none => .ok c
            else do
              let resolved ← resolveOutside base text
              pure { c with outside := c.outside ++ [(text, resolved)] }) c
      | _ => .ok c

mutual

/-- The number of values in a JSON value, which bounds every walk over it. -/
def weight : Json → Nat
  | .arr items => 1 + weightItems items
  | .obj fields => 1 + weightFields fields
  | _ => 1

def weightItems : List Json → Nat
  | [] => 0
  | x :: rest => weight x + weightItems rest

def weightFields : List (String × Json) → Nat
  | [] => 0
  | (_, x) :: rest => weight x + weightFields rest

end

/-- One place still to visit: the base it is read in, the schema, and its draft. -/
structure Pending where
  base : Uri.Reference
  schema : Json
  draft : Draft

/-- Visits the pending places in order, recording locations, anchors and references, and
queueing each place's subschemas after the others. -/
def Crawl.visit (root : Json) : Nat → List Pending → Crawl → Except String Crawl
  | 0, _, c => .ok c
  | _ + 1, [], c => .ok c
  | fuel + 1, p :: rest, c => do
    let base ← match p.draft.idOf p.schema with
      | some id => Uri.resolveText p.base id
      | none => pure p.base
    let resources :=
      if (p.draft.idOf p.schema).isSome then
        c.registry.resources ++ [⟨base, p.schema, p.draft⟩]
      else c.registry.resources
    let anchors := c.registry.anchors ++ anchorsAt base p.schema p.draft
    let registry : Registry := { resources := resources, anchors := anchors }
    let c := { c with registry := registry }
    let c ← Crawl.noteReferences p.schema (weight p.schema) base p.schema c
    let children ← (p.draft.subschemas p.schema).mapM fun s => do
      let d ← Draft.detect p.draft s
      pure (⟨base, s, d⟩ : Pending)
    Crawl.visit root fuel (rest ++ children) c

/-- Why fetching a document that is not held fails. -/
def fetchFailure (written : String) (location : Uri.Reference) : String :=
  let shown := location.withoutFragment
  match location.scheme with
  | some "json-schema" =>
    s!"Resource '{written}' is not present in a registry and retrieving it failed: No base URI is available"
  | scheme =>
    let why := match scheme with
      | some "http" | some "https" =>
        let url := if shown.authority.isSome && shown.path.isEmpty then { shown with path := "/" } else shown
        let text := url.render
        s!"error sending request for url ({text})"
      | some "file" => "No such file or directory (os error 2)"
      | other =>
        let name := other.getD ""
        s!"Unknown scheme {name}"
    let text := shown.render
    s!"Resource '{text}' is not present in a registry and retrieving it failed: {why}"

/-- The registry of a schema read under a draft, with the location of its root; or why the
schema's locations or references cannot be used. -/
def Registry.ofSchema (draft : Draft) (schema : Json) : Except String (Registry × Uri.Reference) := do
  let base ← Uri.locate ((draft.idOf schema).getD "json-schema:///")
  let start : Crawl := { registry := { resources := [⟨base, schema, draft⟩] } }
  let c ← Crawl.visit schema (weight schema + 1) [⟨base, schema, draft⟩] start
  for (written, location) in c.outside do
    let key := location.withoutFragment.render
    if (c.registry.find? key).isNone && (Registry.known.find? key).isNone then
      throw (fetchFailure written location)
  pure ({ resources := c.registry.resources ++ Registry.known.resources,
          anchors := c.registry.anchors ++ Registry.known.anchors }, base)

end Covenant.Schema
