/-!
# Path templates

A path template such as `/users/{id}` is a list of segments split at `/`, a leading empty
segment dropped. A segment holding `{` is a placeholder, named by the segment with one leading
`{` and one trailing `}` removed; any other segment is literal text. Paths are compared after
`canonicalJoin`, which drops empty and `.` parts and lets `..` cancel the part before it.
-/

namespace Covenant.Route

/-- The parts of a path between slashes, a leading empty part dropped. -/
def splitSegments (path : String) : List String :=
  match path.splitOn "/" with
  | "" :: rest => rest
  | parts => parts

/-- One segment of a path template. -/
inductive Segment where
  | literal (text : String)
  | placeholder (raw : String) (name : String)
  deriving BEq, Repr

/-- `s` without one leading `pre`, if present. -/
def dropPrefix (s pre : String) : String :=
  if s.startsWith pre then String.ofList (s.toList.drop pre.length) else s

/-- `s` without one trailing `suf`, if present. -/
def dropSuffix (s suf : String) : String :=
  if s.endsWith suf then String.ofList (s.toList.take (s.length - suf.length)) else s

/-- Classifies a raw segment: a placeholder when it holds `{`. -/
def Segment.ofRaw (raw : String) : Segment :=
  if raw.contains '{' then .placeholder raw (dropSuffix (dropPrefix raw "\x7b") "\x7d")
  else .literal raw

def Segment.isPlaceholder : Segment → Bool
  | .placeholder _ _ => true
  | .literal _ => false

/-- A path template with its segments. -/
structure Template where
  raw : String
  segments : List Segment

/-- Splits and classifies a template. -/
def Template.ofString (raw : String) : Template :=
  ⟨raw, (splitSegments raw).map Segment.ofRaw⟩

def Template.placeholderCount (t : Template) : Nat :=
  (t.segments.filter Segment.isPlaceholder).length

/-- Resolves `.`, `..` and empty parts of slash-separated components and joins the rest
with `/`. A `..` removes the part before it unless that part is itself `..`. -/
def canonicalJoin (components : List String) : String :=
  let step (cleaned : List String) (part : String) : List String :=
    if part = "" ∨ part = "." then cleaned
    else if part = ".." then
      match cleaned with
      | last :: rest => if last ≠ ".." then rest else ".." :: cleaned
      | [] => [".."]
    else part :: cleaned
  let parts := components.flatMap (fun c => c.splitOn "/")
  "/".intercalate (parts.foldl step []).reverse

/-- Orders templates from most to least specific: fewer `{` first, then the longer text
(in bytes) first. -/
def specificity (a b : String) : Ordering :=
  let count (s : String) := (s.toList.filter (· = '{')).length
  match compare (count a) (count b) with
  | .eq => compare b.utf8ByteSize a.utf8ByteSize
  | o => o

end Covenant.Route
