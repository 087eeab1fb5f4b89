import Covenant.Pointer

/-!
# Source positions

A `Location` is a line and a column, both from 1, or the unknown location `(-1, -1)`. A
`SourceIndex` maps pointer texts to the location of the key or item they designate; the
first location recorded for a pointer is kept.
-/

namespace Covenant

/-- A position in a source text; negative parts mean unknown. -/
structure Location where
  line : Int
  column : Int
  deriving BEq, Repr, DecidableEq

namespace Location

def unknown : Location := ⟨-1, -1⟩

def isKnown (l : Location) : Bool := l.line ≥ 0 && l.column ≥ 0

/-- `line:column`, or `unknown`. -/
def render (l : Location) : String :=
  if l.isKnown then s!"{l.line}:{l.column}" else "unknown"

end Location

/-- Locations of pointers in a source text, in the order they were recorded. -/
structure SourceIndex where
  entries : List (String × Location) := []

namespace SourceIndex

/-- Records a location for a token path unless one is already there. -/
def record (idx : SourceIndex) (path : List String) (loc : Location) : SourceIndex :=
  let key := Pointer.join path
  if idx.entries.any (fun e => e.1 == key) then idx
  else ⟨idx.entries ++ [(key, loc)]⟩

/-- The location of a token path; an empty path has none. -/
def get? (idx : SourceIndex) (path : List String) : Option Location :=
  if path.isEmpty then none
  else (idx.entries.find? (fun e => e.1 == Pointer.join path)).map (·.2)

/-- The number of recorded pointers. -/
def size (idx : SourceIndex) : Nat := idx.entries.length

end SourceIndex

end Covenant
