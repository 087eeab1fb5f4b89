import Covenant.SourceIndex.JsonText
import Covenant.SourceIndex.Block

/-!
# Indexing a source text

A text whose first visible character opens an object or an array is walked as JSON; any other
non-blank text is walked as block YAML. `locate` looks one pointer up in a fresh index.
-/

namespace Covenant.SourceIndex

/-- The index of a source text, its scanner chosen by the first visible character. -/
def ofSource (source : String) : SourceIndex :=
  match Text.firstVisible source with
  | some '{' | some '[' => JsonText.scan source
  | some _ => Block.scan source
  | none => {}

/-- The location of a token path in a source text. -/
def locate (source : String) (path : List String) : Option Location :=
  (ofSource source).get? path

end Covenant.SourceIndex
