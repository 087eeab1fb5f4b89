import Covenant.Text.Unicode.Category
import Covenant.Text.Unicode.Script
import Covenant.Text.Unicode.Binary
import Covenant.Text.Unicode.Segment

/-!
# Patterns: the tree

A pattern is read into a `Node`. Sets of characters are kept as they were written
(`CharSet`) and decided one character at a time, so case-insensitive matching and negation
can be taken at the level where they were written: a bracketed set under `(?i)` first takes in
every case variant of its members and only then is negated.

The named character properties (`\p{…}`) are resolved when the pattern is read, by the loose
matching of property names: case, spaces, `_`, `-` and an initial `is` are ignored.
-/

namespace Covenant.Pattern

open Covenant.Text.Unicode

/-- A named character property. -/
inductive Property where
  /-- Characters of one of the listed general categories. -/
  | categories (members : List Category)
  /-- Characters of one script. -/
  | script (name : String)
  /-- Characters used with one script. -/
  | scriptExtension (name : String)
  /-- Characters of a binary property, given by its boundaries. -/
  | binary (set : Array Nat)
  | graphemeBreak (value : Nat)
  | wordBreak (value : Nat)
  | sentenceBreak (value : Nat)
  /-- Characters assigned in the version numbered `version` or an earlier one. -/
  | age (version : Nat)
  | any
  | ascii
  | assigned

/-- The three abbreviated classes: digits, white space and word characters. -/
inductive Shorthand where
  | digit
  | space
  | word
  deriving DecidableEq

/-- How two sets inside brackets are combined. -/
inductive SetOp where
  | inter
  | diff
  | symDiff

/-- A set of characters as written. -/
inductive CharSet where
  | single (c : Char)
  | range (lo hi : Char)
  | shorthand (kind : Shorthand) (negated : Bool)
  | property (p : Property) (negated : Bool)
  /-- A named ASCII class such as `[:alpha:]`. -/
  | ascii (name : String) (negated : Bool)
  | union (items : List CharSet)
  /-- A bracketed set; case folding is applied to its body before negation. -/
  | bracket (negated : Bool) (body : CharSet)
  | combine (op : SetOp) (lhs rhs : CharSet)

/-- The zero-width assertions. -/
inductive Assertion where
  | textStart
  | textEnd
  | lineStart
  | lineEnd
  | wordBoundary
  | notWordBoundary
  | wordStart
  | wordEnd
  | wordStartHalf
  | wordEndHalf
  deriving DecidableEq

/-- A pattern. Flags in effect when a piece was read are stored in the piece. -/
inductive Node where
  | empty
  | char (c : Char) (caseless : Bool)
  /-- Any character; `newline` says whether a line feed is included. -/
  | dot (newline : Bool)
  | set (s : CharSet) (caseless unicode : Bool)
  | assert (a : Assertion) (unicode : Bool)
  /-- A group; captured as number `index` when there is one. -/
  | group (index : Option Nat) (body : Node)
  | look (ahead negated : Bool) (body : Node)
  | atomic (body : Node)
  | backref (index : Nat) (caseless : Bool)
  | seq (items : List Node)
  | alt (branches : List Node)
  | loop (body : Node) (least : Nat) (most : Option Nat) (greedy possessive : Bool)

/-- A property name for loose matching: an initial `is` in any case is dropped, then spaces,
`_`, `-` and characters beyond ASCII, and the rest is put in lower case. A name that is `is`
and `c` alone keeps its `is`, as `isc` names a property of its own. -/
def looseName (name : String) : String :=
  let cs := name.toList
  let (dropped, cs) := match cs with
    | a :: b :: rest => if a.toLower == 'i' && b.toLower == 's' then (true, rest) else (false, cs)
    | _ => (false, cs)
  let kept := (cs.filter fun c => c != ' ' && c != '_' && c != '-' && c.toNat < 128).map Char.toLower
  if dropped && kept == ['c'] then "isc" else String.ofList kept

/-- The general categories a (loose) category name stands for. -/
def categoryNamed? (name : String) : Option (List Category) :=
  let letter := [Category.Lu, .Ll, .Lt, .Lm, .Lo]
  let mark := [Category.Mn, .Mc, .Me]
  let number := [Category.Nd, .Nl, .No]
  let punct := [Category.Pc, .Pd, .Ps, .Pe, .Pi, .Pf, .Po]
  let symbol := [Category.Sm, .Sc, .Sk, .So]
  let separator := [Category.Zs, .Zl, .Zp]
  let other := [Category.Cc, .Cf, .Cs, .Co, .Cn]
  match name with
  | "l" | "letter" => some letter
  | "lc" | "casedletter" => some [.Lu, .Ll, .Lt]
  | "lu" | "uppercaseletter" => some [.Lu]
  | "ll" | "lowercaseletter" => some [.Ll]
  | "lt" | "titlecaseletter" => some [.Lt]
  | "lm" | "modifierletter" => some [.Lm]
  | "lo" | "otherletter" => some [.Lo]
  | "m" | "mark" | "combiningmark" => some mark
  | "mn" | "nonspacingmark" => some [.Mn]
  | "mc" | "spacingmark" => some [.Mc]
  | "me" | "enclosingmark" => some [.Me]
  | "n" | "number" => some number
  | "nd" | "decimalnumber" | "digit" => some [.Nd]
  | "nl" | "letternumber" => some [.Nl]
  | "no" | "othernumber" => some [.No]
  | "p" | "punctuation" | "punct" => some punct
  | "pc" | "connectorpunctuation" => some [.Pc]
  | "pd" | "dashpunctuation" => some [.Pd]
  | "ps" | "openpunctuation" => some [.Ps]
  | "pe" | "closepunctuation" => some [.Pe]
  | "pi" | "initialpunctuation" => some [.Pi]
  | "pf" | "finalpunctuation" => some [.Pf]
  | "po" | "otherpunctuation" => some [.Po]
  | "s" | "symbol" => some symbol
  | "sm" | "mathsymbol" => some [.Sm]
  | "sc" | "currencysymbol" => some [.Sc]
  | "sk" | "modifiersymbol" => some [.Sk]
  | "so" | "othersymbol" => some [.So]
  | "z" | "separator" => some separator
  | "zs" | "spaceseparator" => some [.Zs]
  | "zl" | "lineseparator" => some [.Zl]
  | "zp" | "paragraphseparator" => some [.Zp]
  | "c" | "other" => some other
  | "cc" | "control" | "cntrl" => some [.Cc]
  | "cf" | "format" => some [.Cf]
  | "cs" | "surrogate" => some [.Cs]
  | "co" | "privateuse" => some [.Co]
  | "cn" | "unassigned" => some [.Cn]
  | _ => none

/-- The property a (loose) general category value stands for, with the three special names
`any`, `assigned` and `ascii`. -/
def generalCategoryNamed? (name : String) : Option Property :=
  match name with
  | "any" => some .any
  | "assigned" => some .assigned
  | "ascii" => some .ascii
  | _ => (categoryNamed? name).map .categories

/-- The script a (loose) script name or code stands for. -/
def scriptNamed? (name : String) : Option String := scriptAliases.lookup name

/-- The loose names of every character property, binary or not. A bare name that is one of
them names that property, and only the binary ones can be used bare. -/
def propertyNames : List String :=
  ["age", "ahex", "alpha", "alphabetic", "asciihexdigit", "bc", "bidic", "bidiclass",
   "bidicontrol", "bidim", "bidimirrored", "bidimirroringglyph", "bidipairedbracket",
   "bidipairedbrackettype", "blk", "block", "bmg", "bpb", "bpt", "canonicalcombiningclass",
   "cased", "casefolding", "caseignorable", "ccc", "ce", "cf", "changeswhencasefolded",
   "changeswhencasemapped", "changeswhenlowercased", "changeswhennfkccasefolded",
   "changeswhentitlecased", "changeswhenuppercased", "ci", "compex", "compositionexclusion",
   "cwcf", "cwcm", "cwkcf", "cwl", "cwt", "cwu", "dash", "decompositionmapping",
   "decompositiontype", "defaultignorablecodepoint", "dep", "deprecated", "di", "dia",
   "diacritic", "dm", "dt", "ea", "eastasianwidth", "ebase", "ecomp", "emod", "emoji",
   "emojicomponent", "emojimodifier", "emojimodifierbase", "emojipresentation", "epres",
   "equideo", "equivalentunifiedideograph", "ext", "extendedpictographic", "extender",
   "extpict", "fcnfkc", "fcnfkcclosure", "fullcompositionexclusion", "gc", "gcb",
   "generalcategory", "graphemebase", "graphemeclusterbreak", "graphemeextend", "grbase",
   "grext", "hangulsyllabletype", "hex", "hexdigit", "hst", "hyphen", "idc", "idcontinue",
   "ideo", "ideographic", "ids", "idsb", "idsbinaryoperator", "idst", "idstart",
   "idstrinaryoperator", "indicpositionalcategory", "indicsyllabiccategory", "inpc", "insc",
   "isc", "isocomment", "jamoshortname", "jg", "joinc", "joincontrol", "joininggroup",
   "joiningtype", "jsn", "jt", "lb", "lc", "linebreak", "loe", "logicalorderexception", "lower",
   "lowercase", "lowercasemapping", "math", "na", "na1", "name", "namealias", "nchar",
   "nfcqc", "nfcquickcheck", "nfdqc", "nfdquickcheck", "nfkccasefold", "nfkccf", "nfkcqc",
   "nfkcquickcheck", "nfkdqc", "nfkdquickcheck", "noncharactercodepoint", "nt", "numerictype",
   "numericvalue", "nv", "oalpha", "odi", "ogrext", "oidc", "oids", "olower", "omath",
   "otheralphabetic", "otherdefaultignorablecodepoint", "othergraphemeextend",
   "otheridcontinue", "otheridstart", "otherlowercase", "othermath", "otheruppercase",
   "oupper", "patsyn", "patternsyntax", "patternwhitespace", "patws", "pcm",
   "prependedconcatenationmark", "qmark", "quotationmark", "radical", "regionalindicator",
   "ri", "sb", "sc", "scf", "script", "scriptextensions", "scx", "sd", "sentencebreak",
   "sentenceterminal", "sfc", "simplecasefolding", "simplelowercasemapping",
   "simpletitlecasemapping", "simpleuppercasemapping", "slc", "softdotted", "space", "stc",
   "sterm", "suc", "tc", "term", "terminalpunctuation", "titlecasemapping", "uc", "uideo",
   "unicode1name", "unifiedideograph", "upper", "uppercase", "uppercasemapping",
   "variationselector", "verticalorientation", "vo", "vs", "wb", "whitespace", "wordbreak",
   "wspace", "xidc", "xidcontinue", "xids", "xidstart", "xonfc", "xonfd", "xonfkc", "xonfkd"]

/-- Splits `name=value` or `name:value` at the first `=` or `:`. -/
def splitNameValue (text : String) : Option (String × String) :=
  let cs := text.toList
  let name := cs.takeWhile fun c => c != '=' && c != ':'
  if name.length == cs.length then none
  else some (String.ofList name, String.ofList (cs.drop (name.length + 1)))

/-- The property a name written in `\p{…}` stands for. A `name=value` form takes the general
category, script, script extensions, age and the three break properties. A bare name is a
binary property when it names a property (`cf`, `sc` and `lc` excepted, which are general
categories), else a general category, else a script. -/
def Property.named? (text : String) : Option Property :=
  match splitNameValue text with
  | some (key, value) =>
    let k := looseName key
    let v := looseName value
    if k == "gc" || k == "generalcategory" then generalCategoryNamed? v
    else if k == "sc" || k == "script" then (scriptNamed? v).map .script
    else if k == "scx" || k == "scriptextensions" then (scriptNamed? v).map .scriptExtension
    else if k == "age" then (ageAliases.lookup v).map .age
    else if k == "gcb" || k == "graphemeclusterbreak" then
      (graphemeBreakAliases.lookup v).map .graphemeBreak
    else if k == "wb" || k == "wordbreak" then (wordBreakAliases.lookup v).map .wordBreak
    else if k == "sb" || k == "sentencebreak" then (sentenceBreakAliases.lookup v).map .sentenceBreak
    else none
  | none =>
    let n := looseName text
    if n != "cf" && n != "sc" && n != "lc" && propertyNames.contains n then
      (binaryProperties.find? fun entry => entry.1.contains n).map fun entry => .binary entry.2
    else match generalCategoryNamed? n with
      | some p => some p
      | none => (scriptNamed? n).map .script

end Covenant.Pattern
