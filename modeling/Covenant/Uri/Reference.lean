import Covenant.Net.Address

/-!
# URI references

A URI reference (RFC 3986) is a scheme, an authority, a path, a query and a fragment, each
but the path optional. A reference with a scheme is a URI; one without is relative and is
resolved against a base URI.

`Reference.parse` reads a reference or names the first offending place: the character index
of an unexpected character, of a `%` that does not start two hex digits, or of the start of a
bracketed address that is not an IPv6 address. Only ASCII is
allowed, so an index counts characters and bytes alike up to the first fault. A relative
reference's first path segment holds no colon, and an authority is `userinfo@host:port` with
a host that is a name, or an IPv6 or future address in brackets.

`Reference.resolveAgainst` follows RFC 3986 §5.2, with dot segments removed; it refuses a
base that has a fragment, and a relative reference other than a bare fragment against a base
that has neither an authority nor a rooted path. `Reference.normalize` decodes escapes of
unreserved characters, writes the other escapes in upper case, lowers the case of the scheme
and the host, drops an empty port and removes dot segments from a rooted path.
-/

namespace Covenant.Uri

/-- Why a text is not a URI reference. -/
inductive Fault where
  | unexpectedCharacter
  | invalidOctet
  | invalidIpv6
  deriving DecidableEq, Repr

/-- The first place where a text stops being a URI reference, and why. -/
structure ParseError where
  index : Nat
  fault : Fault
  deriving Repr

def ParseError.message (e : ParseError) : String :=
  let i := e.index
  match e.fault with
  | .unexpectedCharacter => s!"unexpected character at index {i}"
  | .invalidOctet => s!"invalid percent-encoded octet at index {i}"
  | .invalidIpv6 => s!"invalid IPv6 address at index {i}"

/-- The authority of a reference: user information, host and port, as written. -/
structure Authority where
  userinfo : Option String := none
  host : String
  port : Option String := none
  deriving Inhabited, BEq, Repr

/-- A URI reference split into its parts, as written. -/
structure Reference where
  scheme : Option String := none
  authority : Option Authority := none
  path : String := ""
  query : Option String := none
  fragment : Option String := none
  deriving Inhabited, BEq, Repr

def isAlpha (c : Char) : Bool := ('a' ≤ c && c ≤ 'z') || ('A' ≤ c && c ≤ 'Z')

def isDigit (c : Char) : Bool := '0' ≤ c && c ≤ '9'

def isHex (c : Char) : Bool :=
  isDigit c || ('a' ≤ c && c ≤ 'f') || ('A' ≤ c && c ≤ 'F')

def isUnreserved (c : Char) : Bool :=
  isAlpha c || isDigit c || c == '-' || c == '.' || c == '_' || c == '~'

def isSubDelim (c : Char) : Bool := "!$&'()*+,;=".toList.contains c

/-- The parts of a reference that are read as runs of allowed characters. -/
inductive Part where
  | scheme
  | userinfo
  | regName
  | segment
  | path
  | query
  deriving DecidableEq

/-- The characters a part allows besides percent escapes. A `segment` is the first segment
of a relative path, which has no colon; a `query` also serves fragments. -/
def Part.allows : Part → Char → Bool
  | .scheme, c => isAlpha c || isDigit c || c == '+' || c == '-' || c == '.'
  | .userinfo, c => isUnreserved c || isSubDelim c || c == ':'
  | .regName, c => isUnreserved c || isSubDelim c
  | .segment, c => isUnreserved c || isSubDelim c || c == '@'
  | .path, c => isUnreserved c || isSubDelim c || c == ':' || c == '@' || c == '/'
  | .query, c => isUnreserved c || isSubDelim c || c == ':' || c == '@' || c == '/' || c == '?'

/-- Whether a part may hold percent escapes. -/
def Part.escapes : Part → Bool
  | .scheme => false
  | _ => true

/-- The text between two positions. -/
def slice (cs : Array Char) (start stop : Nat) : String := String.ofList (cs.extract start stop).toList

/-- The first position at or after `pos` whose character fails `p`. -/
def skipWhile (cs : Array Char) (p : Char → Bool) (pos : Nat) : Nat :=
  let rec go : Nat → Nat → Nat
    | 0, i => i
    | fuel + 1, i => if (cs[i]?.map p).getD false then go fuel (i + 1) else i
  go (cs.size + 1) pos

/-- The end of the longest run of a part from `pos`, or the place of a bad escape. -/
def scan (cs : Array Char) (part : Part) (pos : Nat) : Except ParseError Nat :=
  let rec go : Nat → Nat → Except ParseError Nat
    | 0, i => .ok i
    | fuel + 1, i =>
      match cs[i]? with
      | some '%' =>
        if part.escapes then
          if (cs[i + 1]?.map isHex).getD false && (cs[i + 2]?.map isHex).getD false then
            go fuel (i + 3)
          else .error ⟨i, .invalidOctet⟩
        else .ok i
      | some c => if part.allows c then go fuel (i + 1) else .ok i
      | none => .ok i
  go (cs.size + 1) pos

/-- An address in brackets from `start`, the position after `[`: a future address `vX.Y`, or
a run of hex digits, colons and dots that must be closed by `]` and be an IPv6 address. Gives
the position after `]`. -/
def ipLiteralEnd (cs : Array Char) (start : Nat) : Except ParseError Nat :=
  let closing (pos : Nat) : Except ParseError Nat :=
    if cs[pos]? == some ']' then .ok (pos + 1) else .error ⟨pos, .unexpectedCharacter⟩
  if cs[start]? == some 'v' || cs[start]? == some 'V' then
    let digits := skipWhile cs isHex (start + 1)
    if digits == start + 1 || cs[digits]? != some '.' then .error ⟨digits, .unexpectedCharacter⟩
    else
      let rest := skipWhile cs (fun c => isUnreserved c || isSubDelim c || c == ':') (digits + 1)
      if rest == digits + 1 then .error ⟨rest, .unexpectedCharacter⟩ else closing rest
  else
    let run := skipWhile cs (fun c => isHex c || c == ':' || c == '.') start
    if cs[run]? != some ']' then .error ⟨run, .unexpectedCharacter⟩
    else if Net.isIpv6 (slice cs start run) then .ok (run + 1)
    else .error ⟨start, .invalidIpv6⟩

/-- A host from `pos`: an address in brackets or a name. Gives the host and where it ends. -/
def hostAt (cs : Array Char) (pos : Nat) : Except ParseError (String × Nat) :=
  if cs[pos]? == some '[' then do
    let stop ← ipLiteralEnd cs (pos + 1)
    pure (slice cs pos stop, stop)
  else do
    let stop ← scan cs .regName pos
    pure (slice cs pos stop, stop)

/-- A port after a host ending at `pos`, if a colon follows: its digits and where they end. -/
def portAt (cs : Array Char) (pos : Nat) : Option String × Nat :=
  if cs[pos]? == some ':' then
    let stop := skipWhile cs isDigit (pos + 1)
    (some (slice cs (pos + 1) stop), stop)
  else (none, pos)

/-- An authority from `start`, the position after `//`. Gives the authority and where it
ends. A run without `@` is a host and a port: a second colon is refused where it stands, and
the port holds only digits. -/
def authorityAt (cs : Array Char) (start : Nat) : Except ParseError (Authority × Nat) := do
  let stop ← scan cs .userinfo start
  if cs[stop]? == some '@' then
    let (host, afterHost) ← hostAt cs (stop + 1)
    let (port, afterPort) := portAt cs afterHost
    pure ({ userinfo := some (slice cs start stop), host := host, port := port }, afterPort)
  else if stop == start then
    let (host, afterHost) ← hostAt cs start
    let (port, afterPort) := portAt cs afterHost
    pure ({ host := host, port := port }, afterPort)
  else
    match (List.range (stop - start)).find? (fun k => cs[start + k]? == some ':') with
    | none => pure ({ host := slice cs start stop }, stop)
    | some k =>
      let colon := start + k
      let digits := skipWhile cs isDigit (colon + 1)
      match (List.range (stop - colon - 1)).find? (fun j => cs[colon + 1 + j]? == some ':') with
      | some j => .error ⟨colon + 1 + j, .unexpectedCharacter⟩
      | none =>
        if digits < stop then .error ⟨digits, .unexpectedCharacter⟩
        else pure ({ host := slice cs start colon, port := some (slice cs (colon + 1) stop) }, stop)

/-- The query and fragment after a path ending at `pos`, then the end of the text. -/
def queryAndFragment (cs : Array Char) (pos : Nat) :
    Except ParseError (Option String × Option String) := do
  let (query, afterQuery) ←
    if cs[pos]? == some '?' then do
      let stop ← scan cs .query (pos + 1)
      pure (some (slice cs (pos + 1) stop), stop)
    else pure (none, pos)
  let (fragment, afterFragment) ←
    if cs[afterQuery]? == some '#' then do
      let stop ← scan cs .query (afterQuery + 1)
      pure (some (slice cs (afterQuery + 1) stop), stop)
    else pure (none, afterQuery)
  if afterFragment < cs.size then .error ⟨afterFragment, .unexpectedCharacter⟩
  else pure (query, fragment)

/-- What follows `//` at `start`: an authority, a path that is empty or rooted, a query and
a fragment. -/
def withAuthority (cs : Array Char) (scheme : Option String) (start : Nat) :
    Except ParseError Reference := do
  let (authority, afterAuthority) ← authorityAt cs start
  let stop ← if cs[afterAuthority]? == some '/' then scan cs .path afterAuthority
    else pure afterAuthority
  let (query, fragment) ← queryAndFragment cs stop
  pure { scheme := scheme, authority := some authority, path := slice cs afterAuthority stop,
         query := query, fragment := fragment }

/-- Reads a URI reference. -/
def Reference.parse (text : String) : Except ParseError Reference := do
  let cs := text.toList.toArray
  let schemeEnd := skipWhile cs Part.scheme.allows 0
  if cs[schemeEnd]? == some ':' then
    if schemeEnd > 0 && (cs[0]?.map isAlpha).getD false then
      let scheme := slice cs 0 schemeEnd
      let start := schemeEnd + 1
      if cs[start]? == some '/' && cs[start + 1]? == some '/' then
        withAuthority cs (some scheme) (start + 2)
      else
        let stop ← scan cs .path start
        let (query, fragment) ← queryAndFragment cs stop
        pure { scheme := some scheme, path := slice cs start stop, query := query,
               fragment := fragment }
    else .error ⟨0, .unexpectedCharacter⟩
  else if schemeEnd == 0 && cs[0]? == some '/' && cs[1]? == some '/' then
    withAuthority cs none 2
  else
    let segmentEnd ← scan cs .segment schemeEnd
    if cs[segmentEnd]? == some ':' then .error ⟨segmentEnd, .unexpectedCharacter⟩
    else
      let stop ← scan cs .path segmentEnd
      let (query, fragment) ← queryAndFragment cs stop
      pure { path := slice cs 0 stop, query := query, fragment := fragment }

def Authority.render (a : Authority) : String :=
  (a.userinfo.map (· ++ "@")).getD "" ++ a.host ++ (a.port.map (":" ++ ·)).getD ""

/-- The text of a reference. -/
def Reference.render (r : Reference) : String :=
  (r.scheme.map (· ++ ":")).getD "" ++ (r.authority.map fun a => "//" ++ a.render).getD "" ++
    r.path ++ (r.query.map ("?" ++ ·)).getD "" ++ (r.fragment.map ("#" ++ ·)).getD ""

/-- The reference without its fragment. -/
def Reference.withoutFragment (r : Reference) : Reference := { r with fragment := none }

/-! ## Dot segments and resolution -/

/-- The output of dot-segment removal without its last segment and the `/` before it. -/
def dropLastSegment (out : List Char) : List Char :=
  ((out.reverse.dropWhile (· != '/')).drop 1).reverse

/-- Removes the `.` and `..` segments of a path (RFC 3986 §5.2.4). Each step shortens the
input, so the input's length bounds the steps. -/
def removeDotSegments (path : String) : String :=
  let rec go : Nat → List Char → List Char → List Char
    | 0, _, out => out
    | _ + 1, [], out => out
    | fuel + 1, input, out =>
      match input with
      | '.' :: '.' :: '/' :: rest => go fuel rest out
      | '.' :: '/' :: rest => go fuel rest out
      | '/' :: '.' :: '/' :: rest => go fuel ('/' :: rest) out
      | ['/', '.'] => go fuel ['/'] out
      | '/' :: '.' :: '.' :: '/' :: rest => go fuel ('/' :: rest) (dropLastSegment out)
      | ['/', '.', '.'] => go fuel ['/'] (dropLastSegment out)
      | ['.'] | ['.', '.'] => out
      | c :: rest =>
        let segment := rest.takeWhile (· != '/')
        go fuel (rest.drop segment.length) (out ++ c :: segment)
      | [] => out
  String.ofList (go (path.length + 1) path.toList [])

/-- Why a reference cannot be resolved against a base. -/
inductive ResolveError where
  | baseWithFragment
  | opaqueBase
  deriving DecidableEq, Repr

def ResolveError.message : ResolveError → String
  | .baseWithFragment => "base URI/IRI with fragment"
  | .opaqueBase =>
    "relative reference must be empty or start with '#' when resolved against authority-less base URI/IRI with rootless path"

/-- The base's path up to its last `/`, followed by a relative path (RFC 3986 §5.2.3). -/
def mergePaths (base : Reference) (path : String) : String :=
  if base.authority.isSome && base.path.isEmpty then "/" ++ path
  else
    let kept := (base.path.toList.reverse.dropWhile (· != '/')).reverse
    String.ofList kept ++ path

/-- Resolves a reference against a base URI (RFC 3986 §5.2.2). -/
def Reference.resolveAgainst (r base : Reference) : Except ResolveError Reference :=
  if base.fragment.isSome then .error .baseWithFragment
  else if r.scheme.isSome then .ok { r with path := removeDotSegments r.path }
  else if base.authority.isNone && !base.path.startsWith "/" &&
      !(r.authority.isNone && r.path.isEmpty && r.query.isNone) then
    .error .opaqueBase
  else if r.authority.isSome then
    .ok { r with scheme := base.scheme, path := removeDotSegments r.path }
  else if r.path.isEmpty then
    .ok { base with query := r.query.orElse fun _ => base.query, fragment := r.fragment }
  else
    let path := if r.path.startsWith "/" then r.path else mergePaths base r.path
    .ok { base with path := removeDotSegments path, query := r.query, fragment := r.fragment }

/-! ## Normal form -/

/-- The value of a hex digit. -/
def hexValue (c : Char) : Nat :=
  if isDigit c then c.toNat - '0'.toNat
  else if 'a' ≤ c && c ≤ 'f' then c.toNat - 'a'.toNat + 10
  else c.toNat - 'A'.toNat + 10

/-- Percent escapes in normal form: an escaped unreserved character written plainly, any
other escape with upper-case digits. -/
def normalizeEscapes : List Char → List Char
  | '%' :: a :: b :: rest =>
    if isHex a && isHex b then
      let c := Char.ofNat (hexValue a * 16 + hexValue b)
      if isUnreserved c then c :: normalizeEscapes rest
      else '%' :: a.toUpper :: b.toUpper :: normalizeEscapes rest
    else '%' :: normalizeEscapes (a :: b :: rest)
  | c :: rest => c :: normalizeEscapes rest
  | [] => []

def normalizeText (s : String) : String := String.ofList (normalizeEscapes s.toList)

/-- The reference in normal form. -/
def Reference.normalize (r : Reference) : Reference :=
  let authority := r.authority.map fun a =>
    { userinfo := a.userinfo.map normalizeText,
      host := normalizeText a.host.toLower,
      port := a.port.filter (!·.isEmpty) }
  let escaped := normalizeText r.path
  let path :=
    if r.scheme.isSome && escaped.startsWith "/" then removeDotSegments escaped else escaped
  let path := if authority.isNone && path.startsWith "//" then "/." ++ path else path
  { scheme := r.scheme.map String.toLower, authority := authority, path := path,
    query := r.query.map normalizeText, fragment := r.fragment.map normalizeText }

/-! ## Locations of documents -/

/-- The base of a document that names no location of its own. -/
def defaultBase : Reference := { scheme := some "json-schema", authority := some { host := "" }, path := "/" }

/-- Resolves a reference written in a document against the base it is read in, in normal
form. A bare fragment that the base already ends with leaves the base as it is. -/
def resolveText (base : Reference) (text : String) : Except String Reference :=
  if text.startsWith "#" && base.render.endsWith text then .ok base
  else
    match Reference.parse text with
    | .error e =>
      let why := e.message
      .error s!"Invalid URI reference '{text}': {why}"
    | .ok r =>
      match r.resolveAgainst base with
      | .error e =>
        let shown := base.render
        let why := e.message
        .error s!"Failed to resolve '{text}' against '{shown}': {why}"
      | .ok t => .ok t.normalize

/-- The location a text names: the URI itself, in normal form, when it is one, else the text
resolved against the default base. -/
def locate (text : String) : Except String Reference :=
  match Reference.parse text with
  | .ok r => if r.scheme.isSome then .ok r.normalize else resolveText defaultBase text
  | .error _ => resolveText defaultBase text

end Covenant.Uri
