import Covenant.Config.FieldPattern
import Covenant.Text.Unicode.Property

/-!
# Log filters

A log filter is a comma-separated list of directives; empty directives are skipped. A
directive is a bare level (`info`), or a target and/or a span in brackets (`paths`,
`paths[request]`, `[request{id=7}]`), optionally followed by `=` and a level. Levels are
`off`, `error`, `warn`, `info`, `debug` and `trace` in any case, the numbers `0` to `5`, or
nothing (meaning `error`).

A directive with white space around it is a level once the white space is dropped; if it is
not, the directive is refused, as a bad level when it holds `=`. Any other directive is read
from the left:

* a target: a letter, digit, `_`, `:` or `-`, then anything up to `[` or `=`;
* a span, when `[` follows: a name up to `{` or `]`, then perhaps fields in braces,
  `name=value` items separated by commas, up to the first `}`, which `]` must follow;
* then either nothing, or `=` and a level (everything after it).

A directive with neither a target nor a span is malformed, and so are a span whose braces
hold no field and anything after a span other than `=`. A field value that is not a boolean
or a number is a pattern, and must compile.

`Filter.problem` says what is wrong with the first bad directive.
-/

namespace Covenant.Config.Filter

/-- The message for a level that names no level. -/
def levelMessage : String :=
  "error parsing level filter: expected one of \"off\", \"error\", \"warn\", \"info\", \"debug\", \"trace\", or a number 0-5"

/-- The message for a malformed directive. -/
def directiveMessage : String := "invalid filter directive"

/-- The message for a field whose pattern is refused. -/
def fieldMessage (r : FieldPattern.Refusal) : String := "invalid field filter: " ++ r.message

/-- Whether a text names a level. -/
def isLevel (s : String) : Bool :=
  let digits := if s.startsWith "+" then s.drop 1 else s
  let number := if digits.isEmpty then none else digits.toNat?
  match number with
  | some n => n ≤ 5
  | none =>
    s.isEmpty || ["off", "error", "warn", "info", "debug", "trace"].contains s.toLower

/-- Whether a character may start a target: a letter, a digit, `_`, `:` or `-`. -/
def isTargetStart (c : Char) : Bool :=
  Text.Unicode.isAlphanumeric c || c == '_' || c == ':' || c == '-'

/-- Whether a text is a decimal number as floating-point numbers are written: a sign, then
`inf`, `infinity` or `nan` in any case, or digits with at most one point (some digit
somewhere) and perhaps an exponent. -/
def isNumberText (s : String) : Bool :=
  let cs := match s.toList with
    | '+' :: r => r
    | '-' :: r => r
    | r => r
  let word := (String.ofList cs).toLower
  if word == "inf" || word == "infinity" || word == "nan" then true
  else
    let whole := cs.takeWhile Char.isDigit
    let afterWhole := cs.drop whole.length
    let (fraction, afterFraction) := match afterWhole with
      | '.' :: r => (r.takeWhile Char.isDigit, r.drop (r.takeWhile Char.isDigit).length)
      | r => ([], r)
    let mantissaOk := !(whole.isEmpty && fraction.isEmpty)
    let exponentOk := match afterFraction with
      | [] => true
      | e :: r =>
        if e == 'e' || e == 'E' then
          let digits := match r with
            | '+' :: d => d
            | '-' :: d => d
            | d => d
          !digits.isEmpty && digits.all Char.isDigit
        else false
    mantissaOk && exponentOk

/-- What is wrong with a field value, if anything: booleans and numbers are taken as they
are, anything else must compile as a pattern. -/
def valueProblem (value : String) : Option String :=
  if value == "true" || value == "false" || isNumberText value then none
  else (FieldPattern.refusal value).map fieldMessage

/-- What is wrong with the fields of a span, if anything: each item's value is what stands
between its first `=` and the next one. -/
def fieldsProblem (fields : List Char) : Option String :=
  let items := ((String.ofList fields).splitOn ",").filter (!·.isEmpty)
  if items.isEmpty then some directiveMessage
  else items.findSome? fun item =>
    match item.splitOn "=" with
    | _ :: value :: _ => valueProblem value
    | _ => none

/-- Reads a span after its `[`: what follows the closing `]`, or what is wrong with it. -/
def readSpan (inner : List Char) : Except String (List Char) :=
  let name := inner.takeWhile fun c => c != '{' && c != ']'
  match inner.drop name.length with
  | ']' :: after => .ok after
  | '{' :: rest =>
    let fields := rest.takeWhile (· != '}')
    match rest.drop fields.length with
    | '}' :: closing =>
      match fieldsProblem fields with
      | some p => .error p
      | none =>
        match closing with
        | ']' :: after => .ok after
        | _ => .error directiveMessage
    | _ => .error directiveMessage
  | _ => .error directiveMessage

/-- The text without white space at either end. -/
def trimWhite (s : String) : String :=
  String.ofList ((s.toList.dropWhile Text.Unicode.isWhiteSpace).reverse.dropWhile
    Text.Unicode.isWhiteSpace).reverse

/-- What is wrong with one directive, if anything. -/
def directiveProblem (d : String) : Option String :=
  if isLevel d then none
  else
    let trimmed := trimWhite d
    if trimmed != d then
      if trimmed.isEmpty then some directiveMessage
      else if isLevel trimmed then none
      else if d.contains '=' then some levelMessage
      else some directiveMessage
    else
      let cs := d.toList
      let target := match cs with
        | c :: _ => if isTargetStart c then cs.takeWhile fun c => c != '[' && c != '=' else []
        | [] => []
      let rest := cs.drop target.length
      let spanned : Except String (Bool × List Char) :=
        match rest with
        | '[' :: inner => (readSpan inner).map fun after => (true, after)
        | r => .ok (false, r)
      match spanned with
      | .error p => some p
      | .ok (hasSpan, after) =>
        if target.isEmpty && !hasSpan then some directiveMessage
        else match after with
          | [] => none
          | '=' :: level => if isLevel (String.ofList level) then none else some levelMessage
          | _ => some directiveMessage

/-- What is wrong with a filter, if anything: the problem of its first bad directive. -/
def problem (filter : String) : Option String :=
  ((filter.splitOn ",").filter (!·.isEmpty)).findSome? directiveProblem

end Covenant.Config.Filter
