/-!
# A working directory

A read-only view of the files a run may read: each relative path holds text bytes or is a
directory; the parents of every path are directories too. Reading a path gives its text, or
says why not: it is missing, it is a directory, or its bytes are not UTF-8.
-/

namespace Covenant

/-- What a path holds. -/
inductive FileEntry where
  | file (bytes : ByteArray)
  | dir

/-- Why a file could not be read as text. -/
inductive ReadFailure where
  | notFound
  | isDirectory
  | notText
  deriving DecidableEq, BEq, Repr

/-- The operating system's wording of a read failure. -/
def ReadFailure.message : ReadFailure → String
  | .notFound => "No such file or directory (os error 2)"
  | .isDirectory => "Is a directory (os error 21)"
  | .notText => "stream did not contain valid UTF-8"

/-- The files of a working directory by relative path. -/
structure Files where
  entries : List (String × FileEntry) := []

namespace Files

/-- A path with `./` prefixes and trailing slashes removed. -/
def normalize (path : String) : String :=
  let cs := path.toList
  let rec dropDots : Nat → List Char → List Char
    | 0, cs => cs
    | n + 1, '.' :: '/' :: rest => dropDots n rest
    | _, cs => cs
  let cs := dropDots cs.length cs
  String.ofList (cs.reverse.dropWhile (· = '/')).reverse

/-- The directories that hold a path: every proper prefix ending before a slash. -/
def parents (path : String) : List String :=
  let parts := path.splitOn "/"
  (List.range (parts.length - 1)).map (fun n => "/".intercalate (parts.take (n + 1)))

/-- What a path holds, if anything. -/
def lookup (fs : Files) (path : String) : Option FileEntry :=
  let p := normalize path
  match fs.entries.find? (fun e => normalize e.1 == p) with
  | some (_, e) => some e
  | none =>
    if p.isEmpty || p == "." then some .dir
    else if fs.entries.any (fun e => (parents (normalize e.1)).contains p) then some .dir
    else none

/-- Whether a path exists. -/
def has (fs : Files) (path : String) : Bool := (fs.lookup path).isSome

/-- The bytes of a file. -/
def readBytes (fs : Files) (path : String) : Except ReadFailure ByteArray :=
  match fs.lookup path with
  | none => .error .notFound
  | some .dir => .error .isDirectory
  | some (.file b) => .ok b

/-- The text of a file. -/
def readText (fs : Files) (path : String) : Except ReadFailure String :=
  match fs.readBytes path with
  | .error e => .error e
  | .ok b =>
    match String.fromUTF8? b with
    | some s => .ok s
    | none => .error .notText

/-- The last name of a path: `.` parts and empty parts are skipped, and a path that ends in
`..` (or is `.` alone, or the root) has none. -/
def fileName (path : String) : Option String :=
  let parts := (path.splitOn "/").filter (!·.isEmpty)
  let leadingDot := !path.startsWith "/" && parts.head? == some "."
  let parts := (if leadingDot then ["."] else []) ++ (parts.drop (if leadingDot then 1 else 0)).filter (· != ".")
  match parts.getLast? with
  | some "." | some ".." | none => none
  | some name => some name

/-- The extension of a path: what follows the last dot of its name, unless that dot starts
the name. -/
def extension (path : String) : Option String :=
  match fileName path with
  | none => none
  | some name =>
    let pieces := name.splitOn "."
    match pieces with
    | [] | [_] => none
    | _ =>
      if name.length == (pieces.getLast?.getD "").length + 1 then none
      else pieces.getLast?

end Files

end Covenant
