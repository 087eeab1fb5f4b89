import Covenant.Cli.Inputs

/-!
# The executable

Gathers what a run reads (variables, files, standard input), runs the command line, and
prints what it printed, ending with its status.
-/

open Covenant
open System (FilePath)

/-- What a path holds: a file's bytes or a directory, or nothing. -/
def readEntry (path : String) : IO (Option (String × FileEntry)) := do
  let p : FilePath := ⟨path⟩
  if ← p.isDir then return some (path, .dir)
  if ← p.pathExists then
    try
      return some (path, .file (← IO.FS.readBinFile p))
    catch _ =>
      return none
  return none

/-- The variables among `names` that are set. -/
def readVariables (names : List String) : IO (List (String × String)) :=
  names.filterMapM fun n => do return (← IO.getEnv n).map (n, ·)

/-- Everything left on a stream. -/
partial def readAll (s : IO.FS.Stream) (acc : ByteArray) : IO ByteArray := do
  let chunk ← s.read 65536
  if chunk.isEmpty then return acc else readAll s (acc ++ chunk)

def main (args : List String) : IO UInt32 := do
  let dotenv ← readEntry ".env"
  let mentioned := match dotenv with
    | some (_, .file bytes) => ((String.fromUTF8? bytes).map Cli.dotenvNames).getD []
    | _ => []
  let names := (Cli.fixedNames ++ mentioned).eraseDups
  let env : Config.Environment := { vars := ← readVariables names }
  let needs := Cli.needs args env
  let files ← needs.paths.eraseDups.filterMapM readEntry
  let stdin ← if needs.stdin then readAll (← IO.getStdin) ByteArray.empty else pure ByteArray.empty
  let outcome := Cli.run args env { entries := files } stdin
  IO.print outcome.stdout
  IO.eprint outcome.stderr
  return outcome.exitCode.toUInt32
