/-
  The command as a program.

  The files that a request names are looked up, the run is computed from them as if the disk took
  every text, and then what it comes to is written and printed.
-/
import ThriftScala.Cli.Run

namespace ThriftScala.Cli

/-- Adds what stands at a path to the files: a text, or a directory if it cannot be read. -/
def look (files : Files) (path : Path) : IO Files := do
  let key := path.toText
  try
    return Entries.set files key (some (← IO.FS.readFile key))
  catch
    | .noFileOrDirectory .. => return files
    | _ => return Entries.set files key none

/-- The files that a request is about: those it reads, the one it writes, and what that is in. -/
def Request.lookUp (r : Request) : IO Files := do
  let mut files : Files := []
  for path in r.file.toList ++ r.config.toList do
    files ← look files (.ofText path)
  if let .ok settings := r.settings files (r.language.getD "") then
    if let .str output := settings.outputFile then
      let path := Path.ofText output
      files ← look files { path with pieces := path.pieces.dropLast }
      files ← look files path
  return files

/-- Writes the files that are new or changed. -/
def store (before after : Files) : IO Unit :=
  (Files.changes before after).forM fun (path, text) => IO.FS.writeFile path text

/-- Prints how a run ends and gives its exit code. -/
def report : Except Breakdown Ending → IO UInt32
  | .ok ending => do
    ending.lines.forM IO.println
    return ending.exitCode.toUInt32
  | .error e => do
    IO.eprintln e.message
    return 1

end ThriftScala.Cli

/-- Runs the command with the arguments of the program. -/
def main (args : List String) : IO UInt32 := do
  let files ←
    match ThriftScala.Cli.parse args with
    | .request r => r.lookUp
    | _ => pure []
  let outcome := ThriftScala.Cli.run .ample files args
  ThriftScala.Cli.store files outcome.files
  ThriftScala.Cli.report outcome.ending
