import Tactician.Command.Miner

/-!
# The miner's executable

The command line of `puzzle-miner`, run against the working directory: the files its words name
(and the preference file the environment names) are read before the run, the files the run wrote
are written after it, and what it printed goes to the standard streams, with its exit status.

No engine program is launched from here, so the commands that need an engine report that none
was found.  Stores live for the length of one run.
-/

namespace Tactician
namespace Command

/-- A host on which no engine program can be started. -/
def offlineHost : Engine.Host Unit :=
  { configured := none, launch := fun _ => .error .missing, go := fun _ _ _ => pure none }

/-- The paths a command line may name: its words, and the values of its `--name=value` words. -/
def namedPaths (argv : List String) : List String :=
  (argv.flatMap fun w => match w.splitOn "=" with
    | _ :: rest@(_ :: _) => [w, String.intercalate "=" rest]
    | _ => [w]).eraseDups

/-- The files a run wrote: new ones, and those whose text changed. -/
def writtenFiles (before after : List (String × String)) : List (String × String) :=
  after.filter fun (path, text) => before.find? (·.1 == path) != some (path, text)

end Command
end Tactician

open Tactician Command in
/-- Read a file, if there is one at the path. -/
def readIfPresent (path : String) : IO (Option (String × String)) := do
  try
    return some (path, ← IO.FS.readFile path)
  catch _ =>
    return none

open Tactician Command in
/-- Run the miner on the command line. -/
def main (argv : List String) : IO UInt32 := do
  let configPath ← IO.getEnv "PUZZLE_MINER_CONFIG"
  let store := ((← IO.getEnv "PUZZLE_MINER_DB").filter (!·.isEmpty)).getD "data/puzzles.db"
  let named := namedPaths argv ++ configPath.toList
  let files ← named.filterMapM readIfPresent
  let session : Session := { files := files, configPath := configPath, defaultStore := store }
  let ((r, after), _) := ((runMiner offlineHost argv).run session).run ()
  match r with
  | .error f =>
    IO.print after.printed
    IO.eprintln f.message
    return 1
  | .ok out =>
    for (path, text) in writtenFiles files after.files do
      IO.FS.writeFile path text
    IO.print out.stdout
    IO.eprint out.stderr
    return out.exit.toUInt32
