import Tactician.Command.Arguments
import Tactician.Command.Table
import Tactician.Command.Adapter
import Tactician.Store.Record
import Tactician.Pgn.Export
import Tactician.Data.Json
import Tactician.Settings.Preferences

/-!
# The puzzle miner command

`puzzle-miner` has four commands:

* `analyze PGN` mines every game of a file without storing anything, shows each game's opening,
  plies, accuracy and puzzles, and with `--output` writes the results as JSON;
* `import PGN --user U` stores every game of a file for a user, skipping unreadable games;
* `sync --user U (--game ID ... | --all)` mines stored games again and replaces their puzzles,
  showing a table of the outcome per game, and fails when any game failed;
* `stats --user U` shows a user's totals, breakdowns and favourite openings.

Settings come from the preference file named by `--config` or by the environment; `--mode`,
`--movetime` (when not zero) and `--cap` override them.  A failure of the miner, of a game text,
of the settings or of a file is reported as `ERROR: ...` with exit status one.  The commands run
against a session: the files of a working directory, the stores named by path, and the engine.
-/

namespace Tactician
namespace Command

open Analysis

/-- The width of the terminal the miner writes to. -/
def terminalWidth : Nat := 100

/-- The width help texts are wrapped at: the terminal's, less a margin of two. -/
def helpWidth : Nat := terminalWidth - 2

/-- The options that shape an analysis. -/
def analysisOptions : List Argument :=
  [.option { flags := ["--mode"], dest := "mode", choices := ["avoidBlunder", "punishBlunder", "both"],
             help := "Puzzle framing" },
   .option { flags := ["--movetime"], dest := "movetime", reading := .integer,
             help := "Engine time per position in ms" },
   .option { flags := ["--cap"], dest := "cap", reading := .integer,
             help := "Max puzzles per game (0 = unlimited)" }]

/-- The miner's command line. -/
def minerProgram : Program :=
  let analyze : Parser :=
    { prog := "puzzle-miner analyze",
      arguments := [.option helpOption,
        .positional { name := "pgn", help := "PGN file (one or more games)" },
        .option { flags := ["--username"], dest := "username",
                  help := "Your username, to pick your colour" },
        .option { flags := ["--user-color"], dest := "user_color", choices := ["white", "black"],
                  help := "Your colour, overrides --username" },
        .option { flags := ["--output"], dest := "output",
                  help := "Write puzzles as JSON to this path" }] ++ analysisOptions }
  let importing : Parser :=
    { prog := "puzzle-miner import",
      arguments := [.option helpOption,
        .positional { name := "pgn", help := "PGN file (one or more games)" },
        .option { flags := ["--user"], dest := "user", required := true, help := "Owner user id" },
        .option { flags := ["--username"], dest := "username",
                  help := "Username in the PGN headers" },
        .option { flags := ["--provider"], dest := "provider",
                  help := "Game source, e.g. lichess" }] }
  let sync : Parser :=
    { prog := "puzzle-miner sync",
      arguments := [.option helpOption,
        .option { flags := ["--user"], dest := "user", required := true, help := "Owner user id" },
        .option { flags := ["--game"], dest := "game", action := .append,
                  help := "Game id (repeatable)" },
        .option { flags := ["--all"], dest := "all", action := .flag,
                  help := "Sync every game of the user" },
        .option { flags := ["--workers"], dest := "workers", reading := .integer, default := .int 2,
                  help := "Games analyzed in parallel (default: 2)" }] ++ analysisOptions }
  let stats : Parser :=
    { prog := "puzzle-miner stats",
      arguments := [.option helpOption,
        .option { flags := ["--user"], dest := "user", required := true, help := "User id" }] }
  { top := { prog := "puzzle-miner", description := some "Mine training puzzles from played games",
             arguments := [.option helpOption,
               .option { flags := ["--verbose"], dest := "verbose", action := .flag,
                         help := "Enable debug logging" },
               .option { flags := ["--db"], dest := "db",
                         help := "SQLite store path (default: $PUZZLE_MINER_DB or data/puzzles.db)" },
               .option { flags := ["--config"], dest := "config",
                         help := "Preferences JSON (default: $PUZZLE_MINER_CONFIG)" }] },
    dest := "command",
    commands := [
      { name := "analyze", help := "Mine puzzles from a PGN file without storing them",
        parser := analyze },
      { name := "import", help := "Store games from a PGN file", parser := importing },
      { name := "sync", help := "Re-extract puzzles for stored games", parser := sync },
      { name := "stats", help := "Show puzzle and attempt overview", parser := stats }] }

/-- What the miner works on: a working directory's files, the stores by path, and what it has
printed in the current run. -/
structure Session where
  /-- Files by path, with their text. -/
  files : List (String × String)
  /-- The preference file named by the environment. -/
  configPath : Option String := none
  /-- The store used when none is named. -/
  defaultStore : String := "puzzles.db"
  /-- Stores by path. -/
  stores : List (String × Store.Tables) := []
  /-- The counters for new ids and timestamps, shared by all stores. -/
  stamps : Store.Stamps := {}
  /-- The standard output of the current run. -/
  printed : String := ""
  deriving Inhabited

/-- Why a run stops. -/
inductive Halt where
  /-- A failure reported as `ERROR: message`, exit status one. -/
  | error (message : String)
  /-- An exit with this status after what was printed. -/
  | status (code : Nat)
  /-- An analysis fault the miner does not handle: the run breaks off. -/
  | crash (f : Analysis.Failure)

/-- A run of the miner, with an engine whose state is `σ`. -/
abbrev MinerM (σ : Type) := ExceptT Halt (StateT Session (StateM σ))

/-- Print a line as it is. -/
def say {σ : Type} (line : String) : MinerM σ Unit :=
  modify fun s => { s with printed := s.printed ++ line ++ "\n" }

/-- Print text broken to the terminal width. -/
def printText {σ : Type} (text : String) : MinerM σ Unit := do
  for l in plainLines text terminalWidth do say l

/-- Print a table. -/
def showTable {σ : Type} (t : Table) : MinerM σ Unit := do
  for l in t.render terminalWidth do say l

/-- Stop with an error message. -/
def fail {σ α : Type} (message : String) : MinerM σ α := throw (.error message)

/-- Line ends as text files are read: `\r\n` and a lone `\r` become `\n`. -/
def universalNewlines : List Char → List Char
  | '\r' :: '\n' :: rest => '\n' :: universalNewlines rest
  | '\r' :: rest => '\n' :: universalNewlines rest
  | c :: rest => c :: universalNewlines rest
  | [] => []

/-- The text of a file of the working directory, line ends made uniform. -/
def readFile {σ : Type} (path : String) : MinerM σ String := do
  match (← get).files.find? (·.1 == path) with
  | some (_, text) => return String.ofList (universalNewlines text.toList)
  | none => fail ("[Errno 2] No such file or directory: " ++ Text.quote path)

/-- Write a file of the working directory. -/
def writeFile {σ : Type} (path text : String) : MinerM σ Unit :=
  modify fun s => { s with files := (s.files.filter (·.1 != path)) ++ [(path, text)] }

/-- Run an engine computation on a pool, with the engine's state. -/
def withEngine {σ α : Type} (pool : Engine.Pool) (x : Engine.EngineM σ α) :
    MinerM σ (α × Engine.Pool) := do
  let s ← (monadLift (get : StateM σ σ) : MinerM σ σ)
  let (a, (pool', s')) := x.run (pool, s)
  (monadLift (set s' : StateM σ Unit) : MinerM σ Unit)
  return (a, pool')

/-- Start a pool of engines, or stop with the reason. -/
def startEngines {σ : Type} (host : Engine.Host σ) (workers : Nat) : MinerM σ Engine.Pool :=
  match Engine.Pool.start host none workers 4096 with
  | .ok pool => pure pool
  | .error f => fail f.message

/-- The settings for a run: the preference file (given, else named by the environment; missing
or unreadable files give the defaults), then the overrides of the command line. -/
def settingsOf {σ : Type} (vs : Values) : MinerM σ Config := do
  let s ← get
  let path := match (vs.get "config").str? with
    | some p => if p.isEmpty then s.configPath else some p
    | none => s.configPath
  let text := path.bind fun p => (s.files.find? (·.1 == p)).map (·.2)
  let base ← match Config.ofFileText text with
    | .ok c => pure c
    | .error e => fail e.message
  let withMode := match ((vs.get "mode").str?).bind Settings.PuzzleMode.ofTag? with
    | some m => { base with puzzleMode := m }
    | none => base
  let withTime := match (vs.get "movetime").int? with
    | some t => if t == 0 then withMode else { withMode with movetimeMs := t }
    | none => withMode
  let withCap := match (vs.get "cap").int? with
    | some n => { withTime with maxPuzzlesPerGame := some n }
    | none => withTime
  match Config.validate withCap with
  | .ok c => return c
  | .error e => fail e.message

/-- The games of a file, each written back on its own. -/
def gamesOf {σ : Type} (path : String) : MinerM σ (List String) := do
  match Pgn.splitGames (← readFile path) with
  | .ok games => return games
  | .error e => fail e.message

/-- The lines describing one analysed game: opening, plies and accuracy, then its puzzles. -/
def analysisReport {σ : Type} (a : GameAnalysis) : MinerM σ Unit := do
  let o := a.opening
  let name := match o.name with
    | some n => if n.isEmpty then "Unknown opening" else n
    | none => "Unknown opening"
  let title := match o.eco with
    | some e => if e.isEmpty then name else e ++ " " ++ name
    | none => name
  let title := match o.variation with
    | some v => if v.isEmpty then title else title ++ ": " ++ v
    | none => title
  let acc := [("white", a.accuracyWhite), ("black", a.accuracyBlack)].filterMap fun (side, x) =>
    x.map fun v => side ++ " " ++ Number.fixed v 1 ++ "%"
  printText (title ++ "  (" ++ o.source.tag ++ ")")
  printText ("Plies: " ++ toString a.game.plyCount ++ "  User colour: " ++ (a.userColor.getD "both") ++
    "  Accuracy: " ++ (if acc.isEmpty then "n/a" else String.intercalate ", " acc))
  if a.puzzles.isEmpty then
    printText "No puzzles found"
  else
    showTable { title := some (toString a.puzzles.length ++ " puzzle(s)"),
                columns := [⟨"Ply", .right⟩, ⟨"Type", .left⟩, ⟨"Kind", .left⟩, ⟨"Sev", .right⟩,
                            ⟨"Swing", .right⟩, ⟨"Best", .left⟩, ⟨"Tags", .left⟩],
                rows := a.puzzles.map fun p =>
                  [toString p.sourcePly, p.type.tag, p.kind.tag, toString p.severity,
                   toString p.swing, p.bestMove, String.intercalate ", " p.tags] }

/-- The record of an analysed game in the JSON output. -/
def analysisRecord (a : GameAnalysis) : Value :=
  .obj [("headers", .obj (a.game.tags.map fun (k, v) => (k, .str v))),
        ("opening", infoValue a.opening),
        ("accuracy", accuracyValue a.accuracyWhite a.accuracyBlack),
        ("puzzles", .arr (a.puzzles.map Analysis.Puzzle.toValue))]

/-- Mine every game of a file without storing anything. -/
def analyzeFile {σ : Type} (host : Engine.Host σ) (vs : Values) : MinerM σ Unit := do
  let c ← settingsOf vs
  let path := (vs.get "pgn").str?.getD ""
  let games ← gamesOf path
  if games.isEmpty then fail ("No games found in " ++ path)
  let pool ← startEngines host c.confirmWorkers.toNat
  let count := games.length
  let (records, _) ← games.zipIdx.foldlM (fun (acc : List GameAnalysis × Engine.Pool) (pgn, i) => do
    say ("Analyzing game " ++ toString (i + 1) ++ "/" ++ toString count ++ "...")
    let (r, pool') ← withEngine acc.2 (Analysis.analyzeGame pgn c (some (Engine.Pool.evaluator host))
      [] (vs.get "username").str? (vs.get "user_color").str? Openings.defaultBook)
    match r with
    | .error .emptyLine => throw (.crash .emptyLine)
    | .error f => fail f.message
    | .ok a =>
      say "  Done in 0.0s"
      analysisReport a
      return (acc.1 ++ [a], pool')) ([], pool)
  match (vs.get "output").str? with
  | some out =>
    writeFile out (Json.render ⟨false, some 2⟩ (.arr (records.map analysisRecord)))
    let count := total (records.map (·.puzzles.length))
    say ("Wrote " ++ toString count ++ " puzzle(s) to " ++ out)
  | none => pure ()

/-- The store at a path (the default one when none is given), sharing the session's counters. -/
def openStore {σ : Type} (vs : Values) : MinerM σ (String × Store.Tables) := do
  let s ← get
  let path := match (vs.get "db").str? with
    | some p => if p.isEmpty then s.defaultStore else p
    | none => s.defaultStore
  let t := ((s.stores.find? (·.1 == path)).map (·.2)).getD {}
  return (path, { t with stamps := s.stamps })

/-- Put a store back, keeping its counters for the session. -/
def closeStore {σ : Type} (path : String) (t : Store.Tables) : MinerM σ Unit :=
  modify fun s => { s with stores := (s.stores.filter (·.1 != path)) ++ [(path, t)],
                           stamps := t.stamps }

/-- Run a store operation on an open store. -/
def onStore {σ α : Type} (path : String) (t : Store.Tables) (x : Store.Step α) :
    MinerM σ (Except Store.Error α × Store.Tables) := do
  let (r, t') := x.run.run t
  closeStore path t'
  return (r, t')

/-- Store every game of a file for a user. -/
def importFile {σ : Type} (vs : Values) : MinerM σ Unit := do
  let (path, t) ← openStore vs
  closeStore path t
  let games ← gamesOf ((vs.get "pgn").str?.getD "")
  let user := (vs.get "user").str?.getD ""
  let imported ← games.foldlM (fun (n : Nat) pgn => do
    let (_, t) ← openStore vs
    let (r, _) ← onStore path t (Store.importGame user pgn (vs.get "username").str? none
      (vs.get "provider").str? Openings.defaultBook)
    match r with
    | .ok id =>
      say ("  Imported " ++ id)
      return n + 1
    | .error (.game e) =>
      say ("  WARNING: skipped game: " ++ e.message)
      return n
    | .error e => fail e.message) 0
  say ("Imported " ++ toString imported ++ "/" ++ toString games.length ++ " game(s)")

/-- Mine stored games again and replace their puzzles. -/
def syncGames {σ : Type} (host : Engine.Host σ) (vs : Values) : MinerM σ Unit := do
  let c ← settingsOf vs
  let (path, t) ← openStore vs
  closeStore path t
  let user := (vs.get "user").str?.getD ""
  let ids ← if (vs.get "all").truthy then do
      let (r, _) ← onStore path t (Store.listGames user)
      pure (match r with
        | .ok gs => gs.map (·.id)
        | .error _ => [])
    else pure (((vs.get "game").arr?.getD []).filterMap Value.str?)
  if ids.isEmpty then
    say "No games to sync"
    return
  let workers := (vs.get "workers").int?.getD 2
  say ("Syncing " ++ toString ids.length ++ " game(s) with " ++ toString workers ++ " worker(s)...")
  let pool ← startEngines host (max workers c.confirmWorkers).toNat
  let (_, t) ← openStore vs
  let s ← (monadLift (get : StateM σ σ) : MinerM σ σ)
  let ((r, t'), (_, s')) :=
    (((Store.syncGames user ids c (some (Engine.Pool.evaluator host)) Openings.defaultBook).run).run
      t).run (pool, s)
  (monadLift (set s' : StateM σ Unit) : MinerM σ Unit)
  closeStore path t'
  match r with
  | .error (.analysis .emptyLine) => throw (.crash .emptyLine)
  | .error e => fail e.message
  | .ok results =>
    showTable { title := some "Sync results",
                columns := [⟨"Game", .left⟩, ⟨"Puzzles", .right⟩, ⟨"Status", .left⟩],
                rows := results.map fun (id, x) => match x with
                  | .ok rep => [id, toString rep.puzzles, "ok"]
                  | .error e => [id, "-", e.message] }
    if results.any (fun (_, x) => match x with
        | .error _ => true
        | .ok _ => false) then
      throw (.status 1)

/-- A breakdown table of the overview. -/
def breakdownTable (title : String) (tallies : List (String × Store.Tally)) : Table :=
  { title := some title,
    columns := [⟨"Bucket", .left⟩, ⟨"Puzzles", .right⟩, ⟨"Attempted", .right⟩, ⟨"Solved", .right⟩],
    rows := (tallies.mergeSort fun a b => a.1 ≤ b.1).map fun (k, t) =>
      [k, toString t.puzzles, toString t.attempted, toString t.solved] }

/-- Show a user's overview. -/
def showStats {σ : Type} (vs : Values) : MinerM σ Unit := do
  let (path, t) ← openStore vs
  let (r, _) ← onStore path t (Store.overview ((vs.get "user").str?.getD ""))
  match r with
  | .error e => fail e.message
  | .ok o =>
    let rate := if o.attempts == 0 then "n/a"
      else Number.fixed (Number.roundFloat (Number.ofRatio false o.correctAttempts o.attempts) 4 * 100.0)
        0 ++ "%"
    printText ("Puzzles " ++ toString o.puzzles ++ "  attempted " ++ toString o.attempted ++ "  solved " ++
      toString o.solved ++ "  failed " ++ toString (o.attempted - o.solved) ++ "  success " ++ rate)
    showTable (breakdownTable "By type" o.byType)
    showTable (breakdownTable "By kind" o.byKind)
    if !o.topOpenings.isEmpty then
      showTable { title := some "Top openings",
                  columns := [⟨"ECO", .left⟩, ⟨"Name", .left⟩, ⟨"Puzzles", .right⟩],
                  rows := o.topOpenings.map fun x => [x.eco, x.name.getD "", toString x.puzzles] }

/-- Run the miner on a command line: what it printed and how it ended, or the analysis fault
that broke it off. -/
def runMiner {σ : Type} (host : Engine.Host σ) (argv : List String) :
    StateT Session (StateM σ) (Except Analysis.Failure RunOutput) := do
  modify fun s => { s with printed := "" }
  match minerProgram.outcome argv helpWidth with
  | .help text => return .ok { stdout := text }
  | .refused text => return .ok { stderr := text, exit := 2 }
  | .parsed command vs =>
    let body : MinerM σ Unit := match command with
      | some "analyze" => analyzeFile host vs
      | some "import" => importFile vs
      | some "sync" => syncGames host vs
      | some "stats" => showStats vs
      | _ => do
        for l in (minerProgram.help helpWidth).splitOn "\n" |>.dropLast do say l
        throw (.status 1)
    let r ← body.run
    let out := (← get).printed
    match r with
    | .ok () => return .ok { stdout := out }
    | .error (.status code) => return .ok { stdout := out, exit := code }
    | .error (.error m) => return .ok { stdout := out ++ "ERROR: " ++ m ++ "\n", exit := 1 }
    | .error (.crash f) => return .error f

end Command
end Tactician
