import Tactician.Command.Arguments
import Tactician.Engine.Pool
import Tactician.Number.Fixed

/-!
# The engine adapter command

`engine analyze FEN [--movetime MS] [--multipv N]` streams a search on a position and prints
each snapshot's best line: its depth, its score (`Mate in N`, else pawns with a sign and two
decimals) and the first eight moves of its variation.

The engine is started before the position is read, so a missing engine is reported (on the error
stream, with exit status one) even for a malformed position.  A malformed position, or a search
that fails while it runs, leaves the command as an error of its own.
-/

namespace Tactician
namespace Command

open Analysis

/-- What a command printed and how it ended. -/
structure RunOutput where
  /-- The standard output. -/
  stdout : String := ""
  /-- The error output. -/
  stderr : String := ""
  /-- The exit status. -/
  exit : Nat := 0
  deriving DecidableEq, Repr, Inhabited

/-- Text padded on the left with spaces to `width`. -/
def padLeft (s : String) (width : Nat) : String :=
  String.ofList (List.replicate (width - s.length) ' ') ++ s

/-- The engine adapter's command line. -/
def adapterProgram : Program :=
  let analyze : Parser :=
    { prog := "engine analyze",
      arguments := [.option helpOption, .positional { name := "fen", help := "FEN string" },
        .option { flags := ["--movetime"], dest := "movetime", reading := .integer,
                  default := .int 1000, help := "Search time in ms (default: 1000)" },
        .option { flags := ["--multipv"], dest := "multipv", reading := .integer,
                  default := .int 3, help := "Ranked lines (default: 3)" }] }
  { top := { prog := "engine", description := some "Stockfish evaluation adapter",
             arguments := [.option helpOption] },
    dest := "command",
    commands := [{ name := "analyze", help := "Analyze a FEN position", parser := analyze }] }

/-- A score as the adapter shows it: `Mate in N`, else pawns with a sign and two decimals. -/
def scoreText (s : Score) : String :=
  match s.mate with
  | some m => "Mate in " ++ toString m
  | none =>
    let cp := s.cp.getD 0
    Number.signedFixed (Number.ofRatio (cp < 0) cp.natAbs 100) 2

/-- The line shown for a snapshot, if it has a best line. -/
def snapshotLine (e : Evaluation) : Option String :=
  e.lines.head?.map fun best =>
    "  depth " ++ padLeft (toString e.depth) 2 ++ "  " ++ padLeft (scoreText best.score) 10 ++ "  " ++
      String.intercalate " " (best.pv.take 8)

/-- Analyse a position for the adapter: the header, then one line per snapshot. -/
def analyzeCommand {σ : Type} (host : Engine.Host σ) (fen : String) (movetime lines : Int) :
    StateM σ (Except Engine.Failure RunOutput) := do
  match Engine.Pool.start host none 1 4096 with
  | .error f => return .ok { stderr := "Error: " ++ f.message ++ "\n", exit := 1 }
  | .ok pool =>
    match Chess.Position.ofFen fen with
    | .error e => return .error (.badFen e)
    | .ok p =>
      let header := "Position: " ++ fen ++ "\nSide to move: " ++
        (match p.turn with
          | .white => "White"
          | .black => "Black") ++ "\n\n"
      let s ← get
      let (r, (_, s')) := (Engine.evaluate host fen lines none none (some movetime)).run (pool, s)
      set s'
      match r with
      | .error f => return .error f
      | .ok stream =>
        let shown := String.join (stream.snapshots.filterMap fun e =>
          (snapshotLine e).map (· ++ "\n"))
        match stream.failure with
        | some f =>
          if f.isUnavailable then
            return .ok { stdout := header ++ shown, stderr := "Error: " ++ f.message ++ "\n", exit := 1 }
          else return .error f
        | none => return .ok { stdout := header ++ shown }

/-- Run the adapter on a command line, at a help width of `width` columns. -/
def runAdapter {σ : Type} (host : Engine.Host σ) (argv : List String) (width : Nat) :
    StateM σ (Except Engine.Failure RunOutput) :=
  match adapterProgram.outcome argv width with
  | .help text => pure (.ok { stdout := text })
  | .refused text => pure (.ok { stderr := text, exit := 2 })
  | .parsed (some "analyze") vs =>
    analyzeCommand host ((vs.get "fen").str?.getD "") ((vs.get "movetime").int?.getD 1000)
      ((vs.get "multipv").int?.getD 3)
  | .parsed _ _ => pure (.ok { stdout := adapterProgram.help width, exit := 1 })

end Command
end Tactician
