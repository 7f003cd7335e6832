import Tactician.Data.Value
import Tactician.Text.Numeral

/-!
# Analysis settings

The thresholds of one analysis run, with their defaults, and the rules that reject a run before
it starts: a positive move time, at least one line per position, at least one confirmation
worker, and an evaluation band whose lower end does not exceed its upper end.
-/

namespace Tactician
namespace Settings

/-- Which puzzle framings to mine. -/
inductive PuzzleMode where
  /-- Replay one's own mistake. -/
  | avoidBlunder
  /-- Exploit the opponent's mistake. -/
  | punishBlunder
  /-- Both. -/
  | both
  deriving DecidableEq, Repr, Inhabited

namespace PuzzleMode

/-- The text of a mode. -/
def tag : PuzzleMode → String
  | avoidBlunder => "avoidBlunder"
  | punishBlunder => "punishBlunder"
  | both => "both"

/-- The mode with a text. -/
def ofTag? : String → Option PuzzleMode
  | "avoidBlunder" => some avoidBlunder
  | "punishBlunder" => some punishBlunder
  | "both" => some both
  | _ => none

end PuzzleMode

end Settings

/-- The thresholds of one analysis run.  Swings and scores are centipawns. -/
structure Config where
  /-- Which framings to mine. -/
  puzzleMode : Settings.PuzzleMode := .both
  /-- Engine time per position. -/
  movetimeMs : Int := 200
  /-- Puzzles kept per game; none or zero for no limit. -/
  maxPuzzlesPerGame : Option Int := none
  /-- Swing from which a move is a blunder. -/
  blunderSwingCp : Int := 250
  /-- Swing from which a missed winning move counts. -/
  missedWinSwingCp : Int := 150
  /-- Swing from which a missed tactic counts. -/
  missedTacticSwingCp : Int := 180
  /-- Score from which a position counts as winning. -/
  winningThresholdCp : Int := 200
  /-- Plies at the start of the game never mined. -/
  openingSkipPlies : Int := 8
  /-- Drop positions with few pieces. -/
  skipTrivialEndgames : Bool := true
  /-- The fewest pieces other than kings a kept position has. -/
  minNonKingPieces : Int := 4
  /-- The shortest solution line kept. -/
  minPvMoves : Int := 2
  /-- Keep only lines with an early forcing move. -/
  requireTactical : Bool := true
  /-- How far into the line a forcing move may come. -/
  tacticalLookaheadPlies : Int := 4
  /-- The lowest starting score kept. -/
  evalBandMinCp : Option Int := none
  /-- The highest starting score kept. -/
  evalBandMaxCp : Option Int := none
  /-- The least gap between the best and second-best line. -/
  uniquenessMarginCp : Option Int := none
  /-- Engine time for the confirmation pass. -/
  confirmMovetimeMs : Option Int := none
  /-- Plies after a puzzle in which no puzzle of the same framing is taken. -/
  cooldownPlies : Int := 0
  /-- Drop a punishing puzzle when the game found the punishment. -/
  skipPunishedBlunders : Bool := true
  /-- Lines asked of the engine per position. -/
  multipv : Int := 2
  /-- The longest solution line kept. -/
  maxLinePlies : Int := 10
  /-- Workers of the confirmation pass. -/
  confirmWorkers : Int := 4
  /-- The centipawn value of a mate. -/
  mateScoreCp : Int := 10000
  /-- Swing up to which a move is the best. -/
  bestSwingCp : Int := 10
  /-- Swing from which a move is an inaccuracy. -/
  inaccuracySwingCp : Int := 50
  /-- Swing from which a puzzle is of medium severity. -/
  mediumSwingCp : Int := 200
  /-- Swing from which a puzzle is of big severity. -/
  bigSwingCp : Int := 400
  deriving DecidableEq, Repr, Inhabited

namespace Config

/-- Why settings are refused. -/
inductive Error where
  /-- The move time is not positive. -/
  | movetime (n : Int)
  /-- Fewer than one line per position. -/
  | multipv (n : Int)
  /-- Fewer than one worker. -/
  | workers (n : Int)
  /-- The evaluation band is empty. -/
  | emptyBand (lo hi : Int)
  deriving DecidableEq, Repr

/-- The text of the error. -/
def Error.message : Error → String
  | .movetime n => "movetime_ms must be positive, got " ++ toString n
  | .multipv n => "multipv must be >= 1, got " ++ toString n
  | .workers n => "confirm_workers must be >= 1, got " ++ toString n
  | .emptyBand lo hi => "eval band is empty: min " ++ toString lo ++ " > max " ++ toString hi

/-- Check the settings, reporting the first rule broken. -/
def validate (c : Config) : Except Error Config :=
  if c.movetimeMs ≤ 0 then .error (.movetime c.movetimeMs)
  else if c.multipv < 1 then .error (.multipv c.multipv)
  else if c.confirmWorkers < 1 then .error (.workers c.confirmWorkers)
  else match c.evalBandMinCp, c.evalBandMaxCp with
    | some lo, some hi => if lo > hi then .error (.emptyBand lo hi) else .ok c
    | _, _ => .ok c

/-- The puzzle cap per game; none when unlimited (zero counts as unlimited). -/
def cap (c : Config) : Option Int :=
  match c.maxPuzzlesPerGame with
  | some n => if n == 0 then none else some n
  | none => none

/-- Whether a deeper confirmation pass runs: its move time exceeds the normal one. -/
def confirmationEnabled (c : Config) : Bool :=
  match c.confirmMovetimeMs with
  | some t => t > c.movetimeMs
  | none => false

end Config

end Tactician
