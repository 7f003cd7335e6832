import Tactician.Analysis.Classify
import Tactician.Tactics.Line
import Tactician.Openings.Book
import Tactician.Text.Case

/-!
# Puzzles

A puzzle is a position taken from a game with the line that solves it.  Its framing says whether
the solver replays their own mistake (`avoidBlunder`, the position before the move) or exploits
the opponent's (`punishBlunder`, the position after it).  Its kind buckets the swing of the move it
was mined from (blunder, missed win, missed tactic), its severity grades the swing from 1 to 3,
and its phase places it in the game by material and ply.  Tags are the sorted distinct motif
tags, capped, followed by `kind:` and the framing; the label is the framing's prompt, the phrase of
the first motif that has one, and the opening's name when the puzzle comes from the opening.
-/

namespace Tactician
namespace Analysis

open Chess Tactics Openings

/-- The framing of a puzzle. -/
inductive PuzzleType where
  | avoidBlunder
  | punishBlunder
  deriving DecidableEq, Repr, Inhabited

namespace PuzzleType

/-- The text of a framing. -/
def tag : PuzzleType → String
  | avoidBlunder => "avoidBlunder"
  | punishBlunder => "punishBlunder"

/-- The framing with a text. -/
def ofTag? : String → Option PuzzleType
  | "avoidBlunder" => some avoidBlunder
  | "punishBlunder" => some punishBlunder
  | _ => none

/-- Avoiding comes before punishing at the same ply. -/
def order : PuzzleType → Nat
  | avoidBlunder => 0
  | punishBlunder => 1

/-- The prompt shown with a puzzle of this framing. -/
def prompt : PuzzleType → String
  | avoidBlunder => "Find the best move (avoid the mistake)"
  | punishBlunder => "Punish the blunder!"

end PuzzleType

/-- The bucket of the swing a puzzle comes from. -/
inductive PuzzleKind where
  | blunder
  | missedWin
  | missedTactic
  deriving DecidableEq, Repr, Inhabited

namespace PuzzleKind

/-- The text of a kind. -/
def tag : PuzzleKind → String
  | blunder => "blunder"
  | missedWin => "missedWin"
  | missedTactic => "missedTactic"

/-- The kind with a text. -/
def ofTag? : String → Option PuzzleKind
  | "blunder" => some blunder
  | "missedWin" => some missedWin
  | "missedTactic" => some missedTactic
  | _ => none

end PuzzleKind

/-- The part of the game a position belongs to. -/
inductive GamePhase where
  | opening
  | middlegame
  | endgame
  deriving DecidableEq, Repr, Inhabited

namespace GamePhase

/-- The text of a phase. -/
def tag : GamePhase → String
  | opening => "opening"
  | middlegame => "middlegame"
  | endgame => "endgame"

/-- The phase with a text. -/
def ofTag? : String → Option GamePhase
  | "opening" => some opening
  | "middlegame" => some middlegame
  | "endgame" => some endgame
  | _ => none

end GamePhase

/-- The bucket of a swing: a blunder from the blunder threshold; a missed win when the solver
stood at or above the winning threshold and the swing reaches the missed-win threshold; a missed
tactic from its own threshold; otherwise none. -/
def classifyKind (swing : Int) (solverCp : Option Int) (c : Config) : Option PuzzleKind :=
  if swing ≥ c.blunderSwingCp then some .blunder
  else if (solverCp.any (· ≥ c.winningThresholdCp)) && swing ≥ c.missedWinSwingCp then
    some .missedWin
  else if swing ≥ c.missedTacticSwingCp then some .missedTactic
  else none

/-- The severity of a swing, from 1 to 3. -/
def severityForSwing (swing : Int) (c : Config) : Nat :=
  if swing ≥ c.bigSwingCp then 3 else if swing ≥ c.mediumSwingCp then 2 else 1

/-- The phase of a position: endgame with at most 26 pawns of material, opening before ply 20
with at least 60, middlegame otherwise. -/
def gamePhase (p : Position) (ply : Int) : GamePhase :=
  let m := totalMaterial p
  if m ≤ 26 then .endgame
  else if ply < 20 && m ≥ 60 then .opening
  else .middlegame

/-- The most tags a puzzle carries. -/
def maxTags : Nat := 64

/-- The most accepted moves a puzzle carries. -/
def maxAcceptedMoves : Nat := 16

/-- Insert a text into a sorted list without duplicates. -/
def insertSorted (s : String) : List String → List String
  | [] => [s]
  | t :: rest => if s == t then t :: rest else if s < t then s :: t :: rest else t :: insertSorted s rest

/-- Sorted distinct motif tags, capped, then the framing marker. -/
def buildTags (motifs : List Motif) (t : PuzzleType) : List String :=
  let sorted := motifs.foldl (fun acc m => insertSorted m.tag acc) []
  sorted.take (maxTags - 1) ++ ["kind:" ++ t.tag]

/-- The phrase that names a motif in a label. -/
def Motif.phrase? : Motif → Option String
  | .checkmate => some "deliver mate"
  | .backRankMate => some "back-rank mate"
  | .doubleCheck => some "double check"
  | .discoveredAttack => some "discovered attack"
  | .fork => some "fork"
  | .pin => some "pin"
  | .skewer => some "skewer"
  | .promotion => some "promotion"
  | .mateThreat => some "forced mate"
  | .hangingPiece => some "win material"
  | .multiSolution => none

/-- The label of a puzzle. -/
def puzzleLabel (t : PuzzleType) (motifs : List Motif) (opening : Option Info) : String :=
  let base := t.prompt
  let withTheme := match motifs.findSome? Motif.phrase? with
    | some phrase => base ++ " Theme: " ++ phrase ++ "."
    | none => base
  match opening.bind (·.name) with
  | some n => if n.isEmpty then withTheme else withTheme ++ " (" ++ n ++ ")"
  | none => withTheme

/-- Moves accepted as solutions: the best move, and with a forced mate every other line that
mates as fast; trimmed and lower-cased, distinct, capped. -/
def acceptedMoves (e : Evaluation) : List String :=
  match e.best? with
  | none => []
  | some best =>
    let norm (s : String) := Text.toLower (Text.trim s)
    let first := [norm best.move]
    let all := match best.score.mate with
      | some m =>
        if m > 0 then
          (e.lines.drop 1).foldl (fun (acc : List String) (l : EngineLine) =>
            let mv := norm l.move
            if l.score.mate == some m && !acc.contains mv then acc ++ [mv] else acc) first
        else first
      | none => first
    all.take maxAcceptedMoves

/-- A mined puzzle. -/
structure Puzzle where
  /-- The ply of the puzzle's position. -/
  sourcePly : Nat
  /-- The position, as FEN. -/
  fen : String
  /-- The solution's first move. -/
  bestMove : String
  /-- The solution line. -/
  bestLine : List String
  /-- The framing. -/
  type : PuzzleType
  /-- The bucket. -/
  kind : PuzzleKind
  /-- The severity from 1 to 3. -/
  severity : Nat
  /-- The score of the best line. -/
  score : Score
  /-- The signals. -/
  motifs : List Motif
  /-- The game's opening. -/
  opening : Info
  /-- The label. -/
  label : String
  /-- The phase. -/
  phase : GamePhase
  /-- Moves accepted as solutions. -/
  acceptedMoves : List String
  /-- The swing it was mined from. -/
  swing : Int
  deriving Inhabited

/-- The tags of a puzzle. -/
def Puzzle.tags (p : Puzzle) : List String := buildTags p.motifs p.type

end Analysis
end Tactician
