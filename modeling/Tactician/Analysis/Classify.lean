import Tactician.Analysis.Evaluation
import Tactician.Pgn.Game
import Tactician.Settings.Basic

/-!
# Classifying played moves

Every evaluation is relative to the side to move of its own position, so the score after a move
is the opponent's and is negated for the mover.  The swing of a move is the mover's score before
it minus the mover's score after it: positive when the move made things worse.  A finished
position scores minus the mate value when the side to move is mated and zero for any other end.
A move with either score missing is unclassified.

Labels follow the swing: up to `best` it is the best move, then good, inaccuracy, mistake, and
from the blunder threshold a blunder.  A side's accuracy maps its average loss (negative swings
counting as zero) through `103.1668 · e^(−0.04354 · loss) − 3.1669`, clamped to `[0, 100]` and
rounded to one decimal.
-/

namespace Tactician
namespace Analysis

open Chess

/-- The quality of a played move. -/
inductive MoveLabel where
  | best
  | good
  | inaccuracy
  | mistake
  | blunder
  | unclassified
  deriving DecidableEq, Repr, Inhabited

namespace MoveLabel

/-- The text of a label. -/
def tag : MoveLabel → String
  | best => "best"
  | good => "good"
  | inaccuracy => "inaccuracy"
  | mistake => "mistake"
  | blunder => "blunder"
  | unclassified => "unclassified"

/-- Every label in order. -/
def all : List MoveLabel := [best, good, inaccuracy, mistake, blunder, unclassified]

end MoveLabel

/-- The label of a swing. -/
def labelForSwing (swing : Int) (c : Config) : MoveLabel :=
  if swing ≤ c.bestSwingCp then .best
  else if swing < c.inaccuracySwingCp then .good
  else if swing < c.missedTacticSwingCp then .inaccuracy
  else if swing < c.blunderSwingCp then .mistake
  else .blunder

/-- The score of a finished position for its side to move: minus the mate value when mated,
zero for any other end of the game, none when the game goes on (judged on the position alone). -/
def terminalCp (p : Position) (ceiling : Int) : Option Int :=
  if p.isCheckmate then some (-ceiling)
  else if p.isOverHere then some 0
  else none

/-- One played move with its scores and label. -/
structure ClassifiedPly where
  /-- The ply of the move, from 0. -/
  ply : Nat
  /-- The move in coordinate notation. -/
  moveUci : String
  /-- The move in algebraic notation. -/
  moveSan : String
  /-- The side that moved. -/
  mover : Color
  /-- The position before, as FEN. -/
  fenBefore : String
  /-- The position after, as FEN. -/
  fenAfter : String
  /-- The mover's score before. -/
  beforeCp : Option Int
  /-- The mover's score after. -/
  afterCp : Option Int
  /-- How much worse the move made things. -/
  swing : Option Int
  /-- The label. -/
  label : MoveLabel
  deriving Repr, Inhabited

/-- Evaluations by ply. -/
abbrev Evaluations := List (Nat × Option Evaluation)

/-- The evaluation of a ply, if any. -/
def Evaluations.at? (es : Evaluations) (ply : Nat) : Option Evaluation :=
  ((es.find? (·.1 == ply)).map (·.2)).join

/-- Classify every move of a game. -/
def classifyGame (g : Pgn.Game) (es : Evaluations) (c : Config) : List ClassifiedPly :=
  let ceiling := c.mateScoreCp
  (List.range g.plyCount).map fun ply =>
    let before := positionCp (es.at? ply) ceiling
    let afterPos := g.positionAt (ply + 1)
    let afterOpp := (terminalCp afterPos ceiling).orElse fun _ => positionCp (es.at? (ply + 1)) ceiling
    let base : ClassifiedPly :=
      { ply := ply, moveUci := (g.moves.getD ply Move.null).uci, moveSan := g.sans.getD ply "",
        mover := g.moverAt ply, fenBefore := g.fens.getD ply "", fenAfter := g.fens.getD (ply + 1) "",
        beforeCp := before, afterCp := afterOpp.map (- ·), swing := none, label := .unclassified }
    match before, afterOpp with
    | some b, some a =>
      let swing := b + a
      { base with swing := some swing, label := labelForSwing swing c }
    | _, _ => base

/-- The constants of the accuracy curve, as exact decimals. -/
def accuracyScale : Float := Number.ofRatio false 1031668 10000
/-- The decay rate of the accuracy curve. -/
def accuracyDecay : Float := Number.ofRatio false 4354 100000
/-- The offset of the accuracy curve. -/
def accuracyOffset : Float := Number.ofRatio false 31669 10000

/-- The accuracy of one side, or none when it has no classified move. -/
def accuracy (cs : List ClassifiedPly) (side : Color) : Option Float :=
  let losses := cs.filterMap fun p =>
    if p.mover == side then p.swing.map fun s => max 0 s else none
  if losses.isEmpty then none else
  let total := losses.foldl (· + ·) 0
  let avg := Number.ofRatio (total < 0) total.natAbs losses.length
  let raw := accuracyScale * Float.exp (-(accuracyDecay) * avg) - accuracyOffset
  let capped := if raw < 100.0 then raw else 100.0
  some (Number.roundFloat (if capped > 0.0 then capped else 0.0) 1)

/-- How many moves carry each label, for one side or for both. -/
def labelCounts (cs : List ClassifiedPly) (side : Option Color) : List (MoveLabel × Nat) :=
  MoveLabel.all.map fun l =>
    (l, (cs.filter fun p => p.label == l && side.all (· == p.mover)).length)

end Analysis
end Tactician
