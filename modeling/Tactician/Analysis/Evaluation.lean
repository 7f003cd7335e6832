import Tactician.Chess.Fen

/-!
# Engine evaluations

An evaluation ranks candidate lines for one position.  Each line has a first move, a score
relative to the side to move (centipawns, or moves to mate: positive when the side to move mates,
zero or negative when it is mated), and its principal variation in coordinate notation.  Scores
collapse to centipawns by clamping into `±ceiling`, a mate counting as the ceiling itself.
-/

namespace Tactician
namespace Analysis

/-- An engine score relative to the side to move. -/
structure Score where
  /-- Centipawns, if known. -/
  cp : Option Int := none
  /-- Moves to mate, if the engine found one. -/
  mate : Option Int := none
  deriving DecidableEq, Repr, Inhabited

namespace Score

/-- The score in centipawns within `±ceiling`; a mate scores the ceiling (winning when the mate
count is positive); `none` when there is neither. -/
def toCp (s : Score) (ceiling : Int) : Option Int :=
  match s.mate with
  | some m => some (if m > 0 then ceiling else -ceiling)
  | none => s.cp.map fun c => max (-ceiling) (min ceiling c)

end Score

/-- One ranked candidate line. -/
structure EngineLine where
  /-- Its first move, in coordinate notation. -/
  move : String
  /-- Its score. -/
  score : Score
  /-- The principal variation. -/
  pv : List String
  deriving DecidableEq, Repr, Inhabited

/-- The ranked lines of one position. -/
structure Evaluation where
  /-- The position, as FEN. -/
  fen : String
  /-- The lines, best first. -/
  lines : List EngineLine
  /-- The search depth reached. -/
  depth : Int := 0
  deriving DecidableEq, Repr, Inhabited

namespace Evaluation

/-- The best line. -/
def best? (e : Evaluation) : Option EngineLine := e.lines.head?

/-- The second-best line. -/
def second? (e : Evaluation) : Option EngineLine := e.lines[1]?

end Evaluation

/-- The score of a position for its side to move, from its best line; `none` without one. -/
def positionCp (e : Option Evaluation) (ceiling : Int) : Option Int :=
  e.bind fun ev => ev.best?.bind fun l => l.score.toCp ceiling

end Analysis
end Tactician
