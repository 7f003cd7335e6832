import Tactician.Chess.San

/-!
# The end of a game

A game is over when the side to move is checkmated or stalemated, when neither side has mating
material, when 75 moves (150 plies) have passed without a capture or pawn move, or when the same
position has occurred five times.  Positions count as the same when board, side to move, castling
rights and legal passing square agree; the search for earlier occurrences stops at the first
move that cannot be undone (a capture or pawn move, a move that loses a castling right, or a move
made while a capture in passing was possible).
-/

namespace Tactician
namespace Chess

namespace Position

/-- Whether side `c` lacks mating material: no pawn, rook or queen, and either a lone knight with
the opponent having only king and queens, or bishops all on one colour with no pawn or knight on
the board, or nothing at all. -/
def insufficientFor (p : Position) (c : Color) : Bool :=
  let ps := p.board.pieces
  let own := ps.filter (·.2.color == c)
  let has (r : Role) := own.any (·.2.role == r)
  if has .pawn || has .rook || has .queen then false
  else if has .knight then
    own.length ≤ 2 &&
      (ps.filter fun (_, pc) => pc.color != c && pc.role != .king && pc.role != .queen).isEmpty
  else if has .bishop then
    let bishops := ps.filter (·.2.role == .bishop)
    let sameColour := bishops.all (·.1.isDark) || bishops.all (!·.1.isDark)
    sameColour && !(ps.any fun (_, pc) => pc.role == .pawn || pc.role == .knight)
  else true

/-- Whether neither side can mate. -/
def isInsufficientMaterial (p : Position) : Bool :=
  p.insufficientFor .white && p.insufficientFor .black

/-- Whether 150 plies have passed without capture or pawn move, while a move is still possible. -/
def isSeventyFive (p : Position) : Bool := p.halfmoves ≥ 150 && !p.legalMoves.isEmpty

/-- Whether the game is over in this position, judged without its history. -/
def isOverHere (p : Position) : Bool :=
  p.isCheckmate || p.isInsufficientMaterial || p.legalMoves.isEmpty || p.isSeventyFive

/-- What makes two positions the same for repetition. -/
structure Key where
  /-- The pieces. -/
  board : Board
  /-- The side to move. -/
  turn : Color
  /-- The castling rights. -/
  castling : Castling
  /-- The passing square, if a legal capture onto it exists. -/
  ep : Option Square
  deriving DecidableEq

/-- The repetition key of a position. -/
def key (p : Position) : Key := ⟨p.board, p.turn, p.castling, p.legalEpSquare⟩

/-- Whether a move loses a castling right. -/
def reducesCastling (p : Position) (m : Move) : Bool :=
  let touched := [m.source, m.target]
  let c := p.castling
  let corner (s : Square) :=
    (c.whiteShort && s == Castling.h1) || (c.whiteLong && s == Castling.a1) ||
      (c.blackShort && s == Castling.h8) || (c.blackLong && s == Castling.a8)
  touched.any corner ||
    (c.any .white && touched.any fun s => p.board.holds s ⟨.white, .king⟩) ||
    (c.any .black && touched.any fun s => p.board.holds s ⟨.black, .king⟩)

/-- Whether a move cannot be undone for repetition purposes. -/
def isIrreversible (p : Position) (m : Move) : Bool :=
  p.isZeroing m || p.reducesCastling m || p.hasLegalPassing

end Position

/-- Whether `current` has occurred `count` times, counting itself, among the positions reached
since the last irreversible move.  `earlier` lists the earlier positions with the move played
from each, most recent first. -/
def repeated (current : Position.Key) : Nat → List (Position × Move) → Bool
  | count, earlier =>
    if count ≤ 1 then true
    else if earlier.length < count - 1 then false
    else match earlier with
      | [] => false
      | (p, m) :: older =>
        if p.isIrreversible m then false
        else repeated current (if p.key == current then count - 1 else count) older

/-- A game in progress: the starting position and the moves played from it, oldest first. -/
structure Line where
  /-- Where the game started. -/
  start : Position
  /-- The moves played. -/
  moves : List Move
  deriving Inhabited

namespace Line

/-- The positions before each move, each with its move, oldest first. -/
def steps (l : Line) : List (Position × Move) :=
  go l.start l.moves
where
  /-- Pair each position with the move played from it. -/
  go (p : Position) : List Move → List (Position × Move)
    | [] => []
    | m :: rest => (p, m) :: go (p.play m) rest

/-- The position after all the moves. -/
def current (l : Line) : Position := l.moves.foldl Position.play l.start

/-- Whether the current position has occurred five times. -/
def isFivefold (l : Line) : Bool := repeated l.current.key 5 l.steps.reverse

/-- Whether the game is over, its history included. -/
def isOver (l : Line) : Bool := l.current.isOverHere || l.isFivefold

end Line

end Chess
end Tactician
