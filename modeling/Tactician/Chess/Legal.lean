import Tactician.Chess.Position

/-!
# Legal moves

Moves are generated in two steps.  The candidate moves follow the movement rules of each piece
(pawn steps, double steps from the first two ranks, captures, capture in passing, promotion to
queen, rook, bishop or knight, and leaps and slides of the other pieces onto squares not held by
the mover).  A candidate is legal when, after playing it, the mover's king is not attacked.
Castling is generated apart: the king and rook must be on their home squares with the right alive,
the squares between them empty, and neither the king's square nor the squares it crosses or lands
on attacked.

A king moving onto its own rook's corner is also accepted as castling, the way engines that play
on shuffled back ranks write it (`e1h1` for `e1g1`).
-/

namespace Tactician
namespace Chess

namespace Position

/-- Promotion roles in the order they are offered. -/
def promotionRoles : List Role := [.queen, .rook, .bishop, .knight]

/-- A pawn move to `t`, expanded into the four promotions on the first or last rank. -/
def pawnMovesTo (s t : Square) : List Move :=
  if t.rank == 0 || t.rank == 7 then promotionRoles.map fun r => ⟨s, t, some r⟩
  else [⟨s, t, none⟩]

/-- The square skipped by a pawn of side `c` that may be taken in passing from `s`. -/
def passingTarget? (p : Position) (s : Square) : Option Square :=
  match p.epSquare with
  | none => none
  | some e =>
    let fromRank := if p.turn == .white then 4 else 3
    if e.val != 0 && !p.board.occupied e && s.rank == fromRank &&
        (Board.pawnAttacks p.turn s).contains e then some e
    else none

/-- Candidate moves of the mover's pawn on `s`. -/
def pawnCandidates (p : Position) (s : Square) : List Move :=
  let b := p.board
  let dir := Board.pawnForward p.turn
  let captures := (Board.pawnAttacks p.turn s).filter (b.ownedBy p.turn.other)
  let captureMoves := captures.flatMap (pawnMovesTo s)
  let single := match s.shift? 0 dir with
    | some t => if b.occupied t then [] else [t]
    | none => []
  let singleMoves := single.flatMap (pawnMovesTo s)
  let doubleRanks := if p.turn == .white then [0, 1] else [7, 6]
  let double := match single with
    | [t] =>
      if doubleRanks.contains s.rank then
        match t.shift? 0 dir with
        | some u => if b.occupied u then [] else [(⟨s, u, none⟩ : Move)]
        | none => []
      else []
    | _ => []
  let passing := match p.passingTarget? s with
    | some e => [(⟨s, e, none⟩ : Move)]
    | none => []
  captureMoves ++ singleMoves ++ double ++ passing

/-- Candidate moves of every piece of the mover, castling aside. -/
def candidates (p : Position) : List Move :=
  p.board.pieces.flatMap fun (s, pc) =>
    if pc.color != p.turn then []
    else if pc.role == .pawn then p.pawnCandidates s
    else ((p.board.attacks s).filter fun t => !p.board.ownedBy p.turn t).map fun t => ⟨s, t, none⟩

/-- Whether the mover's king is left unattacked after the move; a side without a king is never
in danger. -/
def keepsKingSafe (p : Position) (m : Move) : Bool :=
  let after := (p.play m).board
  match after.king? p.turn with
  | none => true
  | some k => !after.attackedBy p.turn.other k

/-- Squares strictly between two squares of one rank. -/
def betweenOnRank (s t : Square) : List Square :=
  Square.all.filter fun u =>
    u.rank == s.rank && min s.file t.file < u.file && u.file < max s.file t.file

/-- A king taking its own corner rook from its home square is written as the two-square step;
any other move is left as it is. -/
def kingStepOfCastling (p : Position) (m : Move) : Move :=
  let kingThere := match p.board.at? m.source with
    | some pc => pc.role == .king
    | none => false
  if kingThere && m.promotion.isNone && m.source == kingHome .white then
    if m.target == Castling.h1 then { m with target := backRankSquare .white 6 }
    else if m.target == Castling.a1 then { m with target := backRankSquare .white 2 }
    else m
  else if kingThere && m.promotion.isNone && m.source == kingHome .black then
    if m.target == Castling.h8 then { m with target := backRankSquare .black 6 }
    else if m.target == Castling.a8 then { m with target := backRankSquare .black 2 }
    else m
  else m

/-- The castling moves, written as the king's two-square step. -/
def castlingMoves (p : Position) : List Move :=
  let us := p.turn
  let b := p.board
  let kings := (b.squaresOf ⟨us, .king⟩).filter (·.rank == us.backRank)
  match kings.head? with
  | none => []
  | some k =>
    let corners : List (Bool × Square) :=
      match us with
      | .white => [(true, Castling.h1), (false, Castling.a1)]
      | .black => [(true, Castling.h8), (false, Castling.a8)]
    corners.filterMap fun (short, rook) =>
      if !p.castling.has us short then none else
      let kingTo := backRankSquare us (if short then 6 else 2)
      let rookTo := backRankSquare us (if short then 5 else 3)
      let path := betweenOnRank k kingTo
      let rookPath := betweenOnRank rook rookTo
      let mustBeEmpty := path ++ rookPath ++ [kingTo, rookTo]
      let blocked := mustBeEmpty.any fun u => u != k && u != rook && b.occupied u
      let withoutKing := b.put k none
      let crossed := (k :: path).any (withoutKing.attackedBy us.other)
      let landed := ((withoutKing.put rook none).put rookTo (some ⟨us, .rook⟩)).attackedBy us.other kingTo
      if blocked || crossed || landed then none
      else some (p.kingStepOfCastling ⟨k, rook, none⟩)

/-- The legal moves other than castling. -/
def ordinaryMoves (p : Position) : List Move := p.candidates.filter p.keepsKingSafe

/-- All legal moves: safe candidates, then castling. -/
def legalMoves (p : Position) : List Move := p.ordinaryMoves ++ p.castlingMoves

/-- Whether a move is legal, accepting the king-takes-own-rook spelling of castling. -/
def isLegal (p : Position) (m : Move) : Bool :=
  p.legalMoves.contains m ||
    (m.promotion.isNone && p.castlingMoves.contains (p.kingStepOfCastling m))

/-- The squares of the pieces giving check to the side to move. -/
def checkers (p : Position) : List Square := p.board.checkers p.turn

/-- Whether the side to move is in check. -/
def isCheck (p : Position) : Bool := !p.checkers.isEmpty

/-- Whether the side to move is checkmated. -/
def isCheckmate (p : Position) : Bool := p.isCheck && p.legalMoves.isEmpty

/-- Whether the side to move has no legal move and is not in check. -/
def isStalemate (p : Position) : Bool := !p.isCheck && p.legalMoves.isEmpty

/-- A pawn's diagonal step onto the empty skipped square. -/
def isPassingCapture (p : Position) (m : Move) : Bool :=
    let diff : Int := (m.target.val : Int) - m.source.val
    p.epSquare == some m.target &&
      (match p.board.at? m.source with
        | some pc => pc.role == .pawn
        | none => false) &&
      (diff == 7 || diff == 9 || diff == -7 || diff == -9) &&
      !p.board.occupied m.target

/-- Whether a move captures: it lands on an opposing piece or takes in passing. -/
def isCapture (p : Position) (m : Move) : Bool :=
  p.board.ownedBy p.turn.other m.target || p.isPassingCapture m

/-- Whether the move checks the opposing king. -/
def givesCheck (p : Position) (m : Move) : Bool := (p.play m).isCheck

/-- Whether some legal move takes in passing. -/
def hasLegalPassing (p : Position) : Bool :=
  match p.epSquare with
  | none => false
  | some e =>
    p.board.pieces.any fun (s, pc) =>
      pc == ⟨p.turn, .pawn⟩ && p.passingTarget? s == some e && p.keepsKingSafe ⟨s, e, none⟩

/-- The skipped square, shown only when a legal capture in passing exists. -/
def legalEpSquare (p : Position) : Option Square :=
  if p.hasLegalPassing then p.epSquare else none

end Position

end Chess
end Tactician
