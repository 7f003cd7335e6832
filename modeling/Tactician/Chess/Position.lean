import Tactician.Chess.Board

/-!
# Positions and playing a move

A position is a board together with the side to move, the castling rights still alive, the square
a pawn has just skipped (kept even when no capture onto it is possible), and the two move counters.
`Position.play` carries out a move: it handles captures, the pawn's double step and capture in
passing, promotion and castling, and keeps the rights and counters up to date.

Castling is stored as four flags, one per corner rook; a flag is only kept while the king stands on
its e-file square and the rook on its corner, so the flags are always the "clean" rights.
-/

namespace Tactician
namespace Chess

/-- Which castling rights are alive, one flag per corner rook. -/
structure Castling where
  /-- White may castle with the h1 rook. -/
  whiteShort : Bool
  /-- White may castle with the a1 rook. -/
  whiteLong : Bool
  /-- Black may castle with the h8 rook. -/
  blackShort : Bool
  /-- Black may castle with the a8 rook. -/
  blackLong : Bool
  deriving DecidableEq, Repr, Inhabited

namespace Castling

/-- No castling rights. -/
def none : Castling := ⟨false, false, false, false⟩

/-- Every castling right. -/
def all : Castling := ⟨true, true, true, true⟩

/-- The corner squares of the four rights: h1, a1, h8, a8. -/
def h1 : Square := ⟨7, by decide⟩
/-- The a1 corner. -/
def a1 : Square := ⟨0, by decide⟩
/-- The h8 corner. -/
def h8 : Square := ⟨63, by decide⟩
/-- The a8 corner. -/
def a8 : Square := ⟨56, by decide⟩

/-- Drop the rights whose rook corner is `s`. -/
def clearCorner (c : Castling) (s : Square) : Castling :=
  { whiteShort := c.whiteShort && s != h1, whiteLong := c.whiteLong && s != a1,
    blackShort := c.blackShort && s != h8, blackLong := c.blackLong && s != a8 }

/-- Drop both rights of one side. -/
def clearSide (c : Castling) : Color → Castling
  | .white => { c with whiteShort := false, whiteLong := false }
  | .black => { c with blackShort := false, blackLong := false }

/-- The right of side `col` on the king's side (`short`) or the queen's side. -/
def has (c : Castling) (col : Color) (short : Bool) : Bool :=
  match col, short with
  | .white, true => c.whiteShort
  | .white, false => c.whiteLong
  | .black, true => c.blackShort
  | .black, false => c.blackLong

/-- Whether side `col` keeps any right. -/
def any (c : Castling) (col : Color) : Bool := c.has col true || c.has col false

end Castling

/-- A move from one square to another, with the piece a pawn becomes on the last rank. -/
structure Move where
  /-- The square the piece leaves. -/
  source : Square
  /-- The square the piece goes to; for castling, the king's destination or its own rook. -/
  target : Square
  /-- The role a promoting pawn takes. -/
  promotion : Option Role := none
  deriving DecidableEq, Repr, Inhabited

/-- A full game state between two moves. -/
structure Position where
  /-- The pieces. -/
  board : Board
  /-- The side to move. -/
  turn : Color
  /-- Castling rights still alive. -/
  castling : Castling
  /-- The square skipped by a pawn's double step on the last move. -/
  epSquare : Option Square
  /-- Plies since the last capture or pawn move. -/
  halfmoves : Nat
  /-- The number of the move in progress, starting at 1 and increased after Black moves. -/
  fullmoves : Nat
  deriving Inhabited

namespace Position

/-- The e-file square of side `c`'s back rank, where its king starts. -/
def kingHome (c : Color) : Square :=
  match c with
  | .white => ⟨4, by decide⟩
  | .black => ⟨60, by decide⟩

/-- A square of a side's back rank by file (files count from `0`, taken modulo eight). -/
def backRankSquare (c : Color) (file : Nat) : Square :=
  ⟨c.backRank * 8 + file % 8, by have := Nat.mod_lt file (Nat.succ_pos 7); cases c <;> simp [Color.backRank] <;> omega⟩

/-- Keep only the castling rights whose king and rook stand on their home squares. -/
def cleanCastling (b : Board) (c : Castling) : Castling :=
  let whiteKing := b.holds (kingHome .white) ⟨.white, .king⟩
  let blackKing := b.holds (kingHome .black) ⟨.black, .king⟩
  { whiteShort := c.whiteShort && whiteKing && b.holds Castling.h1 ⟨.white, .rook⟩
    whiteLong := c.whiteLong && whiteKing && b.holds Castling.a1 ⟨.white, .rook⟩
    blackShort := c.blackShort && blackKing && b.holds Castling.h8 ⟨.black, .rook⟩
    blackLong := c.blackLong && blackKing && b.holds Castling.a8 ⟨.black, .rook⟩ }

/-- A king's two-square castling step from its home square is read as the king taking its own
corner rook, unless a rook already stands on the destination. -/
def castlingAsRookTarget (p : Position) (m : Move) : Move :=
  let b := p.board
  let isKingAt (s : Square) := match b.at? s with
    | some pc => pc.role == .king
    | none => false
  let isRookAt (s : Square) := match b.at? s with
    | some pc => pc.role == .rook
    | none => false
  if m.source == kingHome .white && isKingAt m.source then
    if m.target.val == 6 && !isRookAt m.target then { m with target := Castling.h1 }
    else if m.target.val == 2 && !isRookAt m.target then { m with target := Castling.a1 }
    else m
  else if m.source == kingHome .black && isKingAt m.source then
    if m.target.val == 62 && !isRookAt m.target then { m with target := Castling.h8 }
    else if m.target.val == 58 && !isRookAt m.target then { m with target := Castling.a8 }
    else m
  else m

/-- Whether a move resets the fifty-move count: a pawn leaves or is taken, or anything is taken. -/
def isZeroing (p : Position) (m : Move) : Bool :=
  let isPawn (s : Square) := match p.board.at? s with
    | some pc => pc.role == .pawn
    | none => false
  isPawn m.source || isPawn m.target || p.board.ownedBy p.turn.other m.target

/-- Pass the turn without moving: the clocks advance and the passing square is forgotten. -/
def pass (p : Position) : Position :=
  { p with turn := p.turn.other, epSquare := none, halfmoves := p.halfmoves + 1,
           fullmoves := if p.turn == .black then p.fullmoves + 1 else p.fullmoves }

/-- Carry out a move.  The move is assumed to be possible; a move between equal squares (the null
move) or from an empty square only passes the turn. -/
def play (p : Position) (m₀ : Move) : Position :=
  let m := p.castlingAsRookTarget m₀
  let us := p.turn
  let base : Position :=
    { p.pass with halfmoves := if p.isZeroing m then 0 else p.halfmoves + 1 }
  if m₀.source == m₀.target then p.pass else
  match p.board.at? m.source with
  | none => base
  | some piece =>
    let b₁ := p.board.put m.source none
    let captured := p.board.at? m.target
    -- rights: corners touched, a king that moves, a king taken on its back rank
    let rights₁ := (p.castling.clearCorner m.source).clearCorner m.target
    let rights :=
      if piece.role == .king then rights₁.clearSide us
      else match captured with
        | some cp =>
          if cp.role == .king && m.target.rank == us.other.backRank then rights₁.clearSide us.other
          else rights₁
        | none => rights₁
    let diff : Int := (m.target.val : Int) - m.source.val
    -- pawn specials: the skipped square of a double step, the pawn taken in passing
    let (b₂, ep) :=
      if piece.role == .pawn then
        if diff == 16 && m.source.rank == 1 then (b₁, Square.shift? m.source 0 1)
        else if diff == -16 && m.source.rank == 6 then (b₁, Square.shift? m.source 0 (-1))
        else if p.epSquare == some m.target && (diff == 7 || diff == 9 || diff == -7 || diff == -9)
            && captured.isNone then
          match m.target.shift? 0 (-(Board.pawnForward us)) with
          | some victim => (b₁.put victim none, none)
          | none => (b₁, none)
        else (b₁, none)
      else (b₁, none)
    let role := m.promotion.getD piece.role
    let castles := role == .king && b₂.ownedBy us m.target
    let b₃ :=
      if castles then
        let short := m.source.file < m.target.file
        let cleared := b₂.put m.target none
        let kingTo := backRankSquare us (if short then 6 else 2)
        let rookTo := backRankSquare us (if short then 5 else 3)
        (cleared.put kingTo (some ⟨us, .king⟩)).put rookTo (some ⟨us, .rook⟩)
      else b₂.put m.target (some ⟨us, role⟩)
    { base with board := b₃, castling := rights, epSquare := ep }

end Position

end Chess
end Tactician
