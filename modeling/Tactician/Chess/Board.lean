import Tactician.Chess.Basic

/-!
# Boards and attacks

A board assigns at most one piece to each square.  This file holds the board itself, the squares
a piece attacks (leapers by fixed steps, sliders along lines up to and including the first occupied
square), and the converse question of which pieces of a side attack a given square.
-/

namespace Tactician
namespace Chess

/-- The contents of the 64 squares. -/
abbrev Board := Vector (Option Piece) 64

namespace Board

/-- The board with no pieces. -/
def empty : Board := Vector.replicate 64 none

/-- The piece standing on a square. -/
def at? (b : Board) (s : Square) : Option Piece := b[s.val]

/-- Put a piece on a square, or clear it with `none`. -/
def put (b : Board) (s : Square) (p : Option Piece) : Board := b.set s.val p s.isLt

@[simp]
theorem at?_put_self (b : Board) (s : Square) (p : Option Piece) : (b.put s p).at? s = p := by
  simp [at?, put]

theorem at?_put_ne (b : Board) {s t : Square} (p : Option Piece) (h : s ≠ t) :
    (b.put s p).at? t = b.at? t := by
  simp only [at?, put, Vector.getElem_set]
  have : s.val ≠ t.val := fun heq => h (Fin.ext heq)
  simp [this]

/-- Whether a square holds a piece. -/
def occupied (b : Board) (s : Square) : Bool := (b.at? s).isSome

/-- Whether a square holds a piece of the given side. -/
def ownedBy (b : Board) (c : Color) (s : Square) : Bool :=
  match b.at? s with
  | some p => p.color == c
  | none => false

/-- Whether a square holds the given piece. -/
def holds (b : Board) (s : Square) (p : Piece) : Bool := b.at? s == some p

/-- The squares holding pieces, with their pieces, in index order. -/
def pieces (b : Board) : List (Square × Piece) :=
  Square.all.filterMap fun s => (b.at? s).map (s, ·)

/-- The squares holding a given piece, in index order. -/
def squaresOf (b : Board) (p : Piece) : List Square :=
  Square.all.filter fun s => b.holds s p

/-- Steps of a knight. -/
def knightSteps : List (Int × Int) :=
  [(1, 2), (2, 1), (2, -1), (1, -2), (-1, -2), (-2, -1), (-2, 1), (-1, 2)]

/-- Steps of a king. -/
def kingSteps : List (Int × Int) :=
  [(1, 0), (1, 1), (0, 1), (-1, 1), (-1, 0), (-1, -1), (0, -1), (1, -1)]

/-- Line directions of a rook, as (file, rank) steps. -/
def rookLines : List (Int × Int) := [(0, 1), (0, -1), (1, 0), (-1, 0)]

/-- Line directions of a bishop, as (file, rank) steps. -/
def bishopLines : List (Int × Int) := [(1, 1), (1, -1), (-1, 1), (-1, -1)]

/-- The forward direction of a side's pawns along the ranks. -/
def pawnForward : Color → Int
  | .white => 1
  | .black => -1

/-- The squares a pawn of the given side standing on `s` attacks. -/
def pawnAttacks (c : Color) (s : Square) : List Square :=
  [(-1 : Int), 1].filterMap fun df => s.shift? df (pawnForward c)

/-- The squares one step away from `s` by the given steps. -/
def leaps (s : Square) (steps : List (Int × Int)) : List Square :=
  steps.filterMap fun d => s.shift? d.1 d.2

/-- The squares along one direction from `s`, up to and including the first occupied one. -/
def ray (b : Board) (s : Square) (d : Int × Int) : List Square :=
  go s 7
where
  /-- Walk at most `fuel` steps; a line on the board has at most seven. -/
  go (from_ : Square) : Nat → List Square
    | 0 => []
    | fuel + 1 =>
      match from_.shift? d.1 d.2 with
      | none => []
      | some t => if b.occupied t then [t] else t :: go t fuel

/-- The directions in which a role slides. -/
def Role.lines : Role → List (Int × Int)
  | .bishop => bishopLines
  | .rook => rookLines
  | .queen => rookLines ++ bishopLines
  | _ => []

/-- The squares attacked by the piece standing on `s`; none for an empty square. -/
def attacks (b : Board) (s : Square) : List Square :=
  match b.at? s with
  | none => []
  | some p =>
    match p.role with
    | .pawn => pawnAttacks p.color s
    | .knight => leaps s knightSteps
    | .king => leaps s kingSteps
    | r => (Role.lines r).flatMap (b.ray s)

/-- The first occupied square along one direction from `s`. -/
def firstAlong (b : Board) (s : Square) (d : Int × Int) : Option Square :=
  (b.ray s d).getLast?.filter b.occupied

/-- The squares of the pieces of side `c` attacking `s`, in index order of their kind's search. -/
def attackers (b : Board) (c : Color) (s : Square) : List Square :=
  let has (t : Square) (r : Role) : Bool := b.holds t ⟨c, r⟩
  let leapers :=
    (leaps s knightSteps).filter (has · .knight) ++
    (leaps s kingSteps).filter (has · .king) ++
    (pawnAttacks c.other s).filter (has · .pawn)
  let sliders :=
    (rookLines.filterMap (b.firstAlong s)).filter (fun t => has t .rook || has t .queen) ++
    (bishopLines.filterMap (b.firstAlong s)).filter (fun t => has t .bishop || has t .queen)
  leapers ++ sliders

/-- Whether some piece of side `c` attacks `s`. -/
def attackedBy (b : Board) (c : Color) (s : Square) : Bool := !(b.attackers c s).isEmpty

/-- The king of side `c`: the one on the highest square if there are several. -/
def king? (b : Board) (c : Color) : Option Square := (b.squaresOf ⟨c, .king⟩).getLast?

/-- The squares of the other side's pieces attacking the king of side `c`. -/
def checkers (b : Board) (c : Color) : List Square :=
  match b.king? c with
  | none => []
  | some k => b.attackers c.other k

end Board

end Chess
end Tactician
