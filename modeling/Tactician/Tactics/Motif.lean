import Tactician.Chess.Outcome

/-!
# Motifs of a move

The tactical themes of one legal move, found on the position after it, in this order:

* `checkmate`, or `backRankMate` when the mated king stands on its back rank, a checking piece
  stands on that rank too, and one of the king's own pawns on the rank in front blocks a square
  next to it;
* `doubleCheck`: two pieces give check;
* `discoveredAttack`: another line piece of the mover attacks a king or a piece worth three or
  more that it did not attack from that square before the move;
* `fork`: the moved piece attacks two such targets;
* `pin`: the moved line piece stands on the line of a pin against an enemy piece other than king
  and queen;
* `skewer`: along a line from the moved line piece, the first two enemy pieces before any of the
  mover's own are a king or a more valuable piece in front of a cheaper one;
* `promotion`.
-/

namespace Tactician
namespace Tactics

open Chess

/-- The signals a puzzle can carry. -/
inductive Motif where
  | checkmate
  | backRankMate
  | doubleCheck
  | discoveredAttack
  | fork
  | pin
  | skewer
  | promotion
  | mateThreat
  | hangingPiece
  | multiSolution
  deriving DecidableEq, Repr, Inhabited

namespace Motif

/-- The tag text of a motif. -/
def tag : Motif → String
  | checkmate => "checkmate"
  | backRankMate => "backRankMate"
  | doubleCheck => "doubleCheck"
  | discoveredAttack => "discoveredAttack"
  | fork => "fork"
  | pin => "pin"
  | skewer => "skewer"
  | promotion => "promotion"
  | mateThreat => "mateThreat"
  | hangingPiece => "hangingPiece"
  | multiSolution => "multiSolution"

/-- Every motif, in declaration order. -/
def all : List Motif :=
  [checkmate, backRankMate, doubleCheck, discoveredAttack, fork, pin, skewer, promotion,
   mateThreat, hangingPiece, multiSolution]

/-- The motif with a tag text. -/
def ofTag? (s : String) : Option Motif := all.find? (·.tag == s)

theorem ofTag?_tag (m : Motif) : ofTag? m.tag = some m := by
  cases m <;> rfl

end Motif

/-- Whether a piece is a worthwhile target: a king, or worth three pawns or more. -/
def isTarget (pc : Piece) : Bool := pc.role == .king || pc.role.value ≥ 3

/-- The directions a line piece slides in, rook lines first. -/
def lineDirections : Role → List (Int × Int)
  | .rook => Board.rookLines
  | .bishop => Board.bishopLines
  | .queen => Board.rookLines ++ Board.bishopLines
  | _ => []

/-- Squares strictly between two squares on a common rank, file or diagonal; none otherwise. -/
def between (a b : Square) : List Square :=
  let df : Int := (b.file : Int) - a.file
  let dr : Int := (b.rank : Int) - a.rank
  let aligned := df == 0 || dr == 0 || df.natAbs == dr.natAbs
  if !aligned || (df == 0 && dr == 0) then [] else
  let steps := max df.natAbs dr.natAbs
  let sf := df.sign
  let sr := dr.sign
  (List.range (steps - 1)).filterMap fun (i : Nat) => a.shift? (sf * ((i : Int) + 1)) (sr * ((i : Int) + 1))

/-- The whole line through two aligned squares, from edge to edge; empty when not aligned. -/
def fullLine (a b : Square) : List Square :=
  let df : Int := (b.file : Int) - a.file
  let dr : Int := (b.rank : Int) - a.rank
  let aligned := df == 0 || dr == 0 || df.natAbs == dr.natAbs
  if !aligned || (df == 0 && dr == 0) then [] else
  let sf := df.sign
  let sr := dr.sign
  Square.all.filter fun s =>
    let ef : Int := (s.file : Int) - a.file
    let er : Int := (s.rank : Int) - a.rank
    ef * sr == er * sf

/-- Whether two squares share a file, a rank, or a diagonal (as three kinds of line). -/
def sameFile (a b : Square) : Bool := a != b && a.file == b.file
/-- Same rank, different squares. -/
def sameRank (a b : Square) : Bool := a != b && a.rank == b.rank
/-- Same diagonal or anti-diagonal, different squares. -/
def sameDiagonal (a b : Square) : Bool :=
  a != b && ((a.file : Int) - b.file).natAbs == ((a.rank : Int) - b.rank).natAbs

/-- The line of the pin holding the piece of side `c` on `s` against its king: looking along the
first kind of line (file, rank, diagonals) through the king that contains `s`, an enemy line
piece of that kind with only `s` between it and the king.  `none` when there is no such pin. -/
def pinLine? (b : Board) (c : Color) (s : Square) : Option (List Square) :=
  match b.king? c with
  | none => none
  | some k =>
    let kinds : List ((Square → Square → Bool) × List Role) :=
      [(sameFile, [.rook, .queen]), (sameRank, [.rook, .queen]), (sameDiagonal, [.bishop, .queen])]
    match kinds.find? (fun kd => kd.1 k s) with
    | none => none
    | some (onLine, roles) =>
      let snipers := (Square.all.reverse.filter fun t =>
        onLine k t && (match b.at? t with
          | some pc => pc.color == c.other && roles.contains pc.role
          | none => false))
      let pins (t : Square) : Bool :=
        let gap := between t k
        gap.contains s && gap.all fun u => u == s || !b.occupied u
      (snipers.find? pins).map fun t => fullLine k t

/-- The pieces of side `target` met along a direction from `s`, stopping at any other piece. -/
def scanRay (b : Board) (s : Square) (d : Int × Int) (target : Color) : List Role :=
  go s 7
where
  /-- Walk at most `fuel` steps. -/
  go (from_ : Square) : Nat → List Role
    | 0 => []
    | fuel + 1 =>
      match from_.shift? d.1 d.2 with
      | none => []
      | some t =>
        match b.at? t with
        | none => go t fuel
        | some pc => if pc.color != target then [] else pc.role :: go t fuel

/-- The moved piece attacks two worthwhile targets. -/
def isFork (after : Position) (m : Move) : Bool :=
  match after.board.at? m.target with
  | none => false
  | some pc =>
    let victims := (after.board.attacks m.target).filter fun t =>
      match after.board.at? t with
      | some v => v.color != pc.color && isTarget v
      | none => false
    victims.length ≥ 2

/-- The moved line piece lies on the line of a pin against an enemy piece other than king and
queen. -/
def isPin (after : Position) (m : Move) : Bool :=
  match after.board.at? m.target with
  | none => false
  | some pc =>
    pc.role.isSlider &&
      after.board.pieces.any fun (s, v) =>
        v.color == pc.color.other && v.role != .king && v.role != .queen &&
          (match pinLine? after.board v.color s with
            | some line => line.contains m.target
            | none => false)

/-- Along some line from the moved line piece, a king or a more valuable piece stands in front of
another enemy piece. -/
def isSkewer (after : Position) (m : Move) : Bool :=
  match after.board.at? m.target with
  | none => false
  | some pc =>
    pc.role.isSlider &&
      (lineDirections pc.role).any fun d =>
        match scanRay after.board m.target (d.1, d.2) pc.color.other with
        | front :: back :: _ => front == .king || front.value > back.value
        | _ => false

/-- The mate is on the back rank, hemmed in by the mated side's own pawn. -/
def isBackRankMate (after : Position) : Bool :=
  let mated := after.turn
  match after.board.king? mated with
  | none => false
  | some k =>
    let back := mated.backRank
    let escape := if mated == .white then 1 else 6
    k.rank == back && after.checkers.any (·.rank == back) &&
      ((List.range 3).any fun (i : Nat) =>
        let f : Int := (k.file : Int) - 1 + (i : Int)
        match Square.ofCoords? f escape with
        | some s => after.board.holds s ⟨mated, .pawn⟩
        | none => false)

/-- Another line piece of the mover newly attacks a worthwhile target. -/
def isDiscoveredAttack (before after : Position) (m : Move) : Bool :=
  match before.board.at? m.source with
  | none => false
  | some mover =>
    after.board.pieces.any fun (s, pc) =>
      pc.color == mover.color && s != m.target && pc.role.isSlider &&
        let old := before.board.attacks s
        ((after.board.attacks s).filter fun t => !old.contains t).any fun t =>
          match after.board.at? t with
          | some v => v.color != mover.color && isTarget v
          | none => false

/-- The motifs of a legal move, in detection order. -/
def moveMotifs (p : Position) (m : Move) : List Motif :=
  let after := p.play m
  (if after.isCheckmate then [if isBackRankMate after then .backRankMate else .checkmate] else []) ++
  (if after.isCheck && after.checkers.length ≥ 2 then [.doubleCheck] else []) ++
  (if isDiscoveredAttack p after m then [.discoveredAttack] else []) ++
  (if isFork after m then [.fork] else []) ++
  (if isPin after m then [.pin] else []) ++
  (if isSkewer after m then [.skewer] else []) ++
  (if m.promotion.isSome then [.promotion] else [])

end Tactics
end Tactician
