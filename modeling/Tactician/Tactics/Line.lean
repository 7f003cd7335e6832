import Tactician.Tactics.Motif
import Tactician.Analysis.Evaluation

/-!
# Lines of play

A principal variation arrives as coordinate text.  Its legal prefix is read move by move until
a text that is not a move or not legal.  On that prefix this file decides whether the line is
forcing early (a capture, check or promotion within a lookahead), whether the side to move nets
three pawns of material within four plies, and which signals the best line of an evaluation
carries: the motifs of its first move, a short forced mate, and material won.
-/

namespace Tactician
namespace Tactics

open Chess Analysis

/-- The material of one side in pawns. -/
def material (p : Position) (c : Color) : Nat :=
  (p.board.pieces.filter (·.2.color == c)).foldl (fun n sp => n + sp.2.role.value) 0

/-- The material of both sides. -/
def totalMaterial (p : Position) : Nat := material p .white + material p .black

/-- The pieces on the board other than the two kings' kind. -/
def nonKingPieces (p : Position) : Nat :=
  (p.board.pieces.filter (·.2.role != .king)).length

/-- The legal prefix of a line of coordinate texts, with the moves as read. -/
def legalLine (p : Position) : List String → List Move
  | [] => []
  | t :: rest =>
    match MoveText.ofUci t with
    | .ok (.move m) => if p.allows (.move m) then m :: legalLine (p.play m) rest else []
    | _ => []

/-- Whether a move is forcing: a capture, a check or a promotion. -/
def isForcing (p : Position) (m : Move) : Bool :=
  p.isCapture m || p.givesCheck m || m.promotion.isSome

/-- Play moves in order. -/
def playAll (p : Position) (ms : List Move) : Position := ms.foldl Position.play p

/-- Whether one of the first `max 1 lookahead` legal moves of the line is forcing. -/
def containsTactic (p : Position) (pv : List String) (lookahead : Nat) : Bool :=
  go p ((legalLine p pv).take (max 1 lookahead))
where
  /-- Walk the moves, playing each. -/
  go (q : Position) : List Move → Bool
    | [] => false
    | m :: rest => isForcing q m || go (q.play m) rest

/-- The material balance of side `c`. -/
def balance (p : Position) (c : Color) : Int := (material p c : Int) - material p c.other

/-- Whether the side to move gains at least three pawns of balance within the first four legal
plies of the line. -/
def winsMaterial (p : Position) (pv : List String) : Bool :=
  let solver := p.turn
  let after := playAll p ((legalLine p pv).take 4)
  balance after solver - balance p solver ≥ 3

/-- Whether the best line announces a mate in one to five. -/
def hasMateThreat (e : Evaluation) : Bool :=
  match e.best? with
  | some l => match l.score.mate with
    | some m => 0 < m && m ≤ 5
    | none => false
  | none => false

/-- The signals of a position's best line: motifs of its first legal move, then a mate threat
unless the first move already mates, then material won. -/
def lineMotifs (p : Position) (e : Evaluation) : List Motif :=
  match e.best? with
  | none => []
  | some best =>
    let line := legalLine p best.pv
    let first := match line with
      | m :: _ => moveMotifs p m
      | [] => []
    let threat :=
      if hasMateThreat e && !first.contains .checkmate && !first.contains .backRankMate
      then [Motif.mateThreat] else []
    let gain := if winsMaterial p best.pv then [Motif.hangingPiece] else []
    first ++ threat ++ gain

end Tactics
end Tactician
