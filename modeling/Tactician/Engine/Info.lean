import Tactician.Analysis.Evaluation
import Tactician.Chess.Uci
import Tactician.Text.Numeral

/-!
# Search reports

An engine reports the progress of a search in `info` lines: the depth reached, the rank of the
line (`multipv`), its score (`cp` or `mate`, from the side to move), the time spent and the
principal variation.  The variation is read move by move from the searched position and ends
before the first move that cannot be read or is not legal there.  The king-takes-rook spelling of castling is read as
the king's two-square step.

A report gives a ranked line only when it has both a score and a non-empty variation; the line's
move is the variation's first move.
-/

namespace Tactician
namespace Engine

open Chess Analysis

/-- One progress report of a search. -/
structure SearchInfo where
  /-- The depth reached. -/
  depth : Option Int := none
  /-- The rank of the reported line. -/
  rank : Option Int := none
  /-- The score of the line, from the side to move. -/
  score : Option Score := none
  /-- The principal variation in coordinate notation, if given: its legal prefix. -/
  pv : Option (List String) := none
  deriving Repr, Inhabited

/-- Read a variation from a position, move by move, up to the first move that cannot be read
or is not legal there. -/
def readVariation (p : Position) : List String → List String
  | [] => []
  | t :: rest =>
    match MoveText.ofUci t with
    | .ok (.move m) =>
      if m.isNull then m.uci :: readVariation p.pass rest
      else if p.isLegal m then
        let m' := if p.legalMoves.contains m then m else p.kingStepOfCastling m
        m'.uci :: readVariation (p.play m') rest
      else []
    | _ => []

/-- Read the fields of an `info` line after the keyword. -/
def readFields (root : Position) (acc : SearchInfo) : List String → SearchInfo
  | [] => acc
  | "depth" :: v :: rest =>
    readFields root { acc with depth := (Text.parseInt? v).orElse fun _ => acc.depth } rest
  | "multipv" :: v :: rest =>
    readFields root { acc with rank := (Text.parseInt? v).orElse fun _ => acc.rank } rest
  | "score" :: kind :: value :: rest =>
    let score : Option Score := match kind, Text.parseInt? value with
      | "cp", some v => some ⟨some v, none⟩
      | "mate", some v => some ⟨none, some v⟩
      | _, _ => none
    readFields root { acc with score := score.orElse fun _ => acc.score } rest
  | "pv" :: rest => { acc with pv := some (readVariation root rest) }
  | _ :: rest => readFields root acc rest

/-- Read an engine output line: a report for an `info` line, nothing for other lines. -/
def readInfo (root : Position) (line : String) : Option SearchInfo :=
  match Text.words line with
  | "info" :: rest => some (readFields root {} rest)
  | _ => none

/-- The ranked line a report gives, when it has a score and a non-empty variation. -/
def SearchInfo.line? (i : SearchInfo) : Option EngineLine :=
  match i.score, i.pv with
  | some s, some (first :: rest) => some ⟨first, s, first :: rest⟩
  | _, _ => none

end Engine
end Tactician
