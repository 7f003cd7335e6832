import Tactician.Analysis.Extract
import Tactician.Data.Value

/-!
# Records of analysis results

The record form in which openings, scores, classified moves and puzzles leave the library: field
names in snake case, enumerations by their tags, and absent values as null.  Evaluations are read
back from the same form, a line without a principal variation counting as its first move alone.
-/

namespace Tactician
namespace Analysis

open Openings

/-- The record of an opening attribution. -/
def infoValue (i : Info) : Value :=
  .obj [("eco", .ofOptStr i.eco), ("name", .ofOptStr i.name),
        ("variation", .ofOptStr i.variation), ("source", .str i.source.tag)]

/-- The record of a score. -/
def Score.toValue (s : Score) : Value := .obj [("cp", .ofOptInt s.cp), ("mate", .ofOptInt s.mate)]

/-- The record of a classified move. -/
def ClassifiedPly.toValue (p : ClassifiedPly) : Value :=
  .obj [("ply", .int p.ply), ("move_uci", .str p.moveUci), ("move_san", .str p.moveSan),
        ("mover", .str p.mover.name), ("fen_before", .str p.fenBefore),
        ("fen_after", .str p.fenAfter), ("before_cp", .ofOptInt p.beforeCp),
        ("after_cp", .ofOptInt p.afterCp), ("swing", .ofOptInt p.swing),
        ("label", .str p.label.tag)]

/-- The record of a puzzle. -/
def Puzzle.toValue (p : Puzzle) : Value :=
  .obj [("source_ply", .int p.sourcePly), ("fen", .str p.fen), ("best_move_uci", .str p.bestMove),
        ("best_line_uci", .ofStrs p.bestLine), ("accepted_moves_uci", .ofStrs p.acceptedMoves),
        ("type", .str p.type.tag), ("kind", .str p.kind.tag), ("severity", .int p.severity),
        ("score", p.score.toValue), ("tags", .ofStrs p.tags), ("opening", infoValue p.opening),
        ("label", .str p.label), ("phase", .str p.phase.tag)]

/-- The record of an evaluation: position, depth and lines. -/
def Evaluation.toValue (e : Evaluation) : Value :=
  .obj [("fen", .str e.fen), ("depth", .int e.depth),
        ("lines", .arr (e.lines.map fun l =>
          .obj [("move", .str l.move), ("cp", .ofOptInt l.score.cp),
                ("mate", .ofOptInt l.score.mate), ("pv", .ofStrs l.pv)]))]

/-- The record of both sides' accuracy. -/
def accuracyValue (white black : Option Float) : Value :=
  let side (x : Option Float) : Value := match x with
    | some v => .float v
    | none => .null
  .obj [("white", side white), ("black", side black)]

/-- The summary of an analysis: plies, the user's side, opening, accuracy and puzzles. -/
def GameAnalysis.summary (a : GameAnalysis) : Value :=
  .obj [("plies", .int a.game.plyCount), ("user_color", .ofOptStr a.userColor),
        ("opening", infoValue a.opening),
        ("accuracy", accuracyValue a.accuracyWhite a.accuracyBlack),
        ("puzzles", .arr (a.puzzles.map Puzzle.toValue))]

/-- Read a score from a record with `cp` and `mate`. -/
def Score.ofValue (v : Value) : Score := ⟨(v.field "cp").int?, (v.field "mate").int?⟩

/-- Read a line; a missing principal variation is the first move alone. -/
def EngineLine.ofValue (v : Value) : EngineLine :=
  let move := ((v.field "move").str?).getD ""
  let pv := match v.get? "pv" with
    | some (.arr xs) => xs.filterMap Value.str?
    | _ => [move]
  ⟨move, Score.ofValue v, pv⟩

/-- Read an evaluation. -/
def Evaluation.ofValue (v : Value) : Evaluation :=
  ⟨((v.field "fen").str?).getD "", (((v.field "lines").arr?).getD []).map EngineLine.ofValue,
   ((v.field "depth").int?).getD 0⟩

/-- Read evaluations keyed by decimal ply. -/
def evaluationsOfValue (v : Value) : Evaluations :=
  ((v.obj?).getD []).filterMap fun (k, e) =>
    (Text.parseInt? k).bind fun ply =>
      if ply < 0 then none
      else some (ply.toNat, if e.isNull then none else some (Evaluation.ofValue e))

/-- Read an opening attribution; a missing source is unknown. -/
def infoOfValue (v : Value) : Info :=
  { eco := (v.field "eco").str?, name := (v.field "name").str?,
    variation := (v.field "variation").str?,
    source := (((v.field "source").str?).bind Source.ofTag?).getD .unknown }

end Analysis
end Tactician
