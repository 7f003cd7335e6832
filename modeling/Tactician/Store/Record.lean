import Tactician.Store.Query
import Tactician.Store.Practice
import Tactician.Store.Sync

/-!
# Records of stored rows

The record form in which stored games, puzzles, reports and overviews leave the store: column
names in snake case, enumerations by their tags and absent values as null.  A game's record
carries the number of its puzzles.
-/

namespace Tactician
namespace Store

open Analysis

/-- The full record of a stored game. -/
def Game.toValue (t : Tables) (g : Game) : Value :=
  .obj [("id", .str g.id), ("user_id", .str g.owner), ("pgn", .str g.pgn),
        ("provider", .ofOptStr g.provider), ("played_at", .ofOptStr g.playedAt),
        ("user_color", .ofOptStr g.userColor), ("opening_eco", .ofOptStr g.opening.eco),
        ("opening_name", .ofOptStr g.opening.name),
        ("opening_variation", .ofOptStr g.opening.variation),
        ("opening_source", .str g.opening.source.tag), ("analyzed_at", .ofOptStr g.analyzedAt),
        ("created_at", .str g.createdAt), ("puzzle_count", .int (t.puzzleCount g))]

/-- The record of a game in a list of games. -/
def Game.summaryValue (t : Tables) (g : Game) : Value :=
  .obj [("id", .str g.id), ("provider", .ofOptStr g.provider),
        ("played_at", .ofOptStr g.playedAt), ("user_color", .ofOptStr g.userColor),
        ("opening_eco", .ofOptStr g.opening.eco), ("opening_name", .ofOptStr g.opening.name),
        ("analyzed_at", .ofOptStr g.analyzedAt), ("created_at", .str g.createdAt),
        ("puzzle_count", .int (t.puzzleCount g))]

/-- The record of a stored puzzle. -/
def Puzzle.toValue (p : Puzzle) : Value :=
  .obj [("id", .str p.id), ("user_id", .str p.owner), ("game_id", .str p.gameId),
        ("source_ply", .int p.sourcePly), ("fen", .str p.fen), ("type", .str p.type.tag),
        ("kind", .str p.kind.tag), ("phase", .ofOptStr (p.phase.map GamePhase.tag)),
        ("severity", .ofOptInt (p.severity.map Int.ofNat)), ("best_move_uci", .str p.bestMove),
        ("score", match p.score with
          | some s => s.toValue
          | none => .null),
        ("tags", .ofStrs p.tags), ("opening_eco", .ofOptStr p.eco),
        ("opening_name", .ofOptStr p.openingName), ("opening_variation", .ofOptStr p.variation),
        ("label", .ofOptStr p.label), ("created_at", .str p.createdAt),
        ("accepted_moves_uci", .ofStrs p.acceptedMoves), ("best_line_uci", .ofStrs p.bestLine)]

/-- The record of an ingested batch. -/
def IngestReport.toValue (r : IngestReport) : Value :=
  .obj [("received", .int r.received), ("accepted", .int r.accepted),
        ("dropped", .int r.dropped), ("inserted", .int r.inserted)]

/-- The record of a synced game. -/
def SyncReport.toValue (r : SyncReport) : Value :=
  .obj [("game_id", .str r.gameId), ("puzzles", .int r.puzzles), ("plies", .int r.plies),
        ("user_color", .ofOptStr r.userColor), ("opening", infoValue r.opening),
        ("accuracy", accuracyValue r.accuracyWhite r.accuracyBlack)]

/-- The record of a tally. -/
def Tally.toValue (t : Tally) : Value :=
  .obj [("puzzles", .int t.puzzles), ("attempted", .int t.attempted), ("solved", .int t.solved)]

/-- The record of an overview; the success rate is rounded to four places. -/
def Overview.toValue (o : Overview) : Value :=
  let rate : Value := if o.attempts == 0 then .null
    else .float (Number.roundFloat (Number.ofRatio false o.correctAttempts o.attempts) 4)
  .obj [("totals", .obj [("puzzles", .int o.puzzles), ("attempted", .int o.attempted),
          ("solved", .int o.solved), ("failed", .int (o.attempted - o.solved)),
          ("attempts", .int o.attempts), ("correct_attempts", .int o.correctAttempts),
          ("success_rate", rate)]),
        ("by_type", .obj (o.byType.map fun (k, t) => (k, t.toValue))),
        ("by_kind", .obj (o.byKind.map fun (k, t) => (k, t.toValue))),
        ("top_openings", .arr (o.topOpenings.map fun c =>
          .obj [("eco", .str c.eco), ("name", .ofOptStr c.name), ("puzzles", .int c.puzzles)])),
        ("recent_attempts", .arr (o.recent.map fun (a, p) =>
          .obj [("puzzle_id", .str a.puzzleId), ("type", .str p.type.tag),
                ("kind", .str p.kind.tag), ("user_move_uci", .str a.move),
                ("was_correct", .bool a.wasCorrect), ("time_spent_ms", .ofOptInt a.timeSpent),
                ("attempted_at", .str a.attemptedAt)]))]

end Store
end Tactician
