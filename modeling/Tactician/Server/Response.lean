import Tactician.Data.Show
import Tactician.Number.Fixed
import Tactician.Store.Row

/-!
# Compact tool responses

Tool responses are trimmed before they reach a reader with little room: puzzles lose their owner
and timestamps, their solution line is cut to six plies, their alternates are kept only when
there are several, their score becomes a short text (`+1.25`, `#3`, `#-2`) and their opening
shrinks to code and name.  Statistics keep their counts and the five newest attempts; overviews
keep the ten newest attempts.

A response can be checked against a schema: each key must be present with a value of one of the
expected types; the check reports every missing key and every wrong type, in schema order.
-/

namespace Tactician
namespace Server

/-- A response that cannot be trimmed. -/
inductive ShapeError where
  /-- A centipawn score of a type that cannot be divided. -/
  | noDivision (typeName : String)
  /-- An alternates value that has no length. -/
  | noLength (typeName : String)
  /-- A centipawn score too large to be taken as a double. -/
  | floatOverflow
  deriving Repr

/-- The text of a shape error. -/
def ShapeError.message : ShapeError → String
  | .noDivision t => "unsupported operand type(s) for /: " ++ Text.quote t ++ " and 'float'"
  | .noLength t => "object of type " ++ Text.quote t ++ " has no len()"
  | .floatOverflow => "int too large to convert to float"

/-- Plies of a solution line that are kept. -/
def linePlies : Nat := 6

/-- Attempts of a history that are kept. -/
def historyAttempts : Nat := 5

/-- The short text of a score: `#` and the mate count when there is one, else the centipawns
in pawns with a sign and two places; none for a missing score.  The centipawns are taken as a
double before they are divided, so an integer past the doubles cannot be shown. -/
def scoreText (score : Value) : Except ShapeError (Option String) :=
  match score with
  | .obj _ =>
    match score.field "mate", score.field "cp" with
    | .null, .null => .ok none
    | .null, cp =>
      let pawns : Except ShapeError Float := match cp with
        | .int i => if i.natAbs < Store.doubleOverflow then .ok (Number.ofInt i / 100.0)
          else .error .floatOverflow
        | .float f => .ok (f / 100.0)
        | .bool b => .ok (if b then 0.01 else 0.0)
        | other => .error (.noDivision other.typeName)
      pawns.map fun x => some (Number.signedFixed x 2)
    | mate, _ => .ok (some ("#" ++ mate.display))
  | _ => .ok none

/-- Trim statistics to their counts and newest attempts. -/
def minifyStats (stats : Value) : Value :=
  let keys := ["total", "correct", "success_rate", "first_attempt_correct", "last_attempted_at",
    "last_was_correct", "current_streak", "solved", "failed", "average_time_ms"]
  let history := if (stats.field "history").truthy then ((stats.field "history").arr?).getD [] else []
  .obj (keys.map (fun k => (k, stats.field k)) ++
    [("history", .arr ((history.take historyAttempts).map fun a =>
      .obj [("user_move_uci", a.field "user_move_uci"), ("was_correct", a.field "was_correct"),
            ("attempted_at", a.field "attempted_at")]))])

/-- The items of a value that has a length: a list's items, a text's characters, a record's keys. -/
def sizedItems (v : Value) : Except ShapeError (List Value) :=
  match v with
  | .arr xs => .ok xs
  | .str s => .ok (s.toList.map fun c => .str (String.singleton c))
  | .obj fs => .ok (fs.map fun (k, _) => .str k)
  | other => .error (.noLength other.typeName)

/-- Trim a puzzle, stored or freshly mined. -/
def minifyPuzzle (p : Value) : Except ShapeError Value := do
  let kept := ["id", "game_id", "source_ply", "fen", "type", "kind", "phase", "severity",
    "best_move_uci", "tags", "label"]
  let base := kept.filterMap fun k => (p.get? k).map (k, ·)
  let line : Value := match p.get? "best_line_uci" with
    | some (.arr xs) => .arr (xs.take linePlies)
    | _ => .arr []
  let acceptedRaw := p.field "accepted_moves_uci"
  let accepted ← if acceptedRaw.truthy then sizedItems acceptedRaw else pure []
  let alternates := if accepted.length > 1 then [("accepted_moves_uci", Value.arr accepted)] else []
  let score ← scoreText (p.field "score")
  let (eco, name) := match p.field "opening" with
    | .obj fs => ((Value.obj fs).field "eco", (Value.obj fs).field "name")
    | _ => (p.field "opening_eco", p.field "opening_name")
  let opening : Value := if eco.truthy || name.truthy then .obj [("eco", eco), ("name", name)]
    else .null
  let stats := match p.field "stats" with
    | .obj fs => [("stats", minifyStats (.obj fs))]
    | _ => []
  return .obj (base ++ [("best_line_uci", line)] ++ alternates ++
    [("score", Value.ofOptStr score), ("opening", opening)] ++ stats)

/-- Trim a page of puzzles. -/
def minifyPage (total page limit : Value) (puzzles : List Value) : Except ShapeError Value := do
  let ps ← puzzles.mapM minifyPuzzle
  return .obj [("total", total), ("page", page), ("limit", limit), ("puzzles", .arr ps)]

/-- Trim the answer to an attempt: the verdict and compact statistics. -/
def minifyAttempt (attempt stats : Value) : Value :=
  .obj [("attempt_id", attempt.field "id"), ("puzzle_id", attempt.field "puzzle_id"),
        ("user_move_uci", attempt.field "user_move_uci"),
        ("was_correct", attempt.field "was_correct"),
        ("time_spent_ms", attempt.field "time_spent_ms"), ("stats", minifyStats stats)]

/-- Trim a mining answer: opening, accuracy and puzzles. -/
def minifyExtraction (response : Value) : Except ShapeError Value := do
  let puzzles := match response.get? "puzzles" with
    | some (.arr xs) => xs
    | _ => []
  let ps ← puzzles.mapM minifyPuzzle
  return .obj [("plies", response.field "plies"), ("user_color", response.field "user_color"),
               ("opening", response.field "opening"), ("accuracy", response.field "accuracy"),
               ("puzzle_count", .int puzzles.length), ("puzzles", .arr ps)]

/-- Trim an overview to its ten newest attempts. -/
def minifyOverview (overview : Value) : Value :=
  let recent := match overview.get? "recent_attempts" with
    | some (.arr xs) => xs
    | _ => []
  overview.set "recent_attempts" (.arr ((recent.take (2 * historyAttempts)).map fun a =>
    .obj [("puzzle_id", a.field "puzzle_id"), ("type", a.field "type"),
          ("was_correct", a.field "was_correct"), ("attempted_at", a.field "attempted_at")]))

/-- A type a schema expects. -/
inductive Shape where
  | text
  | integer
  | boolean
  | list
  | record
  | none
  deriving DecidableEq, Repr

/-- The name of an expected type. -/
def Shape.name : Shape → String
  | .text => "str"
  | .integer => "int"
  | .boolean => "bool"
  | .list => "list"
  | .record => "dict"
  | .none => "NoneType"

/-- Whether a value has a type; booleans count as integers. -/
def Shape.admits : Shape → Value → Bool
  | .text, .str _ => true
  | .integer, .int _ => true
  | .integer, .bool _ => true
  | .boolean, .bool _ => true
  | .list, .arr _ => true
  | .record, .obj _ => true
  | .none, .null => true
  | _, _ => false

/-- What a schema expects of one key: one type, or one of several. -/
inductive Expectation where
  | one (s : Shape)
  | anyOf (ss : List Shape)

/-- A schema: keys with their expectations, in order. -/
abbrev Schema := List (String × Expectation)

/-- The schemas of tool responses, by name. -/
def schemas : List (String × Schema) :=
  [("PUZZLE_SCHEMA", [("fen", .one .text), ("source_ply", .one .integer), ("type", .one .text),
      ("kind", .one .text), ("best_move_uci", .one .text), ("best_line_uci", .one .list),
      ("tags", .one .list), ("score", .anyOf [.text, .none]), ("opening", .anyOf [.record, .none])]),
   ("PUZZLE_PAGE_SCHEMA", [("total", .one .integer), ("page", .one .integer),
      ("limit", .one .integer), ("puzzles", .one .list)]),
   ("ATTEMPT_SCHEMA", [("attempt_id", .one .text), ("puzzle_id", .one .text),
      ("user_move_uci", .one .text), ("was_correct", .one .boolean),
      ("time_spent_ms", .anyOf [.integer, .none]), ("stats", .one .record)]),
   ("EXTRACTION_SCHEMA", [("plies", .one .integer), ("user_color", .anyOf [.text, .none]),
      ("opening", .one .record), ("accuracy", .one .record), ("puzzle_count", .one .integer),
      ("puzzles", .one .list)]),
   ("SYNC_SCHEMA", [("game_id", .one .text), ("puzzles", .one .integer), ("opening", .one .record)]),
   ("OPENING_SCHEMA", [("eco", .anyOf [.text, .none]), ("name", .anyOf [.text, .none]),
      ("variation", .anyOf [.text, .none]), ("source", .one .text)]),
   ("OVERVIEW_SCHEMA", [("totals", .one .record), ("by_type", .one .record),
      ("by_kind", .one .record), ("top_openings", .one .list), ("recent_attempts", .one .list)]),
   ("ERROR_SCHEMA", [("error", .one .text)])]

/-- The problems of a response under a schema, in schema order. -/
def validate (response : Value) (schema : Schema) : List String :=
  match response with
  | .obj _ =>
    schema.filterMap fun (k, e) =>
      match response.get? k with
      | none => some ("Missing key: " ++ k)
      | some v =>
        match e with
        | .one s => if s.admits v then none else
            some ("Key " ++ Text.quote k ++ ": expected " ++ s.name ++ ", got " ++ v.typeName)
        | .anyOf ss => if ss.any (·.admits v) then none else
            some ("Key " ++ Text.quote k ++ ": expected (" ++
              String.intercalate ", " (ss.map Shape.name) ++ "), got " ++ v.typeName)
  | other => ["Response is not a dict: " ++ other.typeName]

end Server
end Tactician
