import Tactician.Data.Value
import Tactician.Data.Prefix
import Tactician.Text.Case
import Tactician.Text.Blank

/-!
# Attempts and their statistics

A solver's move is graded against the puzzle's accepted moves: the best move followed by the
alternates, each trimmed and lower-cased, empty ones dropped, duplicates removed and at most
sixteen kept.  A move is correct exactly when it is not empty after normalising and lies in that
set.

Statistics over one solver's attempts at one puzzle are a fold over the history, newest first:
counts, the success rate to four places, the first and last verdicts, the current streak (the
newest run of equal verdicts), and the mean time over attempts that record one, rounded to the
nearest integer with ties to even.
-/

namespace Tactician
namespace Training

/-- At most this many moves are accepted for one puzzle. -/
def maxAccepted : Nat := 16

/-- A move as graded: trimmed and lower-cased. -/
def normalizeMove (move : String) : String := Text.toLower (Text.trim move)

/-- Distinct items in first-seen order. -/
def dedupe (xs : List String) : List String :=
  xs.foldl (fun acc x => if acc.contains x then acc else acc ++ [x]) []

/-- The accepted moves: the best move and the alternates, normalised, non-empty, distinct,
capped. -/
def acceptedMoveSet (best : String) (alternates : List String) : List String :=
  (dedupe ((best :: alternates).map normalizeMove |>.filter (!·.isEmpty))).take maxAccepted

/-- Whether a move solves the puzzle. -/
def gradeMove (move best : String) (alternates : List String) : Bool :=
  let m := normalizeMove move
  !m.isEmpty && (acceptedMoveSet best alternates).contains m

theorem gradeMove_eq_true_iff (move best : String) (alternates : List String) :
    gradeMove move best alternates = true ↔
      normalizeMove move ≠ "" ∧ normalizeMove move ∈ acceptedMoveSet best alternates := by
  simp [gradeMove]

/-- One recorded attempt. -/
structure Attempt where
  /-- Its id. -/
  id : String
  /-- The puzzle attempted. -/
  puzzleId : String
  /-- The solver. -/
  userId : String
  /-- The move played, normalised. -/
  move : String
  /-- Whether it was correct. -/
  wasCorrect : Bool
  /-- Milliseconds spent, if known. -/
  timeSpent : Option Int
  /-- When it was made. -/
  attemptedAt : String
  deriving Repr, Inhabited

/-- The record of an attempt, without its solver. -/
def Attempt.toValue (a : Attempt) : Value :=
  .obj [("id", .str a.id), ("puzzle_id", .str a.puzzleId), ("user_move_uci", .str a.move),
        ("was_correct", .bool a.wasCorrect), ("time_spent_ms", .ofOptInt a.timeSpent),
        ("attempted_at", .str a.attemptedAt)]

/-- Statistics of a solver on one puzzle. -/
structure Stats where
  /-- Attempts made. -/
  total : Nat := 0
  /-- Correct attempts. -/
  correct : Nat := 0
  /-- Correct over total, to four places. -/
  successRate : Option Float := none
  /-- The verdict of the oldest attempt. -/
  firstCorrect : Option Bool := none
  /-- When the newest attempt was made. -/
  lastAttemptedAt : Option String := none
  /-- The verdict of the newest attempt. -/
  lastCorrect : Option Bool := none
  /-- The newest run of equal verdicts. -/
  streak : Nat := 0
  /-- Some attempt was correct. -/
  solved : Bool := false
  /-- Attempts were made and none was correct. -/
  failed : Bool := false
  /-- The mean time of the attempts that record one. -/
  averageTime : Option Int := none
  /-- The attempts, newest first. -/
  history : List Attempt := []
  deriving Inhabited

/-- The length of the run of equal items at the front of a list. -/
def frontRun (xs : List Bool) : Nat :=
  match xs with
  | [] => 0
  | x :: rest => 1 + (rest.takeWhile (· == x)).length

/-- Fold a history, newest first, into statistics. -/
def aggregate (history : List Attempt) : Stats :=
  match history.head?, history.getLast? with
  | some newest, some oldest =>
    let total := history.length
    let correct := (history.filter (·.wasCorrect)).length
    let times := history.filterMap (·.timeSpent)
    let sum : Int := times.foldl (· + ·) 0
    { total := total, correct := correct,
      successRate := some (Number.roundFloat (Number.ofRatio false correct total) 4),
      firstCorrect := some oldest.wasCorrect, lastAttemptedAt := some newest.attemptedAt,
      lastCorrect := some newest.wasCorrect, streak := frontRun (history.map (·.wasCorrect)),
      solved := correct > 0, failed := correct == 0,
      averageTime := if times.isEmpty then none
        else Number.roundToPlaces (Number.ofRatio (sum < 0) sum.natAbs times.length) 0,
      history := history }
  | _, _ => {}

/-- The record of statistics, listing at most `limit` attempts of the history when a limit is
given (a negative limit leaves out that many of the oldest). -/
def Stats.toValue (s : Stats) (limit : Option Int) : Value :=
  let shown := match limit with
    | some n => takeSigned s.history n
    | none => s.history
  let optBool (b : Option Bool) : Value := match b with
    | some x => .bool x
    | none => .null
  .obj [("total", .int s.total), ("correct", .int s.correct),
        ("success_rate", match s.successRate with
          | some r => .float r
          | none => .null),
        ("first_attempt_correct", optBool s.firstCorrect),
        ("last_attempted_at", .ofOptStr s.lastAttemptedAt),
        ("last_was_correct", optBool s.lastCorrect), ("current_streak", .int s.streak),
        ("solved", .bool s.solved), ("failed", .bool s.failed),
        ("average_time_ms", .ofOptInt s.averageTime),
        ("history", .arr (shown.map Attempt.toValue))]

end Training
end Tactician
