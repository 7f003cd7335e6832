import Tactician.Store.Basic

/-!
# Practising on stored puzzles

A submitted move is trimmed and lower-cased; an empty move is refused before the puzzle is looked
up.  The move is graded against the puzzle's accepted moves and appended as an attempt under a
new id, stamped after the id is drawn.  A time that cannot be read, or that the integer column
cannot hold, fails the submission after the id is drawn, and nothing is written.

A user's overview counts their puzzles, the puzzles they attempted and solved (a puzzle is failed
when attempted and never solved), their attempts and correct attempts, breaks the puzzles down by
framing and by bucket, ranks the openings with most puzzles (ties by code, at most ten, each named
as its first puzzle names it) and lists the twenty newest attempts.
-/

namespace Tactician
namespace Store

open Analysis

/-- How many openings an overview ranks. -/
def topOpeningCount : Nat := 10

/-- How many attempts an overview lists. -/
def recentAttemptCount : Nat := 20

/-- A time spent in milliseconds: a finite non-negative whole number, a double truncated toward
zero; negative values count as zero, anything else as unknown.  An integer too large for a double
cannot be checked for being finite. -/
def coerceTimeSpent (v : Value) : Except RecordFault (Option Int) :=
  match v with
  | .int i => if i.natAbs < doubleOverflow then .ok (some (max 0 i)) else .error .floatOverflow
  | .float f => .ok ((Number.truncate f).map (max 0))
  | _ => .ok none

/-- Grade and record a user's move on one of their puzzles; returns the attempt and the user's
statistics on the puzzle afterwards.  The time is read after the attempt's id is drawn and before
the clock is read, and a time too large for the integer column is refused when the attempt is
written. -/
def submitAttempt (owner puzzleId : String) (move : Option String) (timeSpent : Value) :
    Step (Training.Attempt × Training.Stats) := do
  let move := Training.normalizeMove (move.getD "")
  if move.isEmpty then throw .emptyMove
  let p ← getPuzzle owner puzzleId
  let correct := Training.gradeMove move p.bestMove p.acceptedMoves
  let id ← freshId
  let time ← match coerceTimeSpent timeSpent with
    | .ok time => pure time
    | .error f => throw (.record f)
  let stamp ← now
  let a : Training.Attempt :=
    { id := id, puzzleId := puzzleId, userId := owner, move := move, wasCorrect := correct,
      timeSpent := time, attemptedAt := stamp }
  if time.any fun ms => (maxInteger : Int) < ms then throw .integerOverflow
  addAttempt a
  return (a, Training.aggregate (← attemptsOn owner puzzleId))

/-- A user's puzzle with their statistics on it. -/
def puzzleWithStats (owner puzzleId : String) : Step (Puzzle × Training.Stats) := do
  let p ← getPuzzle owner puzzleId
  return (p, Training.aggregate (← attemptsOn owner puzzleId))

/-- Counts of one group of puzzles. -/
structure Tally where
  /-- Puzzles in the group. -/
  puzzles : Nat := 0
  /-- Of them, attempted. -/
  attempted : Nat := 0
  /-- Of them, solved at least once. -/
  solved : Nat := 0
  deriving DecidableEq, Repr, Inhabited

/-- An opening in the ranking. -/
structure OpeningCount where
  /-- The ECO code. -/
  eco : String
  /-- The name its first puzzle gives. -/
  name : Option String
  /-- How many puzzles have it. -/
  puzzles : Nat
  deriving DecidableEq, Repr, Inhabited

/-- A user's progress over all their puzzles. -/
structure Overview where
  /-- Puzzles owned. -/
  puzzles : Nat
  /-- Distinct puzzles attempted. -/
  attempted : Nat
  /-- Distinct puzzles solved at least once. -/
  solved : Nat
  /-- Attempts made. -/
  attempts : Nat
  /-- Correct attempts. -/
  correctAttempts : Nat
  /-- Tallies by framing tag, in order of first appearance. -/
  byType : List (String × Tally)
  /-- Tallies by bucket tag, in order of first appearance. -/
  byKind : List (String × Tally)
  /-- The most frequent openings. -/
  topOpenings : List OpeningCount
  /-- The newest attempts, each with its puzzle. -/
  recent : List (Training.Attempt × Puzzle)

/-- Add one puzzle to the tally of its group, groups kept in order of first appearance. -/
def addToTally (key : String) (attempted solved : Bool) :
    List (String × Tally) → List (String × Tally)
  | [] => [(key, { puzzles := 1, attempted := if attempted then 1 else 0,
                   solved := if solved then 1 else 0 })]
  | (k, t) :: rest =>
    if k == key then
      (k, { puzzles := t.puzzles + 1, attempted := t.attempted + (if attempted then 1 else 0),
            solved := t.solved + (if solved then 1 else 0) }) :: rest
    else (k, t) :: addToTally key attempted solved rest

/-- Count one ECO code, codes kept in order of first appearance with the first name seen. -/
def addOpening (eco : String) (name : Option String) : List OpeningCount → List OpeningCount
  | [] => [⟨eco, name, 1⟩]
  | o :: rest =>
    if o.eco == eco then { o with puzzles := o.puzzles + 1 } :: rest
    else o :: addOpening eco name rest

/-- Most puzzles first, ties by code. -/
def openingRank (a b : OpeningCount) : Bool :=
  b.puzzles < a.puzzles || (a.puzzles == b.puzzles && a.eco ≤ b.eco)

/-- The user's attempts, newest first, each with the puzzle it was made on; an attempt whose
puzzle is gone is left out. -/
def Tables.userAttempts (t : Tables) (owner : String) : List (Training.Attempt × Puzzle) :=
  (newestFirst (t.attempts.filter (·.userId == owner))).filterMap fun a =>
    (t.puzzles.find? (·.id == a.puzzleId)).map fun p => (a, p)

/-- Tally puzzles by a key, with the ids of the attempted and of the solved ones. -/
def tallyBy (key : Puzzle → String) (attemptedIds solvedIds : List String) (ps : List Puzzle) :
    List (String × Tally) :=
  ps.foldl (fun acc p =>
    addToTally (key p) (attemptedIds.contains p.id) (solvedIds.contains p.id) acc) []

/-- The overview of a user's puzzles and attempts. -/
def overview (owner : String) : Step Overview := do
  let t ← get
  let puzzles := t.puzzles.filter (·.owner == owner)
  let joined := t.userAttempts owner
  let attemptedIds := (joined.map (·.1.puzzleId)).eraseDups
  let solvedIds := ((joined.filter (·.1.wasCorrect)).map (·.1.puzzleId)).eraseDups
  let openings := puzzles.foldl (fun acc p =>
    match p.eco with
    | some e => if e.isEmpty then acc else addOpening e p.openingName acc
    | none => acc) []
  return { puzzles := puzzles.length, attempted := attemptedIds.length,
           solved := solvedIds.length, attempts := joined.length,
           correctAttempts := (joined.filter (·.1.wasCorrect)).length,
           byType := tallyBy (·.type.tag) attemptedIds solvedIds puzzles,
           byKind := tallyBy (·.kind.tag) attemptedIds solvedIds puzzles,
           topOpenings := (openings.mergeSort openingRank).take topOpeningCount,
           recent := joined.take recentAttemptCount }

end Store
end Tactician
