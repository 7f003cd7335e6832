import Tactician.Store.Basic
import Tactician.Analysis.Report

/-!
# Bringing games and puzzles into the store

Importing a game reads its text, attributes its opening and the user's side, and dates it by the
`UTCDate` tag, else the `Date` tag, a date with an unknown part (`?`) counting as none.

Ingesting a batch of puzzle records keeps the well-formed ones, normalises them and replaces the
game's puzzle set with them; a record that cannot be read breaks off the batch before the store is
touched.

Syncing a game analyses its stored text (with the side stored for the user) before touching the
store, so a failed analysis leaves the old puzzle set in place; the analysis's puzzles are then
ingested.  Syncing several games syncs each distinct id once, in order of first mention, and
reports a failure per game instead of failing as a whole; only an empty solution line, which is a
fault of the analysis rather than of the game, and a value the store cannot take fail the whole run
once every game has been tried.
-/

namespace Tactician
namespace Store

open Analysis

/-- A store operation that may also consult an evaluator with state `σ`. -/
abbrev SyncM (σ : Type) := ExceptT Error (StateT Tables (StateM σ))

/-- Run a store operation inside a sync. -/
def Step.lift {σ α : Type} (x : Step α) : SyncM σ α :=
  ExceptT.mk (StateT.mk fun t => pure (x.run.run t))

/-- The counts of an ingested batch. -/
structure IngestReport where
  /-- Records received. -/
  received : Nat
  /-- Records well formed. -/
  accepted : Nat
  /-- Records dropped as malformed. -/
  dropped : Nat
  /-- Rows inserted. -/
  inserted : Nat
  deriving DecidableEq, Repr

/-- Replace a game's puzzle set with the well-formed records of a batch. -/
def ingest (owner gameId : String) (records : List Value) : Step IngestReport := do
  let rows ← match acceptedRows records with
    | .ok rows => pure rows
    | .error f => throw (.record f)
  let inserted ← replacePuzzles owner gameId rows
  return { received := records.length, accepted := rows.length,
           dropped := records.length - rows.length, inserted := inserted }

/-- The date a game was played, from its tags: `UTCDate` when filled, else `Date`, none when it
has an unknown part. -/
def playedAtOf (g : Pgn.Game) : Option String :=
  let date := match g.tag? "UTCDate" with
    | some d => if d.isEmpty then g.tag? "Date" else some d
    | none => g.tag? "Date"
  date.bind fun d => if d.contains '?' then none else some d

/-- Read a game text and store it for the user, with its opening, the user's side (found from
the user name) and its date.  Returns the game's id. -/
def importGame (owner pgn : String) (username gameId provider : Option String)
    (book : Openings.Book) : Step String := do
  match Pgn.parseGame pgn with
  | .error e => throw (.game e)
  | .ok g =>
    match book.classify g.tags g.sans with
    | .error f => throw (.book f)
    | .ok opening =>
      upsertGame owner pgn gameId ((Pgn.userColor g.tags username).map Chess.Color.name) opening
        provider (playedAtOf g)

/-- What a sync of one game reports. -/
structure SyncReport where
  /-- The game. -/
  gameId : String
  /-- Puzzles stored. -/
  puzzles : Nat
  /-- Plies of the game. -/
  plies : Nat
  /-- The user's side. -/
  userColor : Option String
  /-- The opening attributed. -/
  opening : Openings.Info
  /-- White's accuracy. -/
  accuracyWhite : Option Float
  /-- Black's accuracy. -/
  accuracyBlack : Option Float

/-- Analyse a stored game of the user and replace its puzzle set with the puzzles found. -/
def syncGame {σ : Type} (owner gameId : String) (c : Config) (ev : Option (Evaluator σ))
    (supplied : Evaluations) (book : Openings.Book) : SyncM σ SyncReport := do
  let g ← (getGame owner gameId).lift
  let r ← (analyzeGame g.pgn c ev supplied none g.userColor book : StateM σ _)
  match r with
  | .error f => throw (.analysis f)
  | .ok a =>
    let report ← (ingest owner gameId (a.puzzles.map Analysis.Puzzle.toValue)).lift
    return { gameId := gameId, puzzles := report.inserted, plies := a.game.plyCount,
             userColor := a.userColor, opening := a.opening, accuracyWhite := a.accuracyWhite,
             accuracyBlack := a.accuracyBlack }

/-- Whether a failure stops a run over several games. -/
def Error.stopsRun : Error → Bool
  | .analysis .emptyLine => true
  | e => e.isFault

/-- Sync each game, reporting each game's failure in place. -/
def syncEach {σ : Type} (owner : String) (c : Config) (ev : Option (Evaluator σ))
    (book : Openings.Book) : List String → SyncM σ (List (String × Except Error SyncReport))
  | [] => pure []
  | id :: rest => do
    let r ← tryCatch (Except.ok <$> syncGame owner id c ev [] book) (fun e => pure (.error e))
    let others ← syncEach owner c ev book rest
    return (id, r) :: others

/-- Sync several games of the user, each distinct id once in order of first mention. -/
def syncGames {σ : Type} (owner : String) (ids : List String) (c : Config)
    (ev : Option (Evaluator σ)) (book : Openings.Book) :
    SyncM σ (List (String × Except Error SyncReport)) := do
  let results ← syncEach owner c ev book ids.eraseDups
  let stop := results.findSome? fun (_, r) => match r with
    | .error e => if e.stopsRun then some e else none
    | .ok _ => none
  match stop with
  | some e => throw e
  | none => return results

end Store
end Tactician
