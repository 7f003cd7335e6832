import Tactician.Store.Row
import Tactician.Store.Stamp
import Tactician.Pgn.Game
import Tactician.Data.Show
import Tactician.Number.Significant

/-!
# The puzzle store

A store holds three tables, each a list in insertion order: games, the puzzles mined from them and
the attempts made on those puzzles.  Every row belongs to one user, and a user sees only their own
rows: a game or puzzle of someone else is reported as not found.

Operations run in `Step`, which threads the tables and may fail.  A failed operation leaves the
rows as they were, but identifiers and clock readings drawn before the failure stay drawn.

A game's puzzle set is only ever replaced as a whole: the old puzzles go, together with the
attempts made on them, and the new rows go in, one per (game, ply, framing); a later row with the
same key is dropped.  Replacing marks the game analysed.
-/

namespace Tactician
namespace Store

open Analysis

/-- Why a store operation failed. -/
inductive Error where
  /-- No game with this id belongs to the user. -/
  | gameNotFound (id : String)
  /-- No puzzle with this id belongs to the user. -/
  | puzzleNotFound (id : String)
  /-- The submitted move is empty after trimming. -/
  | emptyMove
  /-- A puzzle row could not be written; nothing changed. -/
  | replaceFailed (gameId cause : String)
  /-- A record of a batch could not be read; nothing changed. -/
  | record (f : RecordFault)
  /-- An integer is too large for its column; nothing changed. -/
  | integerOverflow
  /-- The game text is not a game. -/
  | game (e : Pgn.GameError)
  /-- The game could not be analysed. -/
  | analysis (f : Analysis.Failure)
  /-- The opening book could not be walked for the game. -/
  | book (f : Openings.BookFault)
  deriving Repr

/-- The text of the error. -/
def Error.message : Error → String
  | .gameNotFound id => "Game not found: " ++ id
  | .puzzleNotFound id => "Puzzle not found: " ++ id
  | .emptyMove => "user_move_uci is required"
  | .replaceFailed g cause => "Replacing puzzles for game " ++ g ++ " failed: " ++ cause
  | .record f => f.message
  | .integerOverflow => "int too large to convert to SQLite INTEGER"
  | .game e => e.message
  | .analysis f => f.message
  | .book f => f.message

/-- Whether a failure is a fault of the values given (a record that cannot be read, an integer
too large for its column) rather than one of the failures the miner reports. -/
def Error.isFault : Error → Bool
  | .record _ | .integerOverflow => true
  | _ => false

/-- A stored game. -/
structure Game where
  /-- Its id. -/
  id : String
  /-- The user it belongs to. -/
  owner : String
  /-- The game text. -/
  pgn : String
  /-- Where it was played. -/
  provider : Option String := none
  /-- When it was played. -/
  playedAt : Option String := none
  /-- The side the user played. -/
  userColor : Option String := none
  /-- The opening attributed to it. -/
  opening : Openings.Info := {}
  /-- When its puzzle set was last replaced. -/
  analyzedAt : Option String := none
  /-- When it was first stored. -/
  createdAt : String
  deriving Repr, Inhabited

/-- A stored puzzle. -/
structure Puzzle where
  /-- Its id. -/
  id : String
  /-- The user it belongs to. -/
  owner : String
  /-- The game it comes from. -/
  gameId : String
  /-- The ply of the position. -/
  sourcePly : Nat
  /-- The position, as FEN. -/
  fen : String
  /-- The framing. -/
  type : PuzzleType
  /-- The bucket. -/
  kind : PuzzleKind
  /-- The phase, if known. -/
  phase : Option GamePhase
  /-- The severity, if known. -/
  severity : Option Nat
  /-- The best move. -/
  bestMove : String
  /-- The accepted moves. -/
  acceptedMoves : List String
  /-- The solution line. -/
  bestLine : List String
  /-- The score, if known. -/
  score : Option Score
  /-- The tags. -/
  tags : List String
  /-- The ECO code of the opening. -/
  eco : Option String
  /-- The name of the opening. -/
  openingName : Option String
  /-- The variation of the opening. -/
  variation : Option String
  /-- The label, if any. -/
  label : Option String
  /-- When it was stored. -/
  createdAt : String
  deriving Repr, Inhabited

/-- The contents of a store. -/
structure Tables where
  /-- Games, in insertion order. -/
  games : List Game := []
  /-- Puzzles, in insertion order. -/
  puzzles : List Puzzle := []
  /-- Attempts, in insertion order. -/
  attempts : List Training.Attempt := []
  /-- The counters for new ids and timestamps. -/
  stamps : Stamps := {}
  deriving Inhabited

/-- A store operation: it reads and writes the tables and may fail. -/
abbrev Step := ExceptT Error (StateM Tables)

/-- Draw a new identifier. -/
def freshId : Step String :=
  modifyGet fun t => let (id, st) := t.stamps.nextId; (id, { t with stamps := st })

/-- Read the clock. -/
def now : Step String :=
  modifyGet fun t => let (stamp, st) := t.stamps.nextTime; (stamp, { t with stamps := st })

/-- The largest value of an integer column. -/
def maxInteger : Nat := 9223372036854775807

/-- Whether an integer can be bound to a column: the signed 64-bit range. -/
def fitsInteger (i : Int) : Bool := -((maxInteger : Int) + 1) ≤ i && i ≤ maxInteger

/-- The text a loose value is stored as in a text column of a game's puzzle, or why it cannot be
bound (`index` is the column's position, from one).  An integer outside the signed 64-bit range
overflows, which the replace does not catch; a list or a record has no column type, which the
replace reports for the game. -/
def columnText (gameId : String) (index : Nat) (v : Value) : Except Error (Option String) :=
  match v with
  | .null => .ok none
  | .str s => .ok (some s)
  | .bool b => .ok (some (if b then "1" else "0"))
  | .int i => if fitsInteger i then .ok (some (toString i)) else .error .integerOverflow
  | .float f => .ok (Number.Float.sqlText f)
  | other => .error (.replaceFailed gameId ("Error binding parameter " ++ toString index ++
      ": type '" ++ other.typeName ++ "' is not supported"))

/-- A normalised row as stored for a user's game.  The columns are bound in order, so a ply too
large for its column is met before the opening fields, and each of those before the next. -/
def Puzzle.ofRow (id owner gameId createdAt : String) (row : PuzzleRow) : Except Error Puzzle := do
  if maxInteger < row.sourcePly then throw .integerOverflow
  let eco ← columnText gameId 15 row.opening.eco
  let name ← columnText gameId 16 row.opening.name
  let variation ← columnText gameId 17 row.opening.variation
  return { id := id, owner := owner, gameId := gameId, sourcePly := row.sourcePly, fen := row.fen,
           type := row.type, kind := row.kind, phase := row.phase, severity := row.severity,
           bestMove := row.bestMove, acceptedMoves := row.acceptedMoves, bestLine := row.bestLine,
           score := row.score, tags := row.tags, eco := eco, openingName := name,
           variation := variation, label := row.label, createdAt := createdAt }

/-- Whether two puzzles share the key (user, game, ply, framing). -/
def Puzzle.sameKey (p q : Puzzle) : Bool :=
  p.owner == q.owner && p.gameId == q.gameId && p.sourcePly == q.sourcePly && p.type == q.type

namespace Tables

/-- The game with this id, whoever owns it. -/
def game? (t : Tables) (id : String) : Option Game := t.games.find? (·.id == id)

/-- The user's game with this id. -/
def ownGame? (t : Tables) (owner id : String) : Option Game :=
  t.games.find? fun g => g.id == id && g.owner == owner

/-- The user's puzzle with this id. -/
def ownPuzzle? (t : Tables) (owner id : String) : Option Puzzle :=
  t.puzzles.find? fun p => p.id == id && p.owner == owner

/-- How many puzzles of a game belong to the game's owner. -/
def puzzleCount (t : Tables) (g : Game) : Nat :=
  (t.puzzles.filter fun p => p.gameId == g.id && p.owner == g.owner).length

/-- Whether the user has attempted the puzzle. -/
def attempted (t : Tables) (p : Puzzle) : Bool :=
  t.attempts.any fun a => a.puzzleId == p.id && a.userId == p.owner

/-- Whether the user has solved the puzzle at least once. -/
def solved (t : Tables) (p : Puzzle) : Bool :=
  t.attempts.any fun a => a.puzzleId == p.id && a.userId == p.owner && a.wasCorrect

end Tables

/-- The id a game is stored under: the given one, or a new one when none or an empty one is
given. -/
def gameIdFor (gameId : Option String) : Step String :=
  match gameId with
  | some g => if g.isEmpty then freshId else pure g
  | none => freshId

/-- Store a game for a user under an id: the user's game of that id has its text, side and
opening replaced, and its provider and date only by given values; another user's game of that id
is refused; otherwise a new game is added, dated by the clock. -/
def putGame (owner pgn id : String) (userColor : Option String) (opening : Openings.Info)
    (provider playedAt : Option String) : Step Unit := do
  match (← get).game? id with
  | some g =>
    if g.owner != owner then throw (.gameNotFound id)
    let update (h : Game) : Game :=
      if h.id == id then
        { h with pgn := pgn, provider := provider.orElse fun _ => h.provider,
                 playedAt := playedAt.orElse fun _ => h.playedAt, userColor := userColor,
                 opening := opening }
      else h
    modify fun t => { t with games := t.games.map update }
  | none =>
    let stamp ← now
    let g : Game := { id := id, owner := owner, pgn := pgn, provider := provider,
                      playedAt := playedAt, userColor := userColor, opening := opening,
                      createdAt := stamp }
    modify fun t => { t with games := t.games ++ [g] }

/-- Store a game for a user, or update the user's game of that id.  Without an id (or with an
empty one) a new id is drawn; only a new game reads the clock. -/
def upsertGame (owner pgn : String) (gameId : Option String) (userColor : Option String)
    (opening : Openings.Info) (provider playedAt : Option String) : Step String := do
  let id ← gameIdFor gameId
  putGame owner pgn id userColor opening provider playedAt
  return id

/-- The user's game with this id. -/
def getGame (owner id : String) : Step Game := do
  match (← get).ownGame? owner id with
  | some g => return g
  | none => throw (.gameNotFound id)

/-- The user's games, newest first. -/
def listGames (owner : String) : Step (List Game) := do
  let gs := (← get).games.filter (·.owner == owner)
  return gs.mergeSort fun a b => b.createdAt ≤ a.createdAt

/-- Insert rows one by one, each under a new id, dropping a row whose key is taken.  Returns the
table, the number inserted and the counters, or the failure with the counters drawn so far. -/
def insertRows (owner gameId createdAt : String) :
    List PuzzleRow → List Puzzle → Nat → Stamps → Except (Error × Stamps) (List Puzzle × Nat × Stamps)
  | [], table, count, st => .ok (table, count, st)
  | row :: rest, table, count, st =>
    let (id, st) := st.nextId
    match Puzzle.ofRow id owner gameId createdAt row with
    | .error e => .error (e, st)
    | .ok p =>
      if table.any p.sameKey then insertRows owner gameId createdAt rest table count st
      else insertRows owner gameId createdAt rest (table ++ [p]) (count + 1) st

/-- Replace the puzzle set of the user's game by `rows`, in one piece: the game's old puzzles and
their attempts go, the rows go in (a row whose key is taken is dropped), and the game is marked
analysed.  Returns how many rows went in. -/
def replacePuzzles (owner gameId : String) (rows : List PuzzleRow) : Step Nat := do
  let _ ← getGame owner gameId
  let stamp ← now
  let t ← get
  let gone (p : Puzzle) : Bool := p.owner == owner && p.gameId == gameId
  let kept := t.puzzles.filter fun p => !gone p
  let removed := (t.puzzles.filter gone).map (·.id)
  match insertRows owner gameId stamp rows kept 0 t.stamps with
  | .error (e, st) =>
    set { t with stamps := st }
    throw e
  | .ok (table, count, st) =>
    let mark (g : Game) : Game := if g.id == gameId then { g with analyzedAt := some stamp } else g
    set { t with puzzles := table, stamps := st, games := t.games.map mark,
                 attempts := t.attempts.filter fun a => !removed.contains a.puzzleId }
    return count

/-- The user's puzzle with this id. -/
def getPuzzle (owner id : String) : Step Puzzle := do
  match (← get).ownPuzzle? owner id with
  | some p => return p
  | none => throw (.puzzleNotFound id)

/-- The puzzles of the user's game, by ply and then framing. -/
def gamePuzzles (owner gameId : String) : Step (List Puzzle) := do
  let ps := (← get).puzzles.filter fun p => p.owner == owner && p.gameId == gameId
  return ps.mergeSort fun a b =>
    a.sourcePly < b.sourcePly || (a.sourcePly == b.sourcePly && a.type.tag ≤ b.type.tag)

/-- Append an attempt. -/
def addAttempt (a : Training.Attempt) : Step Unit :=
  modify fun t => { t with attempts := t.attempts ++ [a] }

/-- Attempts newest first: by time, later insertions first among equal times. -/
def newestFirst (xs : List Training.Attempt) : List Training.Attempt :=
  xs.reverse.mergeSort fun a b => b.attemptedAt ≤ a.attemptedAt

/-- The user's attempts at one puzzle, newest first. -/
def attemptsOn (owner puzzleId : String) : Step (List Training.Attempt) := do
  let xs := (← get).attempts.filter fun a => a.userId == owner && a.puzzleId == puzzleId
  return newestFirst xs

end Store
end Tactician
