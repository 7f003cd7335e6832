import Tactician.Pgn.Reader
import Tactician.Text.Case

/-!
# Replayed games

A game is the first game of a PGN text replayed along its main line: its tags, its moves in
coordinate and algebraic notation, the FEN of the position before each move and after the last,
and whether that last position ends the game (its history counted for repetition).
-/

namespace Tactician
namespace Pgn

open Chess

/-- Why a PGN text gives no game to work on. -/
inductive GameError where
  /-- The text is blank. -/
  | empty
  /-- No game was found. -/
  | unreadable
  /-- The game has an error; the first one is kept. -/
  | invalid (e : ReadError)
  /-- The game has no moves. -/
  | noMoves
  deriving Repr

/-- The text of the error. -/
def GameError.message : GameError → String
  | .empty => "PGN is empty"
  | .unreadable => "Could not parse PGN"
  | .invalid e => "Invalid PGN: " ++ e.message
  | .noMoves => "PGN contains no moves"

/-- A replayed game. -/
structure Game where
  /-- The tags in order. -/
  tags : List (String × String)
  /-- The positions before each move, and after the last one. -/
  positions : List Position
  /-- The moves of the main line. -/
  moves : List Move
  /-- The moves in algebraic notation. -/
  sans : List String
  /-- The FEN text of each position. -/
  fens : List String
  /-- Whether the final position ends the game. -/
  finished : Bool
  deriving Inhabited

namespace Game

/-- The number of moves. -/
def plyCount (g : Game) : Nat := g.moves.length

/-- The moves in coordinate notation. -/
def ucis (g : Game) : List String := g.moves.map Move.uci

/-- The value of a tag. -/
def tag? (g : Game) (k : String) : Option String := (g.tags.find? (·.1 == k)).map (·.2)

/-- The position before move `ply` (the final position for `ply = plyCount`). -/
def positionAt (g : Game) (ply : Nat) : Position := g.positions.getD ply default

/-- The side to move before move `ply`. -/
def moverAt (g : Game) (ply : Nat) : Color := (g.positionAt ply).turn

/-- The plies whose position ends the game: only the final one can. -/
def terminalPlies (g : Game) : List Nat := if g.finished then [g.plyCount] else []

end Game

/-- Replay moves from a position, collecting positions and algebraic notation. -/
def replay (p : Position) : List Move → List Position × List String
  | [] => ([p], [])
  | m :: rest =>
    let (ps, ss) := replay (p.play m) rest
    (p :: ps, p.san m :: ss)

/-- Read and replay the first game of a PGN text. -/
def parseGame (text : String) : Except GameError Game :=
  if Text.isAllBlank text then .error .empty
  else match read? text with
    | none => .error .unreadable
    | some r =>
      match r.errors, r.start with
      | e :: _, _ => .error (.invalid e)
      | [], none => .error .unreadable
      | [], some start =>
        if r.mainline.isEmpty then .error .noMoves
        else
          let (positions, sans) := replay start r.mainline
          .ok { tags := r.tags.toList, positions := positions, moves := r.mainline, sans := sans,
                fens := positions.map Position.fen,
                finished := (Line.mk start r.mainline).isOver }

/-- The side a user played, matched case-insensitively against the `White` and `Black` tags
after trimming; `none` without a user name or when neither matches. -/
def userColor (tags : List (String × String)) (username : Option String) : Option Color :=
  match username with
  | none => none
  | some u =>
    if u.isEmpty then none else
    let wanted := Text.toLower (Text.trim u)
    let tag (k : String) := Text.toLower (Text.trim ((tags.find? (·.1 == k)).map (·.2) |>.getD ""))
    if tag "White" == wanted then some .white
    else if tag "Black" == wanted then some .black
    else none

end Pgn
end Tactician
