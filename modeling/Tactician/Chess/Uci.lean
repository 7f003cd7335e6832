import Tactician.Chess.Fen

/-!
# Moves as coordinate text

The coordinate notation names a move by its two squares and, for a promotion, the lower-case
letter of the new role (`e2e4`, `e7e8q`).  `0000` is the null move, which passes the turn, and
`P@e4` a drop, which no position here allows.  Reading checks the length first, then the squares,
then that the two squares differ.
-/

namespace Tactician
namespace Chess

/-- What coordinate text can name. -/
inductive MoveText where
  /-- A move of a piece, or the null move (`0000`) when both squares are `a1`. -/
  | move (m : Move)
  /-- Dropping a piece of a role onto a square. -/
  | drop (r : Role) (s : Square)
  deriving DecidableEq, Repr

/-- Why coordinate text names no move. -/
inductive UciError where
  /-- A square or letter that does not exist. -/
  | invalid (text : String)
  /-- The same square twice. -/
  | sameSquare (text : String)
  /-- Neither four nor five characters. -/
  | length (text : String)
  deriving DecidableEq, Repr

namespace UciError

/-- The text of the error. -/
def message : UciError → String
  | invalid t => "invalid uci: " ++ Text.quote t
  | sameSquare t => "invalid uci (use 0000 for null moves): " ++ Text.quote t
  | length t => "expected uci string to be of length 4 or 5: " ++ Text.quote t

end UciError

namespace Move

/-- The null move, which only passes the turn. -/
def null : Move := ⟨Castling.a1, Castling.a1, none⟩

/-- Whether a move is the null move: both squares the same. -/
def isNull (m : Move) : Bool := m.source == m.target

/-- The coordinate text of a move. -/
def uci (m : Move) : String :=
  if m.isNull then "0000"
  else m.source.name ++ m.target.name ++
    (match m.promotion with | some r => String.singleton r.letter | none => "")

end Move

namespace MoveText

/-- The coordinate text. -/
def uci : MoveText → String
  | move m => m.uci
  | drop r s => String.singleton r.letter.toUpper ++ "@" ++ s.name

/-- Read coordinate text. -/
def ofUci (t : String) : Except UciError MoveText :=
  let cs := t.toList
  if t == "0000" then .ok (move Move.null)
  else if cs.length == 4 && cs[1]? == some '@' then
    let role := match cs.head? with
      | some c => Role.ofLetter? (if c.toNat == 0x212A then 'k' else c.toLower)
      | none => none
    match role, Square.ofName? (String.ofList (cs.drop 2)) with
    | some r, some s => .ok (drop r s)
    | _, _ => .error (.invalid t)
  else if cs.length == 4 || cs.length == 5 then
    let source := Square.ofName? (String.ofList (cs.take 2))
    let target := Square.ofName? (String.ofList ((cs.drop 2).take 2))
    let promotion : Option (Option Role) := match cs[4]? with
      | none => some none
      | some c => (Role.ofLetter? c).map some
    match source, target, promotion with
    | some s, some d, some p =>
      if s == d then .error (.sameSquare t) else .ok (move ⟨s, d, p⟩)
    | _, _, _ => .error (.invalid t)
  else .error (.length t)

end MoveText

namespace Position

/-- Whether coordinate text names a legal move here; drops and the null move never do. -/
def allows (p : Position) : MoveText → Bool
  | .move m => !m.isNull && p.isLegal m
  | .drop _ _ => false

end Position

end Chess
end Tactician
