/-!
# Colours, pieces and squares

The vocabulary of the board.  Squares are numbered `a1 = 0, b1 = 1, …, h8 = 63`, rank by rank,
so the file of a square is its index modulo eight and its rank the quotient.  Each noun comes with
its one-letter or two-letter spelling used by the position and move notations, and with the lemma
that reading a spelling back gives the noun again.
-/

namespace Tactician
namespace Chess

/-- The two sides. -/
inductive Color where
  | white
  | black
  deriving DecidableEq, Repr, Inhabited

namespace Color

/-- The side that is not `c`. -/
def other : Color → Color
  | white => black
  | black => white

@[simp]
theorem other_other (c : Color) : c.other.other = c := by
  cases c <;> rfl

/-- The lower-case English word for the side. -/
def name : Color → String
  | white => "white"
  | black => "black"

/-- The rank (0-based) on which the side's pieces start. -/
def backRank : Color → Nat
  | white => 0
  | black => 7

end Color

/-- The six kinds of piece. -/
inductive Role where
  | pawn
  | knight
  | bishop
  | rook
  | queen
  | king
  deriving DecidableEq, Repr, Inhabited

namespace Role

/-- The lower-case letter of the role. -/
def letter : Role → Char
  | pawn => 'p'
  | knight => 'n'
  | bishop => 'b'
  | rook => 'r'
  | queen => 'q'
  | king => 'k'

/-- The role named by a lower-case letter. -/
def ofLetter? : Char → Option Role
  | 'p' => some pawn
  | 'n' => some knight
  | 'b' => some bishop
  | 'r' => some rook
  | 'q' => some queen
  | 'k' => some king
  | _ => none

theorem ofLetter?_letter (r : Role) : ofLetter? r.letter = some r := by
  cases r <;> rfl

/-- Bishops, rooks and queens move along lines until blocked. -/
def isSlider : Role → Bool
  | bishop | rook | queen => true
  | _ => false

/-- Conventional material value in pawns, the king counting nothing. -/
def value : Role → Nat
  | pawn => 1
  | knight => 3
  | bishop => 3
  | rook => 5
  | queen => 9
  | king => 0

end Role

/-- A piece is a role played by one side. -/
structure Piece where
  /-- The side owning the piece. -/
  color : Color
  /-- What kind of piece it is. -/
  role : Role
  deriving DecidableEq, Repr, Inhabited

namespace Piece

/-- The position-notation letter: upper case for white, lower case for black. -/
def symbol (p : Piece) : Char :=
  match p.color with
  | .white => p.role.letter.toUpper
  | .black => p.role.letter

/-- The piece named by a position-notation letter. -/
def ofSymbol? (c : Char) : Option Piece :=
  if c.isUpper then (Role.ofLetter? c.toLower).map (Piece.mk .white)
  else (Role.ofLetter? c).map (Piece.mk .black)

end Piece

/-- A square of the board, `a1 = 0` up to `h8 = 63`. -/
abbrev Square := Fin 64

namespace Square

/-- The file, `0` for the a-file up to `7` for the h-file. -/
def file (s : Square) : Nat := s.val % 8

/-- The rank, `0` for the first rank up to `7` for the eighth. -/
def rank (s : Square) : Nat := s.val / 8

theorem file_lt (s : Square) : s.file < 8 := Nat.mod_lt _ (by decide)

theorem rank_lt (s : Square) : s.rank < 8 := by
  unfold rank
  have := s.isLt
  omega

/-- The square on a file and rank, when both are on the board. -/
def make? (file rank : Nat) : Option Square :=
  if h : file < 8 ∧ rank < 8 then some ⟨rank * 8 + file, by omega⟩ else none

/-- The square on a file and rank given by signed coordinates. -/
def ofCoords? (file rank : Int) : Option Square :=
  if 0 ≤ file ∧ 0 ≤ rank then make? file.toNat rank.toNat else none

/-- The square reached by a signed step in file and rank, if it stays on the board. -/
def shift? (s : Square) (df dr : Int) : Option Square :=
  ofCoords? (s.file + df) (s.rank + dr)

/-- The letter of a file. -/
def fileLetter (f : Nat) : Char := Char.ofNat ('a'.toNat + f)

/-- The digit of a rank. -/
def rankDigit (r : Nat) : Char := Char.ofNat ('1'.toNat + r)

/-- The two-character name such as `e4`. -/
def name (s : Square) : String :=
  String.ofList [fileLetter s.file, rankDigit s.rank]

/-- The square named by a two-character name; any other text names none. -/
def ofName? (t : String) : Option Square :=
  match t.toList with
  | [f, r] =>
    if 'a' ≤ f ∧ f ≤ 'h' ∧ '1' ≤ r ∧ r ≤ '8' then
      make? (f.toNat - 'a'.toNat) (r.toNat - '1'.toNat)
    else none
  | _ => none

/-- Squares whose file and rank have an even sum are dark. -/
def isDark (s : Square) : Bool := (s.file + s.rank) % 2 == 0

/-- Every square, in index order. -/
def all : List Square := List.finRange 64

end Square

end Chess
end Tactician
