import Tactician.Chess.Uci

/-!
# Standard algebraic notation

Writing: castling is `O-O` or `O-O-O`; another piece move is the piece letter, the source file
and/or rank when another piece of the same kind could also go to the target (the file when that
tells them apart, else the rank, both when neither alone does), `x` for a capture, the target, and
`=Q` and the like for a promotion; a pawn capture starts with the pawn's file.  A `+` or `#` marks
check or mate.

Reading accepts `O-O`, `O-O-O` (also with zeros and a check mark), the null-move spellings, and
the pattern `[NBKRQ]?[a-h]?[1-8]?[-x]?<square>(=?<role>)?[+#]?`.  A text with both a source file
and rank and no piece letter names that exact move; otherwise the legal moves are filtered by piece,
source hints, target and promotion, and exactly one must remain.
-/

namespace Tactician
namespace Chess

/-- Why algebraic text names no legal move. -/
inductive SanError where
  /-- No legal move fits. -/
  | illegal (san fen : String)
  /-- Several legal moves fit. -/
  | ambiguous (san fen : String)
  /-- The text does not have the shape of a move. -/
  | invalid (san : String)
  /-- The text lists several moves separated by commas. -/
  | multiLeg (san : String)
  /-- A fully specified move between two squares is not legal. -/
  | noMatch (uci source target fen : String)
  /-- A fully specified pawn move to the last rank gives no promotion role. -/
  | missingPromotion (san fen : String)
  deriving DecidableEq, Repr

namespace SanError

/-- The text of the error. -/
def message : SanError → String
  | illegal s f => "illegal san: " ++ Text.quote s ++ " in " ++ f
  | ambiguous s f => "ambiguous san: " ++ Text.quote s ++ " in " ++ f
  | invalid s => "invalid san: " ++ Text.quote s
  | multiLeg s => "unsupported multi-leg move: " ++ Text.quote s
  | noMatch u s t f => "no matching legal move for " ++ u ++ " (" ++ s ++ " -> " ++ t ++ ") in " ++ f
  | missingPromotion s f => "missing promotion piece type: " ++ Text.quote s ++ " in " ++ f

end SanError

namespace Position

/-- The role of the piece on a square. -/
def roleAt? (p : Position) (s : Square) : Option Role := (p.board.at? s).map (·.role)

/-- Whether a move is castling: a king moving two files or onto its own rook. -/
def isCastling (p : Position) (m : Move) : Bool :=
  p.roleAt? m.source == some .king &&
    ((m.source.file : Int) - m.target.file > 1 || (m.target.file : Int) - m.source.file > 1 ||
      p.board.holds m.target ⟨p.turn, .rook⟩)

/-- The notation without the check mark. -/
def sanBody (p : Position) (m : Move) : String :=
  if m.isNull then "--"
  else if p.isCastling m then
    if m.target.file < m.source.file then "O-O-O" else "O-O"
  else
    let role := (p.roleAt? m.source).getD .pawn
    let capture := p.isCapture m
    let prefix_ : String :=
      if role == .pawn then
        if capture then String.singleton (Square.fileLetter m.source.file) else ""
      else String.singleton role.letter.toUpper ++ disambiguation role
    prefix_ ++ (if capture then "x" else "") ++ m.target.name ++
      (match m.promotion with | some r => "=" ++ String.singleton r.letter.toUpper | none => "")
where
  /-- The source hints that tell the move apart from moves of other pieces of its kind. -/
  disambiguation (role : Role) : String :=
    let rivals := (p.ordinaryMoves.filter fun o =>
      o.target == m.target && o.source != m.source && p.roleAt? o.source == some role).map
        (·.source)
    if rivals.isEmpty then ""
    else
      let sameRank := rivals.any (·.rank == m.source.rank)
      let sameFile := rivals.any (·.file == m.source.file)
      let column := sameRank || !sameFile
      (if column then String.singleton (Square.fileLetter m.source.file) else "") ++
        (if sameFile then String.singleton (Square.rankDigit m.source.rank) else "")

/-- The full notation of a legal move, with `#` for mate and `+` for check. -/
def san (p : Position) (m : Move) : String :=
  let after := p.play m
  let mark :=
    if m.isNull then ""
    else if after.isCheckmate then "#"
    else if after.isCheck then "+"
    else ""
  p.sanBody m ++ mark

/-- The parts of algebraic text: piece letter, source file, source rank, target, promotion. -/
structure SanShape where
  /-- The upper-case piece letter, if any. -/
  piece : Option Role
  /-- The source file hint. -/
  file : Option Nat
  /-- The source rank hint. -/
  rank : Option Nat
  /-- The target square. -/
  target : Square
  /-- The promotion role, if any. -/
  promotion : Option Role

/-- Split algebraic text into its parts, if it has the shape of a move. -/
def SanShape.read? (san : String) : Option SanShape :=
  let cs := san.toList
  -- an optional check mark at the end
  let cs := match cs.getLast? with
    | some '+' | some '#' => cs.dropLast
    | _ => cs
  -- an optional promotion letter, possibly after `=`
  let (cs, promotion) : List Char × Option Role := match cs.getLast? with
    | some c =>
      if "nbrqkNBRQK".contains c then
        let rest := cs.dropLast
        let rest := if rest.getLast? == some '=' then rest.dropLast else rest
        (rest, Role.ofLetter? c.toLower)
      else (cs, none)
    | none => (cs, none)
  let n := cs.length
  if n < 2 then none else
  let target := Square.ofName? (String.ofList (cs.drop (n - 2)))
  let front := cs.take (n - 2)
  let (piece, front) : Option Role × List Char := match front with
    | c :: rest => if "NBKRQ".contains c then (Role.ofLetter? c.toLower, rest) else (none, front)
    | [] => (none, front)
  let (file, front) : Option Nat × List Char := match front with
    | c :: rest => if 'a' ≤ c && c ≤ 'h' then (some (c.toNat - 'a'.toNat), rest) else (none, front)
    | [] => (none, front)
  let (rank, front) : Option Nat × List Char := match front with
    | c :: rest => if '1' ≤ c && c ≤ '8' then (some (c.toNat - '1'.toNat), rest) else (none, front)
    | [] => (none, front)
  let front := match front with
    | c :: rest => if c == '-' || c == 'x' then rest else front
    | [] => front
  match target, front with
  | some t, [] => some ⟨piece, file, rank, t, promotion⟩
  | _, _ => none

/-- Find the legal castling move on one side. -/
def castlingMove? (p : Position) (short : Bool) : Option Move :=
  p.castlingMoves.find? fun m => (m.source.file < m.target.file) == short

/-- The exact move between two squares, a pawn reaching the last rank becoming a queen when no
role is given. -/
def findMove (p : Position) (source target : Square) (promotion : Option Role) :
    Except SanError Move :=
  let promotion :=
    if promotion.isNone && p.roleAt? source == some .pawn && (target.rank == 0 || target.rank == 7)
    then some .queen else promotion
  let m : Move := p.kingStepOfCastling ⟨source, target, promotion⟩
  if p.isLegal m then .ok m
  else .error (.noMatch m.uci source.name target.name p.fen)

/-- Read algebraic text as a legal move. -/
def parseSan (p : Position) (san : String) : Except SanError Move :=
  if ["O-O", "O-O+", "O-O#", "0-0", "0-0+", "0-0#"].contains san then
    match p.castlingMove? true with
    | some m => .ok m
    | none => .error (.illegal san p.fen)
  else if ["O-O-O", "O-O-O+", "O-O-O#", "0-0-0", "0-0-0+", "0-0-0#"].contains san then
    match p.castlingMove? false with
    | some m => .ok m
    | none => .error (.illegal san p.fen)
  else match SanShape.read? san with
  | none =>
    if ["--", "Z0", "0000", "@@@@"].contains san then .ok Move.null
    else if san.contains ',' then .error (.multiLeg san)
    else .error (.invalid san)
  | some shape =>
    let fits (s : Square) : Bool :=
      (shape.file.all (· == s.file)) && (shape.rank.all (· == s.rank))
    match shape.piece, shape.file, shape.rank with
    | none, some f, some r =>
      match Square.make? f r with
      | none => .error (.invalid san)
      | some source =>
        match p.findMove source shape.target shape.promotion with
        | .error e => .error e
        | .ok m =>
          if m.promotion == shape.promotion then .ok m
          else .error (.missingPromotion san p.fen)
    | piece, _, _ =>
      let role := piece.getD .pawn
      let pawnFileOk (s : Square) : Bool :=
        piece.isSome || shape.file.isSome || s.file == shape.target.file
      let found := p.ordinaryMoves.filter fun m =>
        m.target == shape.target && !p.board.ownedBy p.turn m.target &&
          fits m.source && p.board.holds m.source ⟨p.turn, role⟩ && pawnFileOk m.source &&
          m.promotion == shape.promotion
      match found with
      | [m] => .ok m
      | [] => .error (.illegal san p.fen)
      | _ => .error (.ambiguous san p.fen)

end Position

end Chess
end Tactician
