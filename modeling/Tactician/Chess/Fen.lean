import Tactician.Chess.Legal
import Tactician.Text.Quoted
import Tactician.Text.Numeral

/-!
# Forsyth–Edwards notation

Reading and writing positions as FEN text: six blank-separated fields (placement, side to move,
castling, passing square, half-move clock, move number), of which all but the first may be left
out.  The fields after the placement are checked first, in order, and the placement last.  Written
FEN shows the passing square only when a legal capture onto it exists, and the castling rights
that are alive as `KQkq`.
-/

namespace Tactician
namespace Chess

/-- Why a FEN text does not describe a position. -/
inductive FenError where
  /-- No field at all. -/
  | empty
  /-- The side-to-move field is neither `w` nor `b`. -/
  | turn (fen : String)
  /-- The castling field is malformed. -/
  | castling (fen : String)
  /-- The passing-square field is neither `-` nor a square name. -/
  | passing (fen : String)
  /-- The half-move clock is not an integer. -/
  | halfmoves (fen : String)
  /-- The half-move clock is negative. -/
  | negativeHalfmoves (fen : String)
  /-- The move number is not an integer. -/
  | fullmoves (fen : String)
  /-- The move number is negative. -/
  | negativeFullmoves (fen : String)
  /-- More than six fields. -/
  | extraFields (fen : String)
  /-- The placement does not have eight rows. -/
  | rows (placement : String)
  /-- Two digits follow each other in a row. -/
  | digits (placement : String)
  /-- A promotion mark `~` that does not follow a piece. -/
  | mark (placement : String)
  /-- A character that is neither a digit nor a piece letter. -/
  | character (placement : String)
  /-- A row that does not cover eight squares. -/
  | columns (placement : String)
  deriving DecidableEq, Repr

namespace FenError

/-- The text of the error. -/
def message : FenError → String
  | empty => "empty fen"
  | turn f => "expected 'w' or 'b' for turn part of fen: " ++ Text.quote f
  | castling f => "invalid castling part in fen: " ++ Text.quote f
  | passing f => "invalid en passant part in fen: " ++ Text.quote f
  | halfmoves f => "invalid half-move clock in fen: " ++ Text.quote f
  | negativeHalfmoves f => "half-move clock cannot be negative: " ++ Text.quote f
  | fullmoves f => "invalid fullmove number in fen: " ++ Text.quote f
  | negativeFullmoves f => "fullmove number cannot be negative: " ++ Text.quote f
  | extraFields f => "fen string has more parts than expected: " ++ Text.quote f
  | rows p => "expected 8 rows in position part of fen: " ++ Text.quote p
  | digits p => "two subsequent digits in position part of fen: " ++ Text.quote p
  | mark p => "'~' not after piece in position part of fen: " ++ Text.quote p
  | character p => "invalid character in position part of fen: " ++ Text.quote p
  | columns p => "expected 8 columns per row in position part of fen: " ++ Text.quote p

end FenError

namespace Fen

/-- The piece letter a placement character stands for, folding the Kelvin sign onto `K`. -/
def pieceOf? (c : Char) : Option Piece :=
  if c.toNat == 0x212A then some ⟨.white, .king⟩ else Piece.ofSymbol? c

/-- The number of empty squares a placement digit stands for. -/
def skipOf? (c : Char) : Option Nat :=
  if '1' ≤ c && c ≤ '8' then some (c.toNat - '0'.toNat) else none

/-- Check one row: no two digits in a row, `~` only after a piece, only digits and piece letters,
eight squares in all. -/
def checkRow (placement : String) (row : List Char) : Except FenError Unit :=
  go row 0 false false
where
  /-- `width` squares so far; whether the last character was a digit or a piece. -/
  go : List Char → Nat → Bool → Bool → Except FenError Unit
    | [], width, _, _ => if width == 8 then .ok () else .error (.columns placement)
    | c :: rest, width, afterDigit, afterPiece =>
      match skipOf? c with
      | some n => if afterDigit then .error (.digits placement) else go rest (width + n) true false
      | none =>
        if c == '~' then
          if afterPiece then go rest width false false else .error (.mark placement)
        else match pieceOf? c with
          | some _ => go rest (width + 1) false true
          | none => .error (.character placement)

/-- Split a character list at every `/`. -/
def splitRows (cs : List Char) : List (List Char) :=
  (cs.splitOn '/')

/-- Place the pieces of a checked placement, rows from the eighth rank down. -/
def placePieces (cs : List Char) : Board :=
  go cs 0 Board.empty
where
  /-- `index` counts squares from a8 along each rank, rank by rank downwards. -/
  go : List Char → Nat → Board → Board
    | [], _, b => b
    | c :: rest, index, b =>
      match skipOf? c with
      | some n => go rest (index + n) b
      | none =>
        match pieceOf? c with
        | some pc =>
          let sq := Square.make? (index % 8) (7 - index / 8)
          go rest (index + 1) (match sq with | some s => b.put s (some pc) | none => b)
        | none => go rest index b

/-- Read the placement field. -/
def readPlacement (placement : String) : Except FenError Board := do
  let rows := splitRows placement.toList
  if rows.length != 8 then throw (.rows placement)
  for row in rows do
    checkRow placement row
  return placePieces placement.toList

/-- Whether a castling field has the shape `-` or up to two upper-case rights letters followed
by up to two lower-case ones (letters `KQ` or files `A`–`H`). -/
def castlingShapeOk (field : String) : Bool :=
  field == "-" ||
    (let cs := field.toList
     let upper := cs.takeWhile fun c => c == 'K' || c == 'Q' || ('A' ≤ c && c ≤ 'H')
     let lower := cs.dropWhile fun c => c == 'K' || c == 'Q' || ('A' ≤ c && c ≤ 'H')
     upper.length ≤ 2 && lower.length ≤ 2 &&
       lower.all fun c => c == 'k' || c == 'q' || ('a' ≤ c && c ≤ 'h'))

/-- The rights named by a well-shaped castling field, before cleaning. -/
def castlingOf (field : String) : Castling :=
  let has (c : Char) := field.contains c
  { whiteShort := has 'K' || has 'H', whiteLong := has 'Q' || has 'A',
    blackShort := has 'k' || has 'h', blackLong := has 'q' || has 'a' }

/-- Read a counter field with its two errors. -/
def readCounter (field : String) (bad negative : FenError) : Except FenError Nat :=
  match Text.parseInt? field with
  | none => .error bad
  | some n => if n < 0 then .error negative else .ok n.toNat

end Fen

/-- Read a position from FEN text. -/
def Position.ofFen (fen : String) : Except FenError Position := do
  let fields := Text.words fen
  let placement ← match fields with
    | p :: _ => pure p
    | [] => throw .empty
  let rest := fields.drop 1
  let turn ← match rest with
    | [] => pure Color.white
    | "w" :: _ => pure Color.white
    | "b" :: _ => pure Color.black
    | _ :: _ => throw (.turn fen)
  let rest := rest.drop 1
  let castlingField ← match rest with
    | [] => pure "-"
    | c :: _ => if Fen.castlingShapeOk c then pure c else throw (.castling fen)
  let rest := rest.drop 1
  let ep ← match rest with
    | [] => pure none
    | "-" :: _ => pure none
    | e :: _ => match Square.ofName? e with
      | some s => pure (some s)
      | none => throw (.passing fen)
  let rest := rest.drop 1
  let halfmoves ← match rest with
    | [] => pure 0
    | h :: _ => Fen.readCounter h (.halfmoves fen) (.negativeHalfmoves fen)
  let rest := rest.drop 1
  let fullmoves ← match rest with
    | [] => pure 1
    | f :: _ => Fen.readCounter f (.fullmoves fen) (.negativeFullmoves fen)
  let rest := rest.drop 1
  if !rest.isEmpty then throw (.extraFields fen)
  let board ← Fen.readPlacement placement
  return { board := board, turn := turn,
           castling := Position.cleanCastling board (Fen.castlingOf castlingField),
           epSquare := ep, halfmoves := halfmoves, fullmoves := max fullmoves 1 }

namespace Position

/-- The placement field: ranks from the eighth down, runs of empty squares as digits. -/
def placementFen (p : Position) : String :=
  String.intercalate "/" ((List.range 8).reverse.map fun r => rankText r)
where
  /-- One rank, files a to h. -/
  rankText (r : Nat) : String :=
    let cells := (List.range 8).map fun f => (Square.make? f r).bind p.board.at?
    String.ofList (go cells 0)
  /-- Write the cells, `run` empty squares pending. -/
  go : List (Option Piece) → Nat → List Char
    | [], run => if run == 0 then [] else [Char.ofNat ('0'.toNat + run)]
    | none :: rest, run => go rest (run + 1)
    | some pc :: rest, run =>
      (if run == 0 then [] else [Char.ofNat ('0'.toNat + run)]) ++ pc.symbol :: go rest 0

/-- The castling field. -/
def castlingFen (p : Position) : String :=
  let c := p.castling
  let s := (if c.whiteShort then "K" else "") ++ (if c.whiteLong then "Q" else "") ++
    (if c.blackShort then "k" else "") ++ (if c.blackLong then "q" else "")
  if s.isEmpty then "-" else s

/-- The full FEN text. -/
def fen (p : Position) : String :=
  String.intercalate " "
    [p.placementFen, (match p.turn with | .white => "w" | .black => "b"), p.castlingFen,
     (match p.legalEpSquare with | some s => s.name | none => "-"),
     toString p.halfmoves, toString p.fullmoves]

/-- The full FEN text with the en passant square whenever one is set, capture or not: the form
in which positions are sent to an engine. -/
def fenWithPassing (p : Position) : String :=
  String.intercalate " "
    [p.placementFen, (match p.turn with | .white => "w" | .black => "b"), p.castlingFen,
     (match p.epSquare with | some s => s.name | none => "-"),
     toString p.halfmoves, toString p.fullmoves]

/-- The first four FEN fields, which identify a position for analysis. -/
def positionKey (p : Position) : String :=
  String.intercalate " " ((p.fen.splitOn " ").take 4)

end Position

/-- The standard starting position. -/
def startingFen : String := "rnbqkbnr/pppppppp/8/8/8/8/PPPPPPPP/RNBQKBNR w KQkq - 0 1"

end Chess
end Tactician
