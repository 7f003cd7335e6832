import Tactician.Pgn.Reader

/-!
# Writing game records

A game record is written back as its tag lines `[Name "value"]`, a blank line, and its main line
in algebraic notation: a move number before each White move (and before the first move when Black
starts), then the result.  Movetext words are filled into lines of at most eighty characters.
Comments, annotations and variations are left out.

A text holding several games is split by reading its games one after the other and writing each
back; a game whose `FEN` tag is not a position cannot be written.
-/

namespace Tactician
namespace Pgn

open Chess

/-- The movetext words of a main line played from a position: move numbers and moves. -/
def movetextWords (start : Position) (moves : List Move) : List String :=
  go start moves true
where
  /-- `first` says whether no move has been written yet. -/
  go (p : Position) : List Move → Bool → List String
    | [], _ => []
    | m :: rest, first =>
      let number := match p.turn with
        | .white => [toString p.fullmoves ++ "."]
        | .black => if first then [toString p.fullmoves ++ "..."] else []
      number ++ [p.san m] ++ go (p.play m) rest false

/-- A line without its final space. -/
def withoutFinalSpace (s : String) : String :=
  if s.endsWith " " then String.ofList s.toList.dropLast else s

/-- Fill words into lines of at most `columns` characters (a longer word stands alone). -/
def fillWords (words : List String) (columns : Nat) : List String :=
  let (lines, current) := words.foldl (fun (acc : List String × String) w =>
    let token := w ++ " "
    if columns < acc.2.length + token.length && !acc.2.isEmpty then
      (acc.1 ++ [withoutFinalSpace acc.2], token)
    else (acc.1, acc.2 ++ token)) ([], "")
  if current.isEmpty then lines else lines ++ [withoutFinalSpace current]

/-- The text of a game record: tags, a blank line, and the main line with its result; `none`
position means the `FEN` tag is not a position, which is the error. -/
def Record.export (r : Record) : Except FenError String :=
  match r.start with
  | none =>
    match r.errors with
    | .fen e :: _ => .error e
    | _ => .error .empty
  | some start =>
    let tagLines := r.tags.toList.map fun (k, v) => "[" ++ k ++ " \"" ++ v ++ "\"]"
    let result := (r.tags.get? "Result").getD "*"
    let body := fillWords (movetextWords start r.mainline ++ [result]) 80
    .ok (String.intercalate "\n" (tagLines ++ [""] ++ body))

/-- Split a text into its games, each written back on its own. -/
def splitGames (text : String) : Except FenError (List String) :=
  (readAll text).mapM Record.export

end Pgn
end Tactician
