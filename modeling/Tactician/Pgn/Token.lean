import Tactician.Text.Blank

/-!
# Movetext tokens

Movetext is read token by token from the left of a line.  At each place the first of these
shapes that fits is taken, and a character that starts none of them is skipped:

* a move: `[NBKRQ]?[a-h]?[1-8]?[-x]?<file><rank>`, optionally followed by `=` and a role letter
  or by a role letter alone (the optional parts taken greedily, giving way when the target square
  would otherwise be missing); a drop `[PNBRQK]?@<square>`; the null moves `--`, `Z0`, `0000`,
  `@@@@`; castling `O-O`, `O-O-O`, `0-0`, `0-0-0`;
* a brace comment, which runs to the end of the line here (the reader then looks for its end);
* a semicolon comment, to the end of the line;
* a numeric annotation `$` followed by digits;
* an opening or closing parenthesis;
* a result `*`, `1-0`, `0-1`, `1/2-1/2`;
* one or two of `?` and `!`.
-/

namespace Tactician
namespace Pgn

/-- A token of movetext. -/
inductive Token where
  /-- Something shaped like a move. -/
  | move (text : String)
  /-- The start of a brace comment, with the rest of the line after the brace. -/
  | braceComment (rest : List Char)
  /-- A comment to the end of the line. -/
  | lineComment
  /-- A numeric annotation. -/
  | nag (text : String)
  /-- `(` -/
  | openVariation
  /-- `)` -/
  | closeVariation
  /-- A game result. -/
  | result (text : String)
  /-- Move annotation marks such as `!?`. -/
  | mark (text : String)
  deriving Repr, Inhabited

/-- Whether a character is a file letter. -/
def isFile (c : Char) : Bool := 'a' ≤ c && c ≤ 'h'

/-- Whether a character is a rank digit. -/
def isRank (c : Char) : Bool := '1' ≤ c && c ≤ '8'

/-- Match an optional character class: the ways to go on, taking it first. -/
def optional (p : Char → Bool) (cs : List Char) : List (List Char × List Char) :=
  match cs with
  | c :: rest => if p c then [([c], rest), ([], cs)] else [([], cs)]
  | [] => [([], cs)]

/-- The move shape `[NBKRQ]?[a-h]?[1-8]?[-x]?[a-h][1-8](=?[nbrqkNBRQK])?` at the front, as the
matched characters and the rest. -/
def matchMove (cs : List Char) : Option (List Char × List Char) :=
  let steps := [fun c => "NBKRQ".contains c, isFile, isRank, fun c => c == '-' || c == 'x']
  let starts := steps.foldl
    (fun (acc : List (List Char × List Char)) p =>
      acc.flatMap fun (got, rest) => (optional p rest).map fun (more, rest') => (got ++ more, rest'))
    [([], cs)]
  let withTarget := starts.filterMap fun (got, rest) =>
    match rest with
    | f :: r :: rest' => if isFile f && isRank r then some (got ++ [f, r], rest') else none
    | _ => none
  match withTarget.head? with
  | none => none
  | some (got, rest) =>
    let isRole (c : Char) := "nbrqkNBRQK".contains c
    match rest with
    | '=' :: c :: rest' => if isRole c then some (got ++ ['=', c], rest')
      else some (got, rest)
    | c :: rest' => if isRole c then some (got ++ [c], rest') else some (got, rest)
    | [] => some (got, rest)

/-- Match a fixed text at the front. -/
def matchText (t : String) (cs : List Char) : Option (List Char × List Char) :=
  let ts := t.toList
  if ts.isPrefixOf cs then some (ts, cs.drop ts.length) else none

/-- The drop shape `[PNBRQK]?@[a-h][1-8]`. -/
def matchDrop (cs : List Char) : Option (List Char × List Char) :=
  let attempt (got : List Char) (rest : List Char) : Option (List Char × List Char) :=
    match rest with
    | '@' :: f :: r :: rest' => if isFile f && isRank r then some (got ++ ['@', f, r], rest') else none
    | _ => none
  match cs with
  | c :: rest => if "PNBRQK".contains c then (attempt [c] rest).orElse fun _ => attempt [] cs
    else attempt [] cs
  | [] => none

/-- The first alternative that matches. -/
def firstOf : List (Option (List Char × List Char)) → Option (List Char × List Char)
  | [] => none
  | some r :: _ => some r
  | none :: rest => firstOf rest

/-- The token at the front of a line, if one starts exactly there. -/
def tokenAt (cs : List Char) : Option (Token × List Char) :=
  let moveLike := firstOf [matchMove cs, matchDrop cs, matchText "--" cs, matchText "Z0" cs,
    matchText "0000" cs, matchText "@@@@" cs, matchText "O-O-O" cs, matchText "O-O" cs,
    matchText "0-0-0" cs, matchText "0-0" cs]
  match moveLike with
  | some (got, rest) => some (.move (String.ofList got), rest)
  | none =>
    match cs with
    | '\x7b' :: rest => some (.braceComment rest, [])
    | ';' :: _ => some (.lineComment, [])
    | '$' :: rest =>
      let ds := rest.takeWhile Char.isDigit
      if ds.isEmpty then none else some (.nag (String.ofList ds), rest.drop ds.length)
    | '(' :: rest => some (.openVariation, rest)
    | ')' :: rest => some (.closeVariation, rest)
    | _ =>
      match firstOf [matchText "*" cs, matchText "1-0" cs, matchText "0-1" cs,
          matchText "1/2-1/2" cs] with
      | some (got, rest) => some (.result (String.ofList got), rest)
      | none =>
        let isMark (c : Char) := c == '?' || c == '!'
        match cs with
        | a :: b :: rest => if isMark a then
            (if isMark b then some (.mark (String.ofList [a, b]), rest)
             else some (.mark (String.singleton a), b :: rest))
          else none
        | [a] => if isMark a then some (.mark (String.singleton a), []) else none
        | [] => none

/-- The next token of a line, skipping characters where none starts, with what follows it. -/
def nextToken : List Char → Option (Token × List Char)
  | [] => none
  | c :: rest =>
    match tokenAt (c :: rest) with
    | some r => some r
    | none => nextToken rest

/-- Every token of a line; a brace or semicolon comment ends the list. -/
def tokens (cs : List Char) : List Token :=
  go cs.length cs
where
  /-- At most one token per character. -/
  go : Nat → List Char → List Token
    | 0, _ => []
    | fuel + 1, cs =>
      match nextToken cs with
      | none => []
      | some (t, rest) => t :: go fuel rest

end Pgn
end Tactician
