import Tactician.Pgn.Token
import Tactician.Chess.Outcome

/-!
# Reading a game record

The first game of a PGN text is read line by line.  Leading blank and `%`/`;` comment lines are
skipped; tag lines `[Name "value"]` follow, with at most one blank line between them, malformed
tag lines being ignored; one blank line may separate the tags from the movetext.  The movetext runs
until a blank line or the end of the text.  A move that cannot be read is recorded as an error and
the rest of its variation is skipped.  Only the moves of the main line are kept.

The tags always include the seven-tag roster (`Event`, `Site`, `Date`, `Round`, `White`, `Black`,
`Result`, with `?`, `????.??.??` and `*` until given); other tags follow in the order first given.
A result token fills the `Result` tag while it is still `*`.
-/

namespace Tactician
namespace Pgn

open Chess

/-- The seven tags every game has, in their fixed order, with their values until given. -/
def rosterDefaults : List (String × String) :=
  [("Event", "?"), ("Site", "?"), ("Date", "????.??.??"), ("Round", "?"), ("White", "?"),
   ("Black", "?"), ("Result", "*")]

/-- The tags of a game: the roster in its order, then the others in the order first given. -/
structure Tags where
  /-- The seven roster tags with their values. -/
  roster : List (String × String) := rosterDefaults
  /-- The other tags. -/
  others : List (String × String) := []
  deriving Inhabited

namespace Tags

/-- Replace the value of a key in an association list, or add it at the end. -/
def setIn (kvs : List (String × String)) (k v : String) : List (String × String) :=
  if kvs.any (·.1 == k) then kvs.map fun kv => if kv.1 == k then (k, v) else kv
  else kvs ++ [(k, v)]

/-- Set a tag. -/
def set (t : Tags) (k v : String) : Tags :=
  if rosterDefaults.any (·.1 == k) then { t with roster := setIn t.roster k v }
  else { t with others := setIn t.others k v }

/-- The value of a tag. -/
def get? (t : Tags) (k : String) : Option String :=
  ((t.roster ++ t.others).find? (·.1 == k)).map (·.2)

/-- All tags in order. -/
def toList (t : Tags) : List (String × String) := t.roster ++ t.others

end Tags

/-- Why a game record cannot be replayed. -/
inductive ReadError where
  /-- The `FEN` tag does not describe a position. -/
  | fen (e : FenError)
  /-- A movetext move cannot be read. -/
  | san (e : SanError)
  deriving Repr

/-- The text of the error. -/
def ReadError.message : ReadError → String
  | .fen e => e.message
  | .san e => e.message

/-- A game as read: its tags, its starting position, its main line and the errors met. -/
structure Record where
  /-- The tags. -/
  tags : Tags
  /-- The starting position, when the `FEN` tag (if any) is valid. -/
  start : Option Position
  /-- The moves of the main line. -/
  mainline : List Move
  /-- The errors met, in order. -/
  errors : List ReadError
  deriving Inhabited

/-- Split a text into lines, each keeping its line feed. -/
def lines (s : String) : List String :=
  let parts := s.splitOn "\n"
  let n := parts.length
  (parts.zipIdx.filterMap fun (p, i) =>
    if i + 1 < n then some (p ++ "\n") else if p.isEmpty then none else some p)

/-- Whether a line is blank: non-empty and all white space. -/
def isBlankLine (l : String) : Bool := !l.isEmpty && Text.isAllBlank l

/-- Whether a line is a `%` or `;` comment line. -/
def isCommentLine (l : String) : Bool := l.startsWith "%" || l.startsWith ";"

/-- Read a tag line `[Name "value"]`: the name starts with a letter or digit and continues with
letters, digits and `_+#=:-`; the value runs to the last `"]` that only blanks follow, and holds
no carriage return. -/
def readTag? (l : String) : Option (String × String) :=
  match l.toList with
  | '[' :: rest =>
    let isNameChar (c : Char) := (c.isAlphanum && c.toNat < 128) || "_+#=:-".contains c
    match rest with
    | c :: _ =>
      if !(c.isAlphanum && c.toNat < 128) then none else
      let name := rest.takeWhile isNameChar
      let afterName := rest.drop name.length
      let gap := afterName.takeWhile Text.isBlank
      if gap.isEmpty then none else
      match afterName.drop gap.length with
      | '"' :: body =>
        -- the value ends at the last `"]` followed only by blanks
        let n := body.length
        let ends := (List.range n).reverse.filter fun i =>
          body[i]? == some '"' && body[i + 1]? == some ']' && (body.drop (i + 2)).all Text.isBlank
        match ends.head? with
        | some i =>
          let value := body.take i
          if value.contains '\r' then none else some (String.ofList name, String.ofList value)
        | none => none
      | _ => none
    | [] => none
  | _ => none

/-- A board in the stack of lines being read: the current position and the earlier ones of
its line, most recent first. -/
structure Cursor where
  /-- The position reached. -/
  position : Position
  /-- The positions before, most recent first. -/
  earlier : List Position

/-- The state of the movetext reader. -/
structure MoveState where
  /-- The boards of the main line and of the open variations, innermost first. -/
  stack : List Cursor
  /-- Main line moves so far, most recent first. -/
  mainline : List Move
  /-- Errors so far, most recent first. -/
  errors : List ReadError
  /-- Tags, for the result. -/
  tags : Tags
  /-- How many variation levels are being skipped after an error. -/
  skip : Nat

namespace MoveState

/-- Read and play a move on the innermost board. -/
def playText (st : MoveState) (t : String) : MoveState :=
  match st.stack with
  | [] => st
  | top :: below =>
    match top.position.parseSan t with
    | .error e => { st with errors := .san e :: st.errors, skip := 1 }
    | .ok m =>
      let top' : Cursor := ⟨top.position.play m, top.position :: top.earlier⟩
      { st with stack := top' :: below,
                mainline := if below.isEmpty then m :: st.mainline else st.mainline }

/-- Handle one token. -/
def step (st : MoveState) : Token → MoveState
  | .openVariation =>
    if st.skip > 0 then { st with skip := st.skip + 1 }
    else match st.stack with
      | top :: _ =>
        match top.earlier with
        | prev :: older => { st with stack := ⟨prev, older⟩ :: st.stack }
        | [] => st
      | [] => st
  | .closeVariation =>
    let st := if st.skip > 0 then { st with skip := st.skip - 1 } else st
    if st.stack.length > 1 then { st with stack := st.stack.drop 1 } else st
  | .braceComment _ | .lineComment | .nag _ | .mark _ => st
  | .result r =>
    if st.skip > 0 then st
    else if st.stack.length == 1 then
      if (st.tags.get? "Result").getD "*" == "*" then { st with tags := st.tags.set "Result" r }
      else st
    else st.playText r
  | .move t => if st.skip > 0 then st else st.playText t

end MoveState

/-- Read the movetext lines, returning the state and the lines after the game.  `rest` is the
unread part of the current line; `fresh` says whether it is a whole line, to which the blank-line
and comment-line rules apply.  A blank line ends the game and is consumed with it. -/
def readMoves (st : MoveState) (rest : List Char) (fresh : Bool) (later : List String) :
    Nat → MoveState × List String
  | 0 => (st, later)
  | fuel + 1 =>
    let nextLine : MoveState × List String :=
      match later with
      | l :: ls => readMoves st l.toList true ls fuel
      | [] => (st, [])
    if fresh && (isCommentLine (String.ofList rest)) then nextLine
    else if fresh && isBlankLine (String.ofList rest) then (st, later)
    else match Pgn.nextToken rest with
      | none => nextLine
      | some (.lineComment, _) => nextLine
      | some (.braceComment after, _) =>
        if after.contains '\x7d' then
          readMoves st (after.dropWhile (· != '\x7d')) false later fuel
        else
          -- the comment continues on the following lines up to the first closing brace
          match later.dropWhile (fun l => !l.contains '\x7d') with
          | l :: ls => readMoves st (l.toList.dropWhile (· != '\x7d')) false ls fuel
          | [] => (st, [])
      | some (t, after) => readMoves (st.step t) after false later fuel

/-- Read the next game from a list of lines: the record and the lines after it; `none` when only
blank and comment lines are left. -/
def readNext? (ls : List String) : Option (Record × List String) :=
  let ls := match ls with
    | first :: more => (String.ofList (first.toList.dropWhile (·.toNat == 0xFEFF))) :: more
    | [] => []
  let ls := ls.dropWhile fun l => isBlankLine l || isCommentLine l
  match ls with
  | [] => none
  | _ =>
    let (tags, body) := readTags {} ls false ls.length
    let body := match body with
      | l :: more => if isBlankLine l then more else body
      | [] => []
    let total := (body.map String.length).foldr (· + ·) 0 + body.length + 1
    let fenText := (tags.get? "FEN").getD startingFen
    match Position.ofFen fenText with
    | .error e =>
      -- the movetext is passed over without being played
      let idle : MoveState := ⟨[], [], [], tags, total + 1⟩
      let after := match body with
        | l :: more => (readMoves idle l.toList true more total).2
        | [] => []
      some (⟨tags, none, [], [.fen e]⟩, after)
    | .ok start =>
      let st : MoveState := ⟨[⟨start, []⟩], [], [], tags, 0⟩
      let (st, after) := match body with
        | l :: more => readMoves st l.toList true more total
        | [] => (st, [])
      some (⟨st.tags, some start, st.mainline.reverse, st.errors.reverse⟩, after)
where
  /-- Read tag lines; `blank` says whether a blank line was just skipped. -/
  readTags (tags : Tags) (ls : List String) (blank : Bool) : Nat → Tags × List String
    | 0 => (tags, ls)
    | fuel + 1 =>
      match ls with
      | [] => (tags, [])
      | l :: more =>
        if isCommentLine l then readTags tags more blank fuel
        else if !blank && isBlankLine l then readTags tags more true fuel
        else if !l.startsWith "[" then (tags, ls)
        else match readTag? l with
          | some (k, v) => readTags (tags.set k v) more false fuel
          | none => readTags tags more false fuel

/-- Read the first game of a PGN text; `none` when the text holds no game at all. -/
def read? (text : String) : Option Record := (readNext? (lines text)).map (·.1)

/-- Read every game of a PGN text, in order. -/
def readAll (text : String) : List Record :=
  let ls := lines text
  go ls (ls.length + 1)
where
  /-- Each game takes at least one line, so `fuel` counts the games still possible. -/
  go (ls : List String) : Nat → List Record
    | 0 => []
    | fuel + 1 =>
      match readNext? ls with
      | none => []
      | some (r, rest) => r :: go rest fuel

end Pgn
end Tactician
