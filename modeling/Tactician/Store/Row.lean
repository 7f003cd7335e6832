import Tactician.Analysis.Report
import Tactician.Training.Attempt
import Tactician.Data.Show

/-!
# Puzzle rows

Puzzles reach the store as loosely shaped records, from the miner or from a client, with field
names in snake case or camel case.  A record is accepted when its ply is a finite non-negative
number (not a boolean), its position and best move are non-blank texts, and its line and tags are
lists of texts.

Reading a batch can break off as a whole: a ply given as an integer too large for a double cannot
be checked, and alternates given as a scalar other than a false one cannot be read as moves.

An accepted record becomes a row.  Older clients put pseudo-tags into the tag list (the framing,
and `kind:`, `eco:`, `opening:`, `openingVar:` prefixes); these are stripped, and what they carried
fills in the framing, bucket and opening when the record does not say.  The row's tags end with
the `kind:<framing>` marker.
-/

namespace Tactician
namespace Store

open Analysis

/-- The camel-case spelling of the record fields that have one. -/
def fieldAliases : List (String × String) :=
  [("source_ply", "sourcePly"), ("best_move_uci", "bestMoveUci"),
   ("best_line_uci", "bestLineUci"), ("accepted_moves_uci", "acceptedMovesUci")]

/-- A record field under its own name when present, else under its alias. -/
def recordField (r : Value) (k : String) : Value :=
  match r.get? k with
  | some v => v
  | none => r.field (((fieldAliases.find? (·.1 == k)).map (·.2)).getD k)

/-- Whether a value is a list of texts. -/
def isTextList (v : Value) : Bool :=
  match v with
  | .arr xs => xs.all fun x => (x.str?).isSome
  | _ => false

/-- Whether a value is a non-blank text. -/
def isFilledText (v : Value) : Bool :=
  match v with
  | .str s => !Text.isAllBlank s
  | _ => false

/-- A fault met while reading a loose value; it breaks off the whole batch of records, or the
attempt whose time it is. -/
inductive RecordFault where
  /-- An integer too large to be compared as a double. -/
  | floatOverflow
  /-- A value that is no collection where moves were expected, by the name of its type. -/
  | notIterable (typeName : String)
  deriving DecidableEq, Repr

/-- The text of a fault. -/
def RecordFault.message : RecordFault → String
  | .floatOverflow => "int too large to convert to float"
  | .notIterable t => "Value after * must be an iterable, not " ++ t

/-- The least magnitude of an integer that rounds past the largest double. -/
def doubleOverflow : Nat := Nat.pow 2 1024 - Nat.pow 2 970

/-- Whether a value is a finite number that is not negative; an integer too large for a double
cannot be checked. -/
def isPlyNumber (v : Value) : Except RecordFault Bool :=
  match v with
  | .int i => if i.natAbs < doubleOverflow then .ok (0 ≤ i) else .error .floatOverflow
  | .float f => .ok ((Number.decode f).isSome && !(f < 0.0))
  | _ => .ok false

/-- Whether a record has the shape of a puzzle. -/
def isPuzzleRecord (r : Value) : Except RecordFault Bool :=
  match r with
  | .obj _ => do
    let ply ← isPlyNumber (recordField r "source_ply")
    return ply && isFilledText (recordField r "fen") &&
      isFilledText (recordField r "best_move_uci") && isTextList (recordField r "best_line_uci") &&
      isTextList (r.field "tags")
  | _ => .ok false

/-- Prefixes of pseudo-tags, with the name of what they carry. -/
def legacyPrefixes : List (String × String) :=
  [("kind:", "kind"), ("eco:", "eco"), ("opening:", "opening"), ("openingVar:", "openingVar")]

/-- Strip pseudo-tags: the clean tags (trimmed, non-empty, distinct) and, per carried name, the
first value carried. -/
def stripLegacyTags (tags : List String) : List String × List (String × String) :=
  tags.foldl (fun (acc : List String × List (String × String)) raw =>
    let (clean, legacy) := acc
    let tag := Text.trim raw
    let remember (k v : String) := if legacy.any (·.1 == k) then legacy else legacy ++ [(k, v)]
    if tag.isEmpty then acc
    else if (PuzzleType.ofTag? tag).isSome then (clean, remember "type" tag)
    else match legacyPrefixes.find? fun (p, _) => tag.startsWith p with
      | some (p, k) => (clean, remember k (String.ofList (tag.toList.drop p.length)))
      | none => (if clean.contains tag then clean else clean ++ [tag], legacy)) ([], [])

/-- A severity given by name (`small`, `medium`, `big`, in any case and padding) or as 1 to 3. -/
def severityOf (v : Value) : Option Nat :=
  match v with
  | .str s =>
    match Text.toLower (Text.trim s) with
    | "small" => some 1
    | "medium" => some 2
    | "big" => some 3
    | _ => none
  | .int i => if 1 ≤ i && i ≤ 3 then some i.toNat else none
  | _ => none

/-- A score given as a record with integer `cp` and `mate` (others read as absent); none when
neither is there. -/
def scoreOf (v : Value) : Option Score :=
  match v with
  | .obj _ =>
    let cp := (v.field "cp").int?
    let mate := (v.field "mate").int?
    if cp.isNone && mate.isNone then none else some ⟨cp, mate⟩
  | _ => none

/-- The first truthy value, or null. -/
def firstTruthy (vs : List Value) : Value := (vs.find? Value.truthy).getD .null

/-- A row's opening as given: ECO code, name and variation (null when absent). -/
structure OpeningFields where
  /-- The ECO code. -/
  eco : Value := .null
  /-- The name. -/
  name : Value := .null
  /-- The variation. -/
  variation : Value := .null
  deriving Inhabited

/-- The opening of a record: its `opening` record, else its flat opening fields, completed from
the pseudo-tags. -/
def openingOf (r : Value) (legacy : List (String × String)) : OpeningFields :=
  let (eco, name, variation) := match r.field "opening" with
    | .obj fs =>
      let o := Value.obj fs
      (o.field "eco", o.field "name", o.field "variation")
    | _ =>
      (firstTruthy [r.field "opening_eco", r.field "openingEco"],
       firstTruthy [r.field "opening_name", r.field "openingName"],
       firstTruthy [r.field "opening_variation", r.field "openingVariation"])
  let carried (k : String) : Value := .ofOptStr ((legacy.find? (·.1 == k)).map (·.2))
  let eco := firstTruthy [eco, carried "eco"]
  let name := firstTruthy [name, carried "opening"]
  let variation := firstTruthy [variation, carried "openingVar"]
  ⟨eco, name, variation⟩

/-- A normalised puzzle, ready for the store. -/
structure PuzzleRow where
  /-- The ply of the position. -/
  sourcePly : Nat
  /-- The position, as FEN. -/
  fen : String
  /-- The framing. -/
  type : PuzzleType
  /-- The bucket. -/
  kind : PuzzleKind
  /-- The phase, if known. -/
  phase : Option GamePhase
  /-- The severity, if known. -/
  severity : Option Nat
  /-- The best move, normalised. -/
  bestMove : String
  /-- The accepted moves. -/
  acceptedMoves : List String
  /-- The solution line, normalised. -/
  bestLine : List String
  /-- The score, if known. -/
  score : Option Score
  /-- The tags, ending with the framing marker. -/
  tags : List String
  /-- The opening. -/
  opening : OpeningFields
  /-- The label, if any. -/
  label : Option String
  deriving Inhabited

/-- The integer part of a ply number, at least zero. -/
def plyOf (v : Value) : Nat :=
  match v with
  | .int i => i.toNat
  | .float f => ((Number.truncate f).getD 0).toNat
  | _ => 0

/-- Texts of a loosely given move list: a list's texts (other items are skipped), a text's
characters, a record's field names; anything else gives none. -/
def looseMoves (v : Value) : List String :=
  match v with
  | .arr xs => xs.filterMap Value.str?
  | .str s => s.toList.map String.singleton
  | .obj fs => fs.map (·.1)
  | _ => []

/-- The alternates of a record as moves: none for a false value, else the items of a list, the
characters of a text or the field names of a record; any other value is no collection. -/
def alternatesOf (v : Value) : Except RecordFault (List String) :=
  if !v.truthy then .ok []
  else match v with
    | .arr _ | .str _ | .obj _ => .ok (looseMoves v)
    | other => .error (.notIterable other.typeName)

/-- Normalise an accepted record into a row. -/
def normalizeRecord (r : Value) : Except RecordFault PuzzleRow := do
  let alternates ← alternatesOf (recordField r "accepted_moves_uci")
  let (tags, legacy) := stripLegacyTags (looseMoves (r.field "tags"))
  let carried (k : String) : String := ((legacy.find? (·.1 == k)).map (·.2)).getD ""
  let type := (((r.field "type").str?).bind PuzzleType.ofTag?).getD
    ((PuzzleType.ofTag? (carried "type")).getD .avoidBlunder)
  let kind := (((r.field "kind").str?).bind PuzzleKind.ofTag?).getD
    ((PuzzleKind.ofTag? (carried "kind")).getD .blunder)
  let bestRaw := ((recordField r "best_move_uci").str?).getD ""
  let label := match r.field "label" with
    | .str s => if Text.isAllBlank s then none else some s
    | _ => none
  return {
    sourcePly := plyOf (recordField r "source_ply"),
    fen := Text.trim (((recordField r "fen").str?).getD ""),
    type := type, kind := kind,
    phase := ((r.field "phase").str?).bind GamePhase.ofTag?,
    severity := severityOf (r.field "severity"),
    bestMove := Training.normalizeMove bestRaw,
    acceptedMoves := Training.acceptedMoveSet bestRaw alternates,
    bestLine := (looseMoves (recordField r "best_line_uci")).map Training.normalizeMove,
    score := scoreOf (r.field "score"),
    tags := tags.take (maxTags - 1) ++ ["kind:" ++ type.tag],
    opening := openingOf r legacy, label := label }

/-- The rows of the well-formed records of a batch, in order; a fault in any record breaks off
the batch. -/
def acceptedRows : List Value → Except RecordFault (List PuzzleRow)
  | [] => .ok []
  | r :: rest => do
    let keep ← isPuzzleRecord r
    let row ← if keep then some <$> normalizeRecord r else pure none
    let rows ← acceptedRows rest
    return row.toList ++ rows

/-- The record of a row. -/
def PuzzleRow.toValue (row : PuzzleRow) : Value :=
  .obj [("source_ply", .int row.sourcePly), ("fen", .str row.fen), ("type", .str row.type.tag),
        ("kind", .str row.kind.tag), ("phase", .ofOptStr (row.phase.map GamePhase.tag)),
        ("severity", .ofOptInt (row.severity.map Int.ofNat)), ("best_move_uci", .str row.bestMove),
        ("accepted_moves", .ofStrs row.acceptedMoves), ("best_line", .ofStrs row.bestLine),
        ("score", match row.score with
          | some s => s.toValue
          | none => .null),
        ("tags", .ofStrs row.tags), ("opening_eco", row.opening.eco),
        ("opening_name", row.opening.name), ("opening_variation", row.opening.variation),
        ("label", .ofOptStr row.label)]

end Store
end Tactician
