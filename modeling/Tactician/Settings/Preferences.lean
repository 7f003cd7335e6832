import Tactician.Settings.Basic
import Tactician.Data.Json
import Tactician.Text.Case

/-!
# Preference blobs

Preferences are a loosely typed record of settings, versioned.  Version 1 named its keys in
camel case; version 2 uses the settings' own names.  Migration renames the keys of a version-1
blob (keeping a current-name value when both spellings are present) and marks it version 2; a
blob of version 2 or later is kept as it is.  Merging migrates both sides and lets each non-blank
patch value win.

Reading a blob into settings: a blank value (null or an all-blank text) means the default, or
"no bound" for the five bound fields; a number may arrive as text, and anything a decimal reader
accepts is truncated toward zero; infinities, NaN and unreadable values count as blank; booleans
accept `true/1/yes/on` and `false/0/no/off` in any case.
-/

namespace Tactician
namespace Settings

/-- The current version of preference blobs. -/
def currentVersion : Int := 2

/-- The version-1 names of the renamed settings. -/
def legacyNames : List (String × String) :=
  [("puzzleMode", "puzzle_mode"), ("movetimeMs", "movetime_ms"),
   ("maxPuzzlesPerGame", "max_puzzles_per_game"), ("blunderSwingCp", "blunder_swing_cp"),
   ("missedWinSwingCp", "missed_win_swing_cp"), ("missedTacticSwingCp", "missed_tactic_swing_cp"),
   ("winningThresholdCp", "winning_threshold_cp"), ("openingSkipPlies", "opening_skip_plies"),
   ("skipTrivialEndgames", "skip_trivial_endgames"), ("minNonKingPieces", "min_non_king_pieces"),
   ("minPvMoves", "min_pv_moves"), ("cooldownPliesAfterPuzzle", "cooldown_plies"),
   ("evalBandMinCp", "eval_band_min_cp"), ("evalBandMaxCp", "eval_band_max_cp"),
   ("requireTactical", "require_tactical"), ("tacticalLookaheadPlies", "tactical_lookahead_plies"),
   ("confirmMovetimeMs", "confirm_movetime_ms"), ("uniquenessMarginCp", "uniqueness_margin_cp")]

/-- Whether a value is blank: null, or a text of blanks only. -/
def isBlank : Value → Bool
  | .null => true
  | .str s => Text.isAllBlank s
  | _ => false

/-- A loosely given integer: an integer as it is, a double or a decimal text (trimmed of every
blank first) truncated toward zero; blank values, booleans, infinities, NaN and anything
unreadable give none. -/
def looseInt (v : Value) : Option Int :=
  if isBlank v then none else
  match v with
  | .bool _ => none
  | .int i => some i
  | .float f => Number.truncate f
  | .str s => (Text.parseFloat? (Text.trim s)).bind Number.truncate
  | _ => none

/-- A loosely given boolean, or the default. -/
def looseBool (v : Value) (default : Bool) : Bool :=
  if isBlank v then default else
  match v with
  | .bool b => b
  | .str s => word (Text.toLower (Text.trim s))
  | .int i => word (toString i)
  | _ => default
where
  /-- Read a truth word. -/
  word (t : String) : Bool :=
    if ["true", "1", "yes", "on"].contains t then true
    else if ["false", "0", "no", "off"].contains t then false
    else default

/-- A loosely given mode, or the default. -/
def looseMode (v : Value) (default : PuzzleMode) : PuzzleMode :=
  if isBlank v then default else
  match v with
  | .str s => (PuzzleMode.ofTag? (Text.trim s)).getD default
  | _ => default

/-- The version a blob declares: its `version` read as an integer, where a missing, blank,
unreadable or zero one means version 1. -/
def blobVersion (raw : List (String × Value)) : Int :=
  ((looseInt ((raw.find? (·.1 == "version")).map (·.2) |>.getD .null)).filter (· != 0)).getD 1

/-- Carry one field of a version-1 blob over: the version is dropped, a version-1 name is renamed
unless its new name is already there, and any other field is written as it is. -/
def carryField (acc : List (String × Value)) (field : String × Value) : List (String × Value) :=
  if field.1 == "version" then acc else
  match legacyNames.find? (·.1 == field.1) with
  | some (_, newKey) => if acc.any (·.1 == newKey) then acc else Value.setField acc newKey field.2
  | none => Value.setField acc field.1 field.2

/-- Upgrade a blob to the current version. -/
def migrate (raw : List (String × Value)) : List (String × Value) :=
  if blobVersion raw ≥ currentVersion then raw
  else Value.setField (raw.foldl carryField []) "version" (.int currentVersion)

/-- Write one field of a patch over a blob, unless it is the version or blank. -/
def patchField (acc : List (String × Value)) (field : String × Value) : List (String × Value) :=
  if field.1 == "version" || isBlank field.2 then acc else Value.setField acc field.1 field.2

/-- Merge a patch over a base; only non-blank patch values win. -/
def merge (base patch : List (String × Value)) : List (String × Value) :=
  Value.setField ((migrate patch).foldl patchField (migrate base)) "version" (.int currentVersion)

/-- The settings' names, in their order. -/
def fieldNames : List String :=
  ["puzzle_mode", "movetime_ms", "max_puzzles_per_game", "blunder_swing_cp", "missed_win_swing_cp",
   "missed_tactic_swing_cp", "winning_threshold_cp", "opening_skip_plies", "skip_trivial_endgames",
   "min_non_king_pieces", "min_pv_moves", "require_tactical", "tactical_lookahead_plies",
   "eval_band_min_cp", "eval_band_max_cp", "uniqueness_margin_cp", "confirm_movetime_ms",
   "cooldown_plies", "skip_punished_blunders", "multipv", "max_line_plies", "confirm_workers",
   "mate_score_cp", "best_swing_cp", "inaccuracy_swing_cp", "medium_swing_cp", "big_swing_cp"]

end Settings

namespace Config

open Settings

/-- Read settings from a blob (of any version), each setting from its own value alone. -/
def read (raw : List (String × Value)) : Config :=
  let prefs := migrate raw
  let get (k : String) : Value := ((prefs.find? (·.1 == k)).map (·.2)).getD .null
  let int (k : String) (d : Int) : Int := (looseInt (get k)).getD d
  let d : Config := {}
  { puzzleMode := looseMode (get "puzzle_mode") d.puzzleMode
    movetimeMs := int "movetime_ms" d.movetimeMs
    maxPuzzlesPerGame := looseInt (get "max_puzzles_per_game")
    blunderSwingCp := int "blunder_swing_cp" d.blunderSwingCp
    missedWinSwingCp := int "missed_win_swing_cp" d.missedWinSwingCp
    missedTacticSwingCp := int "missed_tactic_swing_cp" d.missedTacticSwingCp
    winningThresholdCp := int "winning_threshold_cp" d.winningThresholdCp
    openingSkipPlies := int "opening_skip_plies" d.openingSkipPlies
    skipTrivialEndgames := looseBool (get "skip_trivial_endgames") d.skipTrivialEndgames
    minNonKingPieces := int "min_non_king_pieces" d.minNonKingPieces
    minPvMoves := int "min_pv_moves" d.minPvMoves
    requireTactical := looseBool (get "require_tactical") d.requireTactical
    tacticalLookaheadPlies := int "tactical_lookahead_plies" d.tacticalLookaheadPlies
    evalBandMinCp := looseInt (get "eval_band_min_cp")
    evalBandMaxCp := looseInt (get "eval_band_max_cp")
    uniquenessMarginCp := looseInt (get "uniqueness_margin_cp")
    confirmMovetimeMs := looseInt (get "confirm_movetime_ms")
    cooldownPlies := int "cooldown_plies" d.cooldownPlies
    skipPunishedBlunders := looseBool (get "skip_punished_blunders") d.skipPunishedBlunders
    multipv := int "multipv" d.multipv
    maxLinePlies := int "max_line_plies" d.maxLinePlies
    confirmWorkers := int "confirm_workers" d.confirmWorkers
    mateScoreCp := int "mate_score_cp" d.mateScoreCp
    bestSwingCp := int "best_swing_cp" d.bestSwingCp
    inaccuracySwingCp := int "inaccuracy_swing_cp" d.inaccuracySwingCp
    mediumSwingCp := int "medium_swing_cp" d.mediumSwingCp
    bigSwingCp := int "big_swing_cp" d.bigSwingCp }

/-- Read settings from a blob (of any version) and check them. -/
def ofPreferences (raw : List (String × Value)) : Except Error Config :=
  validate (read raw)

/-- Settings as a current-version blob: `version` first, then every setting in order, an absent
bound written as the empty text. -/
def toPreferences (c : Config) : List (String × Value) :=
  let opt (o : Option Int) : Value := (o.map .int).getD (.str "")
  [("version", .int currentVersion), ("puzzle_mode", .str c.puzzleMode.tag),
   ("movetime_ms", .int c.movetimeMs), ("max_puzzles_per_game", opt c.maxPuzzlesPerGame),
   ("blunder_swing_cp", .int c.blunderSwingCp), ("missed_win_swing_cp", .int c.missedWinSwingCp),
   ("missed_tactic_swing_cp", .int c.missedTacticSwingCp),
   ("winning_threshold_cp", .int c.winningThresholdCp),
   ("opening_skip_plies", .int c.openingSkipPlies),
   ("skip_trivial_endgames", .bool c.skipTrivialEndgames),
   ("min_non_king_pieces", .int c.minNonKingPieces), ("min_pv_moves", .int c.minPvMoves),
   ("require_tactical", .bool c.requireTactical),
   ("tactical_lookahead_plies", .int c.tacticalLookaheadPlies),
   ("eval_band_min_cp", opt c.evalBandMinCp), ("eval_band_max_cp", opt c.evalBandMaxCp),
   ("uniqueness_margin_cp", opt c.uniquenessMarginCp),
   ("confirm_movetime_ms", opt c.confirmMovetimeMs), ("cooldown_plies", .int c.cooldownPlies),
   ("skip_punished_blunders", .bool c.skipPunishedBlunders), ("multipv", .int c.multipv),
   ("max_line_plies", .int c.maxLinePlies), ("confirm_workers", .int c.confirmWorkers),
   ("mate_score_cp", .int c.mateScoreCp), ("best_swing_cp", .int c.bestSwingCp),
   ("inaccuracy_swing_cp", .int c.inaccuracySwingCp), ("medium_swing_cp", .int c.mediumSwingCp),
   ("big_swing_cp", .int c.bigSwingCp)]

/-- Read settings from the text of a preference file: unreadable text, or text that is not a
record, gives the defaults. -/
def ofFileText (text : Option String) : Except Error Config :=
  match text with
  | none => .ok {}
  | some t =>
    match Json.parse? t with
    | some (.obj fs) => ofPreferences fs
    | _ => .ok {}

end Config

end Tactician
