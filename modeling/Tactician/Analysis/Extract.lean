import Tactician.Analysis.Puzzle
import Tactician.Analysis.Evaluator
import Tactician.Data.Prefix

/-!
# Mining a game

The pipeline from a PGN text to ranked puzzles:

1. replay the game and attribute its opening and the user's side;
2. gather an evaluation for every position that does not end the game: supplied ones are used
   when their first four FEN fields match the position, the rest are asked of the evaluator (a
   failed position is left empty; an unavailable engine, all requests failing, or no evaluation at
   all stops the analysis);
3. classify every move;
4. frame candidates from each classified move past the opening window: avoiding the move (when
   the engine preferred another) and punishing it (from the next position, unless the game found
   the engine's reply), each only if the swing reaches a bucket and the puzzle mode and the user's
   side allow it;
5. filter them: the start score within the evaluation band, a clear best line when a margin is
   set, a forcing move early in the line when required, enough pieces on the board, a line of at
   least the minimum length;
6. confirm them with a deeper search when enabled (a changed best move or a failed filter drops a
   candidate; a failed search keeps it as it was);
7. apply the cooldown per framing, keep one candidate per ply and framing and per position and
   framing, build the puzzles, rank them by severity, ply, framing and swing, and cap them.
-/

namespace Tactician
namespace Analysis

open Chess Tactics Openings

/-- Why an analysis stops. -/
inductive Failure where
  /-- The PGN gives no game. -/
  | game (e : Pgn.GameError)
  /-- No position has an evaluation. -/
  | noEvaluations
  /-- Every requested evaluation failed. -/
  | allFailed (count : Nat)
  /-- The engine cannot be used. -/
  | unavailable (message : String)
  /-- A surviving puzzle has an empty solution line. -/
  | emptyLine
  /-- The opening book could not be walked for the game. -/
  | book (f : Openings.BookFault)
  deriving Repr

/-- The text of the failure. -/
def Failure.message : Failure → String
  | .game e => e.message
  | .noEvaluations => "Could not analyze game: no evaluations available"
  | .allFailed n => "Could not analyze game: all " ++ toString n ++ " evaluation(s) failed"
  | .unavailable m => "Could not analyze game: " ++ m
  | .emptyLine => "list index out of range"
  | .book f => f.message

/-- Whether two FEN texts agree on their first four fields. -/
def samePosition (a b : String) : Bool := (Text.words a).take 4 == (Text.words b).take 4

/-- The number of lines asked for: at least two when a uniqueness margin is set. -/
def searchLines (c : Config) : Int :=
  if c.uniquenessMarginCp.isSome then max 2 c.multipv else c.multipv

/-- The plies whose position does not end the game, in order. -/
def livePlies (g : Pgn.Game) : List Nat :=
  (List.range (g.plyCount + 1)).filter fun ply => !g.terminalPlies.contains ply

/-- The supplied evaluation of a ply, when it is one of the ply's position. -/
def suppliedAt (g : Pgn.Game) (supplied : Evaluations) (ply : Nat) : Option Evaluation :=
  match supplied.at? ply with
  | some e => if samePosition e.fen (g.fens.getD ply "") then some e else none
  | none => none

/-- The plies left to ask an evaluator about: those with no supplied evaluation of their own. -/
def requestedPlies (g : Pgn.Game) (supplied : Evaluations) : List Nat :=
  (livePlies g).filter fun ply => (suppliedAt g supplied ply).isNone

/-- Ask the evaluator about each ply in turn.  A position that could not be evaluated is answered
with nothing; an unavailable engine stops the asking with its message. -/
def askEach {σ : Type} (e : Evaluator σ) (g : Pgn.Game) (movetime lines : Int) :
    List Nat → StateM σ (Except String Evaluations)
  | [] => pure (.ok [])
  | ply :: rest => do
    let reply ← e.analyse (g.fens.getD ply "") movetime lines
    if let .error (.unavailable m) := reply then return .error m
    let answers ← askEach e g movetime lines rest
    return answers.map ((ply, reply.toOption) :: ·)

/-- Evaluations for every position that does not end the game. -/
def gatherEvaluations {σ : Type} (g : Pgn.Game) (c : Config) (ev : Option (Evaluator σ))
    (supplied : Evaluations) : StateM σ (Except Failure Evaluations) := do
  let requested := requestedPlies g supplied
  let known : Evaluations :=
    (livePlies g).filterMap fun ply => (suppliedAt g supplied ply).map fun e => (ply, some e)
  if requested.isEmpty then return .ok known
  match ev with
  | none =>
    if known.isEmpty then return .error .noEvaluations
    return .ok ((livePlies g).map fun ply => (ply, suppliedAt g supplied ply))
  | some e =>
    match ← askEach e g c.movetimeMs (searchLines c) requested with
    | .error m => return .error (.unavailable m)
    | .ok answers =>
      let failures := (answers.filter fun a => a.2.isNone).length
      if failures == requested.length then return .error (.allFailed failures)
      return .ok ((livePlies g).map fun ply =>
        (ply, (suppliedAt g supplied ply).or (answers.at? ply)))

/-- A framing that passed the mode gate. -/
structure Candidate where
  /-- The framing. -/
  type : PuzzleType
  /-- The ply of the position. -/
  sourcePly : Nat
  /-- The position, as FEN. -/
  fen : String
  /-- Its evaluation. -/
  evaluation : Evaluation
  /-- The swing of the move. -/
  swing : Int
  /-- The bucket. -/
  kind : PuzzleKind
  /-- The severity. -/
  severity : Nat
  /-- The fixed half of the swing: the mover's score after the move when avoiding, before it
  when punishing. -/
  referenceCp : Int
  deriving Inhabited

/-- The swing when the start position scores `start` for the solver. -/
def Candidate.swingAt (c : Candidate) (start : Int) : Int :=
  match c.type with
  | .avoidBlunder => start - c.referenceCp
  | .punishBlunder => c.referenceCp + start

/-- The avoiding framing of a classified move. -/
def avoidCandidate (p : ClassifiedPly) (es : Evaluations) (c : Config) : Option Candidate := do
  let e ← es.at? p.ply
  let best ← e.best?
  if best.move == p.moveUci then none
  let swing ← p.swing
  let after ← p.afterCp
  let kind ← classifyKind swing p.beforeCp c
  some ⟨.avoidBlunder, p.ply, p.fenBefore, e, swing, kind, severityForSwing swing c, after⟩

/-- The punishing framing of a classified move. -/
def punishCandidate (g : Pgn.Game) (p : ClassifiedPly) (es : Evaluations) (c : Config) :
    Option Candidate := do
  let start := p.ply + 1
  if g.terminalPlies.contains start then none
  let e ← es.at? start
  let best ← e.best?
  let swing ← p.swing
  let before ← p.beforeCp
  let kind ← classifyKind swing (positionCp (some e) c.mateScoreCp) c
  let reply := (g.moves[start]?).map Move.uci
  if c.skipPunishedBlunders && reply == some best.move then none
  some ⟨.punishBlunder, start, p.fenAfter, e, swing, kind, severityForSwing swing c, before⟩

/-- Whether a side name is the mover's. -/
def isSide (user : Option String) (mover : Color) (same : Bool) : Bool :=
  match user with
  | none => true
  | some u => (u == mover.name) == same

/-- Frame candidates from the classified moves, in move order. -/
def findCandidates (g : Pgn.Game) (cs : List ClassifiedPly) (es : Evaluations) (c : Config)
    (user : Option String) : List Candidate :=
  let wantAvoid := c.puzzleMode != .punishBlunder
  let wantPunish := c.puzzleMode != .avoidBlunder
  cs.flatMap fun p =>
    if (p.ply : Int) < c.openingSkipPlies || p.label == .unclassified then []
    else
      (if wantAvoid && isSide user p.mover true then (avoidCandidate p es c).toList else []) ++
      (if wantPunish && isSide user p.mover false then (punishCandidate g p es c).toList else [])

/-- The start score lies within the band. -/
def inBand (start : Option Int) (c : Config) : Bool :=
  match start with
  | none => false
  | some s => c.evalBandMinCp.all (s ≥ ·) && c.evalBandMaxCp.all (s ≤ ·)

/-- The best line stands out from the second by the margin, when one is set. -/
def isUnique (p : Position) (e : Evaluation) (c : Config) : Bool :=
  match c.uniquenessMarginCp with
  | none => true
  | some margin =>
    match e.second?, e.best? with
    | none, _ => p.legalMoves.length ≤ 1
    | some second, some best =>
      match best.score.toCp c.mateScoreCp, second.score.toCp c.mateScoreCp with
      | some b, some s => b - s ≥ margin
      | _, _ => false
    | some _, none => false

/-- The best line holds a forcing move in reach, when required. -/
def isTactical (p : Position) (e : Evaluation) (c : Config) : Bool :=
  !c.requireTactical ||
    (match e.best? with
      | some best => containsTactic p best.pv c.tacticalLookaheadPlies.toNat
      | none => false)

/-- The position is not a trivial endgame, when those are skipped. -/
def isNonTrivial (p : Position) (c : Config) : Bool :=
  !c.skipTrivialEndgames || (nonKingPieces p : Int) ≥ c.minNonKingPieces

/-- The legal solution line is long enough. -/
def isLongEnough (p : Position) (e : Evaluation) (c : Config) : Bool :=
  match e.best? with
  | some best => ((legalLine p best.pv).length : Int) ≥ max 1 c.minPvMoves
  | none => false

/-- The position a candidate starts from. -/
def Candidate.position (cand : Candidate) : Position :=
  match Position.ofFen cand.fen with
  | .ok p => p
  | .error _ => default

/-- Whether a candidate passes every filter. -/
def survives (cand : Candidate) (c : Config) : Bool :=
  let p := cand.position
  let e := cand.evaluation
  inBand (positionCp (some e) c.mateScoreCp) c && isUnique p e c && isTactical p e c &&
    isNonTrivial p c && isLongEnough p e c

/-- Re-grade a candidate from a deeper evaluation, or drop it. -/
def reconfirm (cand : Candidate) (deeper : Evaluation) (c : Config) : Option Candidate := do
  let best ← deeper.best?
  let shallow ← cand.evaluation.best?
  if best.move != shallow.move then none
  let start ← positionCp (some deeper) c.mateScoreCp
  if !inBand (some start) c then none
  let swing := cand.swingAt start
  let kind ← classifyKind swing (some start) c
  let p := cand.position
  if !isUnique p deeper c || !isTactical p deeper c then none
  some { cand with evaluation := deeper, swing := swing, kind := kind,
                   severity := severityForSwing swing c }

/-- Distinct texts in first-seen order. -/
def distinct (xs : List String) : List String :=
  xs.foldl (fun acc x => if acc.contains x then acc else acc ++ [x]) []

/-- The deeper confirmation pass. -/
def confirmCandidates {σ : Type} (cands : List Candidate) (ev : Option (Evaluator σ)) (c : Config) :
    StateM σ (List Candidate) := do
  match ev, c.confirmMovetimeMs with
  | some e, some confirmTime =>
    if !c.confirmationEnabled || cands.isEmpty then return cands
    let lines := searchLines c
    let mut deeper : List (String × Option Evaluation) := []
    for fen in distinct (cands.map (·.fen)) do
      match ← e.analyse fen confirmTime lines with
      | .ok r => deeper := deeper ++ [(fen, some r)]
      | .error _ => deeper := deeper ++ [(fen, none)]
    return cands.filterMap fun cand =>
      match ((deeper.find? (·.1 == cand.fen)).map (·.2)).join with
      | none => some cand
      | some d => reconfirm cand d c
  | _, _ => return cands

/-- Order candidates by ply, avoiding before punishing (stable). -/
def byPlyAndType (cands : List Candidate) : List Candidate :=
  cands.mergeSort fun a b =>
    a.sourcePly < b.sourcePly || (a.sourcePly == b.sourcePly && a.type.order ≤ b.type.order)

/-- Drop candidates of a framing within the cooldown after a kept one of the same framing. -/
def applyCooldown (cands : List Candidate) (cooldown : Int) : List Candidate :=
  if cooldown ≤ 0 then cands else
  let (kept, _) := (byPlyAndType cands).foldl
    (fun (acc : List Candidate × List (PuzzleType × Nat)) cand =>
      let (kept, last) := acc
      match (last.find? (·.1 == cand.type)).map (·.2) with
      | some prev =>
        if (cand.sourcePly : Int) ≤ (prev : Int) + cooldown then acc
        else (kept ++ [cand], (cand.type, cand.sourcePly) :: last.filter (·.1 != cand.type))
      | none => (kept ++ [cand], (cand.type, cand.sourcePly) :: last)) ([], [])
  kept

/-- The first four FEN fields. -/
def positionKey (fen : String) : String := String.intercalate " " ((Text.words fen).take 4)

/-- One candidate per ply and framing and per position and framing, in ply order. -/
def dedupe (cands : List Candidate) : List Candidate :=
  let (kept, _, _) := (byPlyAndType cands).foldl
    (fun (acc : List Candidate × List (Nat × PuzzleType) × List (String × PuzzleType)) cand =>
      let (kept, plies, fens) := acc
      let plyKey := (cand.sourcePly, cand.type)
      let fenKey := (positionKey cand.fen, cand.type)
      if plies.contains plyKey || fens.contains fenKey then acc
      else (kept ++ [cand], plyKey :: plies, fenKey :: fens)) ([], [], [])
  kept

/-- Build the puzzle of a surviving candidate. -/
def buildPuzzle (cand : Candidate) (opening : Info) (c : Config) : Except Failure Puzzle := do
  let p := cand.position
  let e := cand.evaluation
  let best ← match e.best? with
    | some b => pure b
    | none => throw .emptyLine
  let line := (takeSigned (legalLine p best.pv) c.maxLinePlies).map Move.uci
  let first ← match line with
    | m :: _ => pure m
    | [] => throw .emptyLine
  let accepted := acceptedMoves e
  let motifs := lineMotifs p e ++ (if accepted.length > 1 then [Motif.multiSolution] else [])
  let phase := gamePhase p cand.sourcePly
  return { sourcePly := cand.sourcePly, fen := cand.fen, bestMove := first, bestLine := line,
           type := cand.type, kind := cand.kind, severity := cand.severity, score := best.score,
           motifs := motifs, opening := opening,
           label := puzzleLabel cand.type motifs (if phase == .opening then some opening else none),
           phase := phase, acceptedMoves := accepted, swing := cand.swing }

/-- Rank puzzles by severity (highest first), ply, framing and swing (largest first), and keep at
most `cap` of them. -/
def selectPuzzles (ps : List Puzzle) (cap : Option Int) : List Puzzle :=
  let key (p : Puzzle) : Int × Nat × Nat × Int := (-(p.severity : Int), p.sourcePly, p.type.order, -p.swing)
  let le (a b : Puzzle) : Bool :=
    let (a1, a2, a3, a4) := key a
    let (b1, b2, b3, b4) := key b
    a1 < b1 || (a1 == b1 && (a2 < b2 || (a2 == b2 && (a3 < b3 || (a3 == b3 && a4 ≤ b4)))))
  let ranked := ps.mergeSort le
  match cap with
  | some n => if n ≤ 0 then ranked else ranked.take n.toNat
  | none => ranked

/-- Mine the puzzles of a classified game. -/
def extractPuzzles {σ : Type} (g : Pgn.Game) (cs : List ClassifiedPly) (es : Evaluations)
    (c : Config) (opening : Info) (ev : Option (Evaluator σ)) (user : Option String) :
    StateM σ (Except Failure (List Puzzle)) := do
  let survivors := (findCandidates g cs es c user).filter (survives · c)
  let confirmed ← confirmCandidates survivors ev c
  let kept := dedupe (applyCooldown confirmed c.cooldownPlies)
  return (kept.mapM fun cand => buildPuzzle cand opening c).map (selectPuzzles · c.cap)

/-- Everything one analysis produced. -/
structure GameAnalysis where
  /-- The replayed game. -/
  game : Pgn.Game
  /-- Its opening. -/
  opening : Info
  /-- The evaluation of every position that does not end the game. -/
  evaluations : Evaluations
  /-- The classified moves. -/
  classified : List ClassifiedPly
  /-- The ranked puzzles. -/
  puzzles : List Puzzle
  /-- The user's side, if known. -/
  userColor : Option String
  /-- White's accuracy. -/
  accuracyWhite : Option Float
  /-- Black's accuracy. -/
  accuracyBlack : Option Float
  deriving Inhabited

/-- Run the whole pipeline on a PGN text. -/
def analyzeGame {σ : Type} (pgn : String) (c : Config) (ev : Option (Evaluator σ))
    (supplied : Evaluations) (username : Option String) (userColor : Option String) (book : Book) :
    StateM σ (Except Failure GameAnalysis) := do
  match Pgn.parseGame pgn with
  | .error e => return .error (.game e)
  | .ok g =>
    match book.classify g.tags g.sans with
    | .error f => return .error (.book f)
    | .ok opening =>
      let user := userColor.orElse fun _ => (Pgn.userColor g.tags username).map Color.name
      match ← gatherEvaluations g c ev supplied with
      | .error f => return .error f
      | .ok es =>
        let cs := classifyGame g es c
        match ← extractPuzzles g cs es c opening ev user with
        | .error f => return .error f
        | .ok ps =>
          return .ok { game := g, opening := opening, evaluations := es, classified := cs,
                       puzzles := ps, userColor := user, accuracyWhite := accuracy cs .white,
                       accuracyBlack := accuracy cs .black }

end Analysis
end Tactician
