import Mathlib
import Tactician.Proofs.Mining.Decomposition

/-!
# Stricter thresholds

A configuration is stricter than another when it filters at least as hard and differs from it in
nothing else.  Every stage that reads the thresholds is then monotone on its own:

* a classified move keeps its scores and swing, only its label moves;
* a swing that reaches a bucket under higher thresholds reaches one under lower ones, so each
  framing found under the stricter thresholds is found under the looser ones, in another bucket
  perhaps;
* each filter, and the re-grading from a deeper search, passes under the looser thresholds what it
  passes under the stricter ones.

Deduplication is not monotone: it keeps the first candidate of a framing at each position, and
when a position comes back a stricter filter that drops its first occurrence lets a later one
through.  So the stricter puzzles are those of the looser run, save for ones at a position that the
looser run already posed earlier in the game; when no position of the game repeats, the stricter
puzzles' plies and framings are among the looser ones'.
-/

namespace Tactician
namespace Analysis

open Chess

/-- `strict` filters at least as hard as `loose` and differs from it in nothing else: a higher
uniqueness margin (or one where `loose` sets none, asking the engine for as many lines), a
narrower evaluation band, more filters switched on, longer lines and more pieces required, and
higher thresholds for the buckets. -/
structure Stricter (loose strict : Config) : Prop where
  margin : ∀ m, loose.uniquenessMarginCp = some m →
    ∃ m', strict.uniquenessMarginCp = some m' ∧ m ≤ m'
  lines : searchLines strict = searchLines loose
  bandMin : ∀ lo, loose.evalBandMinCp = some lo → ∃ lo', strict.evalBandMinCp = some lo' ∧ lo ≤ lo'
  bandMax : ∀ hi, loose.evalBandMaxCp = some hi → ∃ hi', strict.evalBandMaxCp = some hi' ∧ hi' ≤ hi
  tactical : loose.requireTactical = true → strict.requireTactical = true
  trivial : loose.skipTrivialEndgames = true → strict.skipTrivialEndgames = true
  punished : loose.skipPunishedBlunders = true → strict.skipPunishedBlunders = true
  minPv : loose.minPvMoves ≤ strict.minPvMoves
  minPieces : loose.minNonKingPieces ≤ strict.minNonKingPieces
  blunder : loose.blunderSwingCp ≤ strict.blunderSwingCp
  missedWin : loose.missedWinSwingCp ≤ strict.missedWinSwingCp
  missedTactic : loose.missedTacticSwingCp ≤ strict.missedTacticSwingCp
  winning : loose.winningThresholdCp ≤ strict.winningThresholdCp
  rest : { strict with
    uniquenessMarginCp := loose.uniquenessMarginCp, evalBandMinCp := loose.evalBandMinCp,
    evalBandMaxCp := loose.evalBandMaxCp, requireTactical := loose.requireTactical,
    skipTrivialEndgames := loose.skipTrivialEndgames,
    skipPunishedBlunders := loose.skipPunishedBlunders, minPvMoves := loose.minPvMoves,
    minNonKingPieces := loose.minNonKingPieces, blunderSwingCp := loose.blunderSwingCp,
    missedWinSwingCp := loose.missedWinSwingCp, missedTacticSwingCp := loose.missedTacticSwingCp,
    winningThresholdCp := loose.winningThresholdCp } = loose

/-! ## Buckets -/

theorem labelForSwing_ne_unclassified (swing : Int) (c : Config) :
    labelForSwing swing c ≠ .unclassified := by
  unfold labelForSwing
  split_ifs <;> decide

/-- A swing reaches a bucket exactly when it reaches the blunder threshold, the missed-win threshold
from a winning position, or the missed-tactic threshold. -/
theorem classifyKind_isSome_iff {swing : Int} {solver : Option Int} {c : Config} :
    (classifyKind swing solver c).isSome ↔
      c.blunderSwingCp ≤ swing ∨
        (solver.any (· ≥ c.winningThresholdCp) = true ∧ c.missedWinSwingCp ≤ swing) ∨
        c.missedTacticSwingCp ≤ swing := by
  unfold classifyKind
  split_ifs with blunder missedWin missedTactic <;> simp_all

namespace Stricter

variable {loose strict : Config} (stricter : Stricter loose strict)
include stricter

/-- The mate score is not among the fields a stricter configuration changes. -/
theorem mateScoreCp : strict.mateScoreCp = loose.mateScoreCp :=
  (congrArg Config.mateScoreCp stricter.rest :)

theorem movetimeMs : strict.movetimeMs = loose.movetimeMs :=
  (congrArg Config.movetimeMs stricter.rest :)

/-- A swing in a bucket under the stricter thresholds is in one under the looser ones. -/
theorem classifyKind {swing : Int} {solver : Option Int} {kind : PuzzleKind}
    (graded : Analysis.classifyKind swing solver strict = some kind) :
    ∃ kind', Analysis.classifyKind swing solver loose = some kind' := by
  have winning : solver.any (· ≥ strict.winningThresholdCp) = true →
      solver.any (· ≥ loose.winningThresholdCp) = true := by
    cases solver <;> simp
    have := stricter.winning
    omega
  have reached := classifyKind_isSome_iff.mp (Option.isSome_iff_exists.mpr ⟨kind, graded⟩)
  refine Option.isSome_iff_exists.mp (classifyKind_isSome_iff.mpr ?_)
  have := stricter.blunder
  have := stricter.missedWin
  have := stricter.missedTactic
  rcases reached with blunder | ⟨won, missedWin⟩ | missedTactic
  · exact .inl (by omega)
  · exact .inr (.inl ⟨winning won, by omega⟩)
  · exact .inr (.inr (by omega))

/-- The severity of a swing reads no threshold that a stricter configuration changes. -/
theorem severityForSwing (swing : Int) :
    Analysis.severityForSwing swing strict = Analysis.severityForSwing swing loose := by
  have big : strict.bigSwingCp = loose.bigSwingCp := (congrArg Config.bigSwingCp stricter.rest :)
  have medium : strict.mediumSwingCp = loose.mediumSwingCp :=
    (congrArg Config.mediumSwingCp stricter.rest :)
  simp only [Analysis.severityForSwing, big, medium]

/-! ## Filters -/

theorem inBand {start : Option Int} (banded : Analysis.inBand start strict = true) :
    Analysis.inBand start loose = true := by
  rcases start with _ | s
  · cases banded
  simp only [Analysis.inBand, Bool.and_eq_true] at banded ⊢
  obtain ⟨above, below⟩ := banded
  refine ⟨?_, ?_⟩
  · rcases lower : loose.evalBandMinCp with _ | lo
    · rfl
    obtain ⟨lo', strict_lower, le⟩ := stricter.bandMin lo lower
    rw [strict_lower] at above
    simp only [Option.all_some, decide_eq_true_eq] at above ⊢
    omega
  · rcases upper : loose.evalBandMaxCp with _ | hi
    · rfl
    obtain ⟨hi', strict_upper, le⟩ := stricter.bandMax hi upper
    rw [strict_upper] at below
    simp only [Option.all_some, decide_eq_true_eq] at below ⊢
    omega

theorem isUnique {p : Position} {e : Evaluation} (unique : Analysis.isUnique p e strict = true) :
    Analysis.isUnique p e loose = true := by
  unfold Analysis.isUnique at unique ⊢
  rcases margin : loose.uniquenessMarginCp with _ | m
  · rfl
  obtain ⟨m', strict_margin, le⟩ := stricter.margin m margin
  rw [strict_margin, stricter.mateScoreCp] at unique
  dsimp only at unique ⊢
  split at unique
  · exact unique
  · split at unique
    · rename_i b s _ _
      exact decide_eq_true (le_trans le (of_decide_eq_true unique))
    · cases unique
  · cases unique

theorem isTactical {p : Position} {e : Evaluation}
    (tactical : Analysis.isTactical p e strict = true) : Analysis.isTactical p e loose = true := by
  have lookahead : strict.tacticalLookaheadPlies = loose.tacticalLookaheadPlies :=
    (congrArg Config.tacticalLookaheadPlies stricter.rest :)
  unfold Analysis.isTactical at tactical ⊢
  rw [lookahead] at tactical
  cases required : loose.requireTactical
  · rfl
  · rw [stricter.tactical required] at tactical
    simpa using tactical

theorem isNonTrivial {p : Position} (kept : Analysis.isNonTrivial p strict = true) :
    Analysis.isNonTrivial p loose = true := by
  unfold Analysis.isNonTrivial at kept ⊢
  cases skipped : loose.skipTrivialEndgames
  · rfl
  · rw [stricter.trivial skipped] at kept
    have := stricter.minPieces
    simp only [Bool.not_true, Bool.false_or, decide_eq_true_eq] at kept ⊢
    omega

theorem isLongEnough {p : Position} {e : Evaluation}
    (long : Analysis.isLongEnough p e strict = true) : Analysis.isLongEnough p e loose = true := by
  unfold Analysis.isLongEnough at long ⊢
  rcases best : e.best? with _ | best
  · simp only [best] at long
    cases long
  have := stricter.minPv
  simp only [best, decide_eq_true_eq, ge_iff_le, max_le_iff] at long ⊢
  omega

/-- A candidate that passes the stricter filters passes the looser ones. -/
theorem survives {cand : Candidate} (passes : Analysis.survives cand strict = true) :
    Analysis.survives cand loose = true := by
  obtain ⟨banded, unique, tactical, nonTrivial, long⟩ := survives_eq_true.mp passes
  rw [stricter.mateScoreCp] at banded
  exact survives_eq_true.mpr ⟨stricter.inBand banded, stricter.isUnique unique,
    stricter.isTactical tactical, stricter.isNonTrivial nonTrivial, stricter.isLongEnough long⟩

/-! ## Classification and framing -/

/-- Thresholds only move labels: a move classified under the stricter configuration is one
classified under the looser one with its label changed, unclassified under both or under
neither. -/
theorem exists_of_mem_classifyGame {g : Pgn.Game} {es : Evaluations} {p' : ClassifiedPly}
    (classified : p' ∈ classifyGame g es strict) :
    ∃ p ∈ classifyGame g es loose, ∃ label, p' = { p with label := label } ∧
      (label = .unclassified ↔ p.label = .unclassified) := by
  unfold classifyGame at classified ⊢
  obtain ⟨ply, ply_mem, rfl⟩ := List.mem_map.mp classified
  refine ⟨_, List.mem_map_of_mem ply_mem, ?_⟩
  dsimp only
  rw [stricter.mateScoreCp]
  split
  · exact ⟨_, rfl, by simp [labelForSwing_ne_unclassified]⟩
  · exact ⟨_, rfl, Iff.rfl⟩

/-- An avoiding framing under the stricter thresholds is one under the looser thresholds, in
another bucket perhaps. -/
theorem avoidCandidate {p : ClassifiedPly} {es : Evaluations} {x' : Candidate}
    (framed : Analysis.avoidCandidate p es strict = some x') :
    ∃ x, Analysis.avoidCandidate p es loose = some x ∧ ∃ kind, x' = { x with kind := kind } := by
  obtain ⟨e, best, swing, after, kind', at_ply, best_eq, differs, swing_eq, after_eq, graded,
    rfl⟩ := avoidCandidate_eq_some.mp framed
  obtain ⟨kind, graded_loose⟩ := stricter.classifyKind graded
  refine ⟨_, avoidCandidate_eq_some.mpr ⟨e, best, swing, after, kind, at_ply, best_eq, differs,
    swing_eq, after_eq, graded_loose, rfl⟩, kind', ?_⟩
  rw [stricter.severityForSwing]

/-- A punishing framing under the stricter thresholds is one under the looser thresholds, in
another bucket perhaps: skipping punished blunders under the looser thresholds skips them under
the stricter ones too. -/
theorem punishCandidate {g : Pgn.Game} {p : ClassifiedPly} {es : Evaluations} {x' : Candidate}
    (framed : Analysis.punishCandidate g p es strict = some x') :
    ∃ x, Analysis.punishCandidate g p es loose = some x ∧ ∃ kind, x' = { x with kind := kind } := by
  obtain ⟨e, best, swing, before, kind', live, at_start, best_eq, swing_eq, before_eq, graded,
    unpunished, rfl⟩ := punishCandidate_eq_some.mp framed
  rw [stricter.mateScoreCp] at graded
  obtain ⟨kind, graded_loose⟩ := stricter.classifyKind graded
  have unpunished_loose : ¬(loose.skipPunishedBlunders = true ∧
      (g.moves[p.ply + 1]?).map Move.uci = some best.move) :=
    fun ⟨skipped, found⟩ => unpunished ⟨stricter.punished skipped, found⟩
  refine ⟨_, punishCandidate_eq_some.mpr ⟨e, best, swing, before, kind, live, at_start, best_eq,
    swing_eq, before_eq, graded_loose, unpunished_loose, rfl⟩, kind', ?_⟩
  rw [stricter.severityForSwing]

/-- Every candidate framed under the stricter thresholds is framed under the looser ones, in
another bucket perhaps. -/
theorem exists_of_mem_findCandidates {g : Pgn.Game} {es : Evaluations} {user : Option String}
    {x' : Candidate} (framed : x' ∈ findCandidates g (classifyGame g es strict) es strict user) :
    ∃ x ∈ findCandidates g (classifyGame g es loose) es loose user,
      ∃ kind, x' = { x with kind := kind } := by
  have mode : strict.puzzleMode = loose.puzzleMode := (congrArg Config.puzzleMode stricter.rest :)
  have skip : strict.openingSkipPlies = loose.openingSkipPlies :=
    (congrArg Config.openingSkipPlies stricter.rest :)
  obtain ⟨p', classified, early, labelled, framing⟩ := mem_findCandidates.mp framed
  obtain ⟨p, classified_loose, label, rfl, unclassified⟩ :=
    stricter.exists_of_mem_classifyGame classified
  rw [mode] at framing
  rw [skip] at early
  rcases framing with ⟨wanted, side, avoid⟩ | ⟨wanted, side, punish⟩
  · obtain ⟨x, avoid_loose, same⟩ := stricter.avoidCandidate avoid
    exact ⟨x, mem_findCandidates.mpr ⟨p, classified_loose, early,
      fun wrong => labelled (unclassified.mpr wrong), .inl ⟨wanted, side, avoid_loose⟩⟩, same⟩
  · obtain ⟨x, punish_loose, same⟩ := stricter.punishCandidate punish
    exact ⟨x, mem_findCandidates.mpr ⟨p, classified_loose, early,
      fun wrong => labelled (unclassified.mpr wrong), .inr ⟨wanted, side, punish_loose⟩⟩, same⟩

/-! ## The confirmation pass -/

/-- Re-grading from one deeper evaluation under the stricter thresholds re-grades the same
candidate, in any bucket, under the looser ones. -/
theorem reconfirm {x : Candidate} {kind : PuzzleKind} {d : Evaluation} {y' : Candidate}
    (regraded : Analysis.reconfirm { x with kind := kind } d strict = some y') :
    ∃ y, Analysis.reconfirm x d loose = some y ∧ ∃ kind, y' = { y with kind := kind } := by
  obtain ⟨best, shallow, start, kind', best_eq, shallow_eq, same_move, start_eq, banded, graded,
    unique, tactical, rfl⟩ := reconfirm_eq_some.mp regraded
  rw [stricter.mateScoreCp] at start_eq
  obtain ⟨kind, graded_loose⟩ := stricter.classifyKind graded
  refine ⟨_, reconfirm_eq_some.mpr ⟨best, shallow, start, kind, best_eq, shallow_eq, same_move,
    start_eq, stricter.inBand banded, graded_loose, stricter.isUnique unique,
    stricter.isTactical tactical, rfl⟩, kind', ?_⟩
  rw [stricter.severityForSwing]
  rfl

/-- The confirmation pass, asking each position alone, keeps under the looser thresholds what it
keeps under the stricter ones. -/
theorem confirmOne {σ : Type} {ev : Option (Evaluator σ)} {st : σ} {x : Candidate}
    {kind : PuzzleKind} {y' : Candidate}
    (confirmed : Analysis.confirmOne ev strict st { x with kind := kind } = some y') :
    ∃ y, Analysis.confirmOne ev loose st x = some y ∧ ∃ kind, y' = { y with kind := kind } := by
  have budget : strict.confirmMovetimeMs = loose.confirmMovetimeMs :=
    (congrArg Config.confirmMovetimeMs stricter.rest :)
  have enabled : strict.confirmationEnabled = loose.confirmationEnabled := by
    simp only [Config.confirmationEnabled, budget, stricter.movetimeMs]
  unfold Analysis.confirmOne at confirmed ⊢
  rw [enabled, budget, stricter.lines] at confirmed
  split
  · rename_i confirming
    rw [if_pos confirming] at confirmed
    generalize (ev.bind fun e => loose.confirmMovetimeMs.bind fun t =>
      ((e.analyse x.fen t (searchLines loose)).run st).1.toOption) = answer at confirmed ⊢
    rcases answer with _ | d
    · cases confirmed
      exact ⟨x, rfl, kind, rfl⟩
    · exact stricter.reconfirm confirmed
  · rename_i idle
    rw [if_neg idle] at confirmed
    cases confirmed
    exact ⟨x, rfl, kind, rfl⟩

end Stricter

/-! ## Mining a classified game -/

section Mining

variable {σ : Type} {loose strict : Config} {g : Pgn.Game} {es : Evaluations}
  {opening : Openings.Info} {ev : Option (Evaluator σ)} {user : Option String} {st : σ}

/-- Each puzzle mined from a replayed game stands at the game's FEN of its ply. -/
theorem fens_getElem?_of_extractPuzzles {c : Config} (replayed : Replayed g) {ps : List Puzzle}
    (run : ((extractPuzzles g (classifyGame g es c) es c opening ev user).run st).1 = .ok ps)
    {p : Puzzle} (member : p ∈ ps) : g.fens[p.sourcePly]? = some p.fen := by
  obtain ⟨cand, framed, -, final, regraded, built⟩ := exists_candidate_of_extractPuzzles run member
  obtain ⟨type_eq, source_eq, fen_eq, -⟩ := regraded.fields
  obtain ⟨-, built_source, built_fen⟩ := buildPuzzle_posed built
  rw [built_source, built_fen, source_eq, fen_eq]
  exact (posedAt_of_mem_findCandidates replayed framed).fen_at

/-- With an evaluator that answers from the request alone and no cooldown, the candidates kept
for building are the deduplicated survivors of the filters and of the confirmation pass, each
candidate confirmed on its own. -/
theorem extractPuzzles_nonpos {c : Config} (memoryless : ∀ e, ev = some e → e.Memoryless)
    (nonpos : c.cooldownPlies ≤ 0) (cs : List ClassifiedPly) :
    ((extractPuzzles g cs es c opening ev user).run st).1 =
      ((dedupe (((findCandidates g cs es c user).filter (survives · c)).filterMap
        (Analysis.confirmOne ev c st))).mapM fun cand => buildPuzzle cand opening c).map
          (selectPuzzles · c.cap) := by
  rw [extractPuzzles_run, confirmCandidates_memoryless _ memoryless c st st,
    applyCooldown_of_nonpos _ nonpos]

/-- Mining under stricter thresholds, with no cooldown and no cap, poses each of its puzzles at
the ply and framing of a puzzle that mining under the looser thresholds poses, or at a position
where the looser mining posed a puzzle of the same framing at an earlier ply.  The looser
thresholds frame, pass and confirm the candidate each stricter puzzle comes from; where their
deduplication drops it, a candidate kept before it has its framing and position. -/
theorem Stricter.extractPuzzles (stricter : Stricter loose strict)
    (memoryless : ∀ e, ev = some e → e.Memoryless) (nonpos : loose.cooldownPlies ≤ 0)
    (uncapped : ∀ n, loose.cap = some n → n ≤ 0) {ps ps' : List Puzzle}
    (loose_run : ((Analysis.extractPuzzles g (classifyGame g es loose) es loose opening ev
      user).run st).1 = .ok ps)
    (strict_run : ((Analysis.extractPuzzles g (classifyGame g es strict) es strict opening ev
      user).run st).1 = .ok ps')
    {p' : Puzzle} (member : p' ∈ ps') :
    ∃ p ∈ ps, p.type = p'.type ∧ (p.sourcePly = p'.sourcePly ∨
      p.sourcePly < p'.sourcePly ∧ positionKey p.fen = positionKey p'.fen) := by
  have cooldown : strict.cooldownPlies = loose.cooldownPlies :=
    (congrArg Config.cooldownPlies stricter.rest :)
  rw [extractPuzzles_nonpos memoryless (cooldown ▸ nonpos)] at strict_run
  rw [extractPuzzles_nonpos memoryless nonpos] at loose_run
  rw [except_map_eq_ok] at strict_run
  obtain ⟨built', mapped', rfl⟩ := strict_run
  obtain ⟨y', kept', build'⟩ := mem_of_mapM_ok mapped' (mem_of_mem_selectPuzzles member)
  obtain ⟨x', survivor', confirmed'⟩ := List.mem_filterMap.mp (mem_of_mem_dedupe kept')
  obtain ⟨framed', passes'⟩ := List.mem_filter.mp survivor'
  obtain ⟨x, framed, kind, rfl⟩ := stricter.exists_of_mem_findCandidates framed'
  obtain ⟨y, confirmed, kind', rfl⟩ := stricter.confirmOne confirmed'
  have survivor : y ∈ ((findCandidates g (classifyGame g es loose) es loose user).filter
      (Analysis.survives · loose)).filterMap (Analysis.confirmOne ev loose st) :=
    List.mem_filterMap.mpr ⟨x, List.mem_filter.mpr ⟨framed, stricter.survives passes'⟩, confirmed⟩
  obtain ⟨type_eq', source_eq', fen_eq'⟩ := buildPuzzle_posed build'
  by_cases kept : y ∈ dedupe (((findCandidates g (classifyGame g es loose) es loose user).filter
      (Analysis.survives · loose)).filterMap (Analysis.confirmOne ev loose st))
  · obtain ⟨p, p_mem, build⟩ := exists_puzzle_of_kept loose_run uncapped kept
    obtain ⟨type_eq, source_eq, -⟩ := buildPuzzle_posed build
    exact ⟨p, p_mem, type_eq.trans type_eq'.symm, .inl (source_eq.trans source_eq'.symm)⟩
  have distinct := survivors_distinct g es loose ev user st
  rw [survivors, confirmCandidates_memoryless _ memoryless loose st st] at distinct
  obtain ⟨z, z_kept, differs, before, same⟩ := exists_shadow_of_not_mem_dedupe survivor kept
  have z_mem := mem_of_mem_dedupe z_kept
  rcases same with same | same
  · exact absurd (eq_of_key_eq distinct survivor z_mem same) differs
  obtain ⟨position, type_eq⟩ := Prod.mk.inj same
  have earlier : z.sourcePly < y.sourcePly := by
    refine lt_of_le_of_ne before fun ply => differs (eq_of_key_eq distinct survivor z_mem ?_)
    simp only [Candidate.plyKey, ply, type_eq]
  obtain ⟨q, q_mem, build⟩ := exists_puzzle_of_kept loose_run uncapped z_kept
  obtain ⟨q_type, q_source, q_fen⟩ := buildPuzzle_posed build
  refine ⟨q, q_mem, by rw [q_type, type_eq, type_eq'], .inr ⟨?_, ?_⟩⟩
  · rw [q_source, source_eq']
    exact earlier
  · rw [q_fen, fen_eq']
    exact position

end Mining

/-! ## Analyses -/

/-- A property of two finished analyses; a failed analysis gives every such property. -/
def BothFinished (P : GameAnalysis → GameAnalysis → Prop) (r r' : Except Failure GameAnalysis) :
    Prop :=
  ∀ a a', r = .ok a → r' = .ok a' → P a a'

/-- Two plies of a list of FENs with no repeated position key and one key are one ply. -/
theorem ply_eq_of_positionKey_eq {fens : List String} (repeatFree : (fens.map positionKey).Nodup)
    {i j : Nat} {fen fen' : String} (at_i : fens[i]? = some fen) (at_j : fens[j]? = some fen')
    (same : positionKey fen = positionKey fen') : i = j := by
  have lt : i < (fens.map positionKey).length := by
    rw [List.length_map]
    exact (List.getElem?_eq_some_iff.mp at_i).1
  refine (List.getElem?_inj lt repeatFree).mp ?_
  rw [List.getElem?_map, List.getElem?_map, at_i, at_j, Option.map_some, Option.map_some, same]

section Analysis

variable {σ : Type} {pgn : String} {loose strict : Config} {ev : Option (Evaluator σ)}
  {supplied : Evaluations} {username userColor : Option String} {book : Openings.Book} {st : σ}

/-- Gathering the evaluations reads no threshold that a stricter configuration changes. -/
theorem Stricter.gatherEvaluations (stricter : Stricter loose strict) (g : Pgn.Game) :
    Analysis.gatherEvaluations g strict ev supplied =
      Analysis.gatherEvaluations g loose ev supplied := by
  simp only [Analysis.gatherEvaluations, stricter.movetimeMs, stricter.lines]

/-- Under stricter filters and thresholds, with an evaluator that answers from the request alone,
no cooldown and no cap, each puzzle of the stricter analysis is posed at the ply and framing of a
puzzle of the looser analysis, or at a position where the looser analysis posed a puzzle of the
same framing at an earlier ply; so when no position of the game repeats, the plies and framings of
the stricter puzzles are among those of the looser ones. -/
theorem analyzeGame_stricter_within (pgn : String) (stricter : Stricter loose strict)
    (ev : Option (Evaluator σ)) (supplied : Evaluations) (username userColor : Option String)
    (book : Openings.Book) (st : σ) (memoryless : ∀ e, ev = some e → e.Memoryless)
    (nonpos : loose.cooldownPlies ≤ 0)
    (uncapped : ∀ n, loose.maxPuzzlesPerGame = some n → n ≤ 0) :
    BothFinished (fun a a' =>
        (∀ p' ∈ a'.puzzles, ∃ p ∈ a.puzzles, p.type = p'.type ∧ (p.sourcePly = p'.sourcePly ∨
          p.sourcePly < p'.sourcePly ∧ positionKey p.fen = positionKey p'.fen)) ∧
        ((a.game.fens.map positionKey).Nodup →
          ∀ p' ∈ a'.puzzles, ∃ p ∈ a.puzzles, p.sourcePly = p'.sourcePly ∧ p.type = p'.type))
      ((analyzeGame pgn loose ev supplied username userColor book).run st).1
      ((analyzeGame pgn strict ev supplied username userColor book).run st).1 := by
  rcases analyzeGame_staged pgn loose ev supplied book st with
      ⟨f, failed⟩ | ⟨g, opening, es, st', parsed, mined⟩
  · intro a a' loose_run
    rw [failed loose (fun _ => rfl)] at loose_run
    cases loose_run
  rw [mined loose (fun _ => rfl), mined strict stricter.gatherEvaluations]
  rcases loose_extract : ((extractPuzzles g (classifyGame g es loose) es loose
    opening ev
    (userColor.orElse fun _ => (Pgn.userColor g.tags username).map Color.name)).run st').1
    with e | ps
  · intro a a' loose_run
    cases loose_run
  rcases strict_extract : ((extractPuzzles g (classifyGame g es strict) es strict
    opening ev
    (userColor.orElse fun _ => (Pgn.userColor g.tags username).map Color.name)).run st').1
    with e | ps'
  · intro a a' _ strict_run
    cases strict_run
  intro a a' loose_run strict_run
  cases loose_run
  cases strict_run
  have within := fun p' (member : p' ∈ ps') =>
    stricter.extractPuzzles memoryless nonpos (cap_of_nonpos uncapped) loose_extract strict_extract
      member
  refine ⟨within, fun repeatFree p' member => ?_⟩
  obtain ⟨p, p_mem, type_eq, at_ply | ⟨earlier, position⟩⟩ := within p' member
  · exact ⟨p, p_mem, at_ply, type_eq⟩
  have replayed := replayed_of_parseGame parsed
  have same_ply := ply_eq_of_positionKey_eq repeatFree
    (fens_getElem?_of_extractPuzzles replayed loose_extract p_mem)
    (fens_getElem?_of_extractPuzzles replayed strict_extract member) position
  omega

/-- Switching on the forcing-move filter makes a configuration stricter. -/
theorem Stricter.requireTactical (c : Config) :
    Stricter { c with requireTactical := false } { c with requireTactical := true } :=
  ⟨fun m set => ⟨m, set, le_rfl⟩, rfl, fun lo set => ⟨lo, set, le_rfl⟩,
    fun hi set => ⟨hi, set, le_rfl⟩, fun _ => rfl, id, id, le_rfl, le_rfl, le_rfl, le_rfl, le_rfl,
    le_rfl, rfl⟩

/-- Mining the scholar's mate from its first ply with the forcing-move filter switched off and on,
and the lineless evaluator besides its supplied evaluations, meets the conditions. -/
theorem analyzeGame_stricter_within_scholarsMate :
    Stricter { firstPlyConfig with requireTactical := false }
        { firstPlyConfig with requireTactical := true } ∧
      (∀ e, some linelessEvaluator = some e → e.Memoryless) ∧
      ({ firstPlyConfig with requireTactical := false } : Config).cooldownPlies ≤ 0 ∧
      (∀ n, ({ firstPlyConfig with requireTactical := false } : Config).maxPuzzlesPerGame =
        some n → n ≤ 0) ∧
      BothFinished (fun a a' =>
          (∀ p' ∈ a'.puzzles, ∃ p ∈ a.puzzles, p.type = p'.type ∧ (p.sourcePly = p'.sourcePly ∨
            p.sourcePly < p'.sourcePly ∧ positionKey p.fen = positionKey p'.fen)) ∧
          ((a.game.fens.map positionKey).Nodup →
            ∀ p' ∈ a'.puzzles, ∃ p ∈ a.puzzles, p.sourcePly = p'.sourcePly ∧ p.type = p'.type))
        ((analyzeGame scholarsMate { firstPlyConfig with requireTactical := false }
          (some linelessEvaluator) scholarsMateEvaluations none none
          Openings.defaultBook).run ()).1
        ((analyzeGame scholarsMate { firstPlyConfig with requireTactical := true }
          (some linelessEvaluator) scholarsMateEvaluations none none
          Openings.defaultBook).run ()).1 :=
  have stricter := Stricter.requireTactical firstPlyConfig
  have uncapped : ∀ n,
      ({ firstPlyConfig with requireTactical := false } : Config).maxPuzzlesPerGame = some n →
        n ≤ 0 :=
    fun _ unset => by cases unset
  ⟨stricter, linelessEvaluator_memoryless, by decide, uncapped,
    analyzeGame_stricter_within scholarsMate stricter (some linelessEvaluator)
      scholarsMateEvaluations none none Openings.defaultBook () linelessEvaluator_memoryless
      (by decide) uncapped⟩

/-! ## A repeated position -/

/-- With the avoiding framing alone, each candidate sits at the ply of the move it comes from, so
the candidates of a game come in ply order and the thinning passes read them as they come. -/
theorem findCandidates_sorted_of_avoiding {g : Pgn.Game} {es : Evaluations} {c : Config}
    {user : Option String} (avoiding : c.puzzleMode = .avoidBlunder) :
    (findCandidates g (classifyGame g es c) es c user).Pairwise fun a b => plyOrder a b = true := by
  have placed : ∀ p, ∀ x ∈ findCandidates g [p] es c user,
      x.type = .avoidBlunder ∧ x.sourcePly = p.ply := by
    intro p x framed
    obtain ⟨q, q_mem, -, -, (⟨-, -, avoid⟩ | ⟨wanted, -, -⟩)⟩ := mem_findCandidates.mp framed
    · rw [List.mem_singleton] at q_mem
      subst q_mem
      exact avoidCandidate_place avoid
    · exact absurd avoiding wanted
  have ordered : ∀ a b : Candidate, a.type = .avoidBlunder → b.type = .avoidBlunder →
      a.sourcePly ≤ b.sourcePly → plyOrder a b = true := by
    intro a b a_type b_type le
    simp only [plyOrder, a_type, b_type, Bool.or_eq_true, decide_eq_true_eq, Bool.and_eq_true,
      beq_iff_eq, le_refl, and_true]
    omega
  have framed_by_move : findCandidates g (classifyGame g es c) es c user =
      (classifyGame g es c).flatMap fun p => findCandidates g [p] es c user := by
    simp [findCandidates]
  rw [framed_by_move, List.pairwise_flatMap]
  refine ⟨fun p _ => List.pairwise_of_forall_mem_list fun a a_mem b b_mem => ?_,
    (classifyGame_increasing g es c).imp fun {p q} lt a a_mem b b_mem => ?_⟩
  · obtain ⟨a_type, a_ply⟩ := placed p a a_mem
    obtain ⟨b_type, b_ply⟩ := placed p b b_mem
    exact ordered a b a_type b_type (by omega)
  · obtain ⟨a_type, a_ply⟩ := placed p a a_mem
    obtain ⟨b_type, b_ply⟩ := placed q b b_mem
    exact ordered a b a_type b_type (by omega)

/-- In 1. Nf3 Nf6 2. Ng1 Ng8 3. Nf3 the knights go home and the starting position comes back at
ply 4, where the engine's best line is two moves long, against one move at ply 0.  Mining the
avoiding framing with lines of one move poses the puzzle at ply 0 and drops the one at ply 4 as a
repeat; asking for lines of two moves drops the puzzle at ply 0 and so lets the one at ply 4
through: the stricter mining poses a ply that the looser one does not.  The candidates of one
framing come in ply order already, so the sort before deduplication changes nothing and the
kernel need not run it. -/
theorem longer_lines_pose_repeated_position :
    let start := (Position.ofFen startingFen).toOption.getD default
    let moves : List Move :=
      [⟨6, 21, none⟩, ⟨62, 45, none⟩, ⟨21, 6, none⟩, ⟨45, 62, none⟩, ⟨6, 21, none⟩]
    let game : Pgn.Game :=
      { tags := [], positions := moves.scanl Position.play start, moves := moves,
        sans := ["Nf3", "Nf6", "Ng1", "Ng8", "Nf3"],
        fens := ["rnbqkbnr/pppppppp/8/8/8/8/PPPPPPPP/RNBQKBNR w KQkq - 0 1",
          "rnbqkbnr/pppppppp/8/8/8/5N2/PPPPPPPP/RNBQKB1R b KQkq - 1 1",
          "rnbqkb1r/pppppppp/5n2/8/8/5N2/PPPPPPPP/RNBQKB1R w KQkq - 2 2",
          "rnbqkb1r/pppppppp/5n2/8/8/8/PPPPPPPP/RNBQKBNR b KQkq - 3 2",
          "rnbqkbnr/pppppppp/8/8/8/8/PPPPPPPP/RNBQKBNR w KQkq - 4 3",
          "rnbqkbnr/pppppppp/8/8/8/5N2/PPPPPPPP/RNBQKB1R b KQkq - 5 3"],
        finished := false }
    let es : Evaluations :=
      [(0, some
          { fen := "rnbqkbnr/pppppppp/8/8/8/8/PPPPPPPP/RNBQKBNR w KQkq - 0 1",
            lines := [{ move := "e2e4", score := { cp := some 300 }, pv := ["e2e4"] }] }),
        (1, some
          { fen := "rnbqkbnr/pppppppp/8/8/8/5N2/PPPPPPPP/RNBQKB1R b KQkq - 1 1",
            lines := [{ move := "g8f6", score := { cp := some 100 }, pv := [] }] }),
        (2, some
          { fen := "rnbqkb1r/pppppppp/5n2/8/8/5N2/PPPPPPPP/RNBQKB1R w KQkq - 2 2",
            lines := [{ move := "f3g1", score := { cp := some (-100) }, pv := [] }] }),
        (3, some
          { fen := "rnbqkb1r/pppppppp/5n2/8/8/8/PPPPPPPP/RNBQKBNR b KQkq - 3 2",
            lines := [{ move := "f6g8", score := { cp := some 100 }, pv := [] }] }),
        (4, some
          { fen := "rnbqkbnr/pppppppp/8/8/8/8/PPPPPPPP/RNBQKBNR w KQkq - 4 3",
            lines := [{ move := "e2e4", score := { cp := some 300 }, pv := ["e2e4", "e7e5"] }] }),
        (5, some
          { fen := "rnbqkbnr/pppppppp/8/8/8/5N2/PPPPPPPP/RNBQKB1R b KQkq - 5 3",
            lines := [{ move := "g8f6", score := { cp := some 100 }, pv := [] }] })]
    let loose : Config :=
      { puzzleMode := .avoidBlunder, openingSkipPlies := 0, requireTactical := false,
        skipTrivialEndgames := false, minPvMoves := 1 }
    let strict : Config := { loose with minPvMoves := 2 }
    Stricter loose strict ∧
      ((extractPuzzles game (classifyGame game es strict) es strict {}
        (none : Option (Evaluator Unit)) none).run ()).1.toOption.map
          (·.map fun p => (p.sourcePly, p.type)) = some [(4, .avoidBlunder)] ∧
      ((extractPuzzles game (classifyGame game es loose) es loose {}
        (none : Option (Evaluator Unit)) none).run ()).1.toOption.map
          (·.map fun p => (p.sourcePly, p.type)) = some [(0, .avoidBlunder)] := by
  intro start moves game es loose strict
  have stricter : Stricter loose strict :=
    { margin := fun _ unset => by cases unset
      lines := rfl
      bandMin := fun _ unset => by cases unset
      bandMax := fun _ unset => by cases unset
      tactical := id
      trivial := id
      punished := id
      minPv := by decide
      minPieces := le_rfl
      blunder := le_rfl
      missedWin := le_rfl
      missedTactic := le_rfl
      winning := le_rfl
      rest := rfl }
  have memoryless : ∀ e, (none : Option (Evaluator Unit)) = some e → e.Memoryless :=
    fun _ none_eq => by cases none_eq
  have nonpos : loose.cooldownPlies ≤ 0 := by decide
  refine ⟨stricter, by decide +kernel, ?_⟩
  have framed_in_order : (findCandidates game (classifyGame game es loose) es loose none).Pairwise
      fun a b => plyOrder a b = true :=
    findCandidates_sorted_of_avoiding rfl
  have unconfirmed : ∀ x, confirmOne (none : Option (Evaluator Unit)) loose () x = some x :=
    fun x => by simp [confirmOne]
  rw [extractPuzzles_nonpos memoryless nonpos, List.filterMap_congr fun x _ => unconfirmed x,
    List.filterMap_some, dedupe_eq_foldl, byPlyAndType_of_sorted (framed_in_order.filter _)]
  decide +kernel

end Analysis

end Analysis
end Tactician
