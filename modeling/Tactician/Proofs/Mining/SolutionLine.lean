import Mathlib
import Tactician.Proofs.Mining.Candidate

/-!
# Solution lines of mined puzzles

A puzzle's solution is the legal prefix of the best line of the evaluation it was graded on, cut
to the configured line limit, and its move is the first move of that cut.  The filter chain checks
the length of the legal prefix only on the evaluation a candidate was framed from; a re-grading
from a deeper search checks the deeper line again only through the tactical filter, which looks at
the same legal prefix.  So the line stays non-empty when the limit is positive and the tactical
filter runs or no confirmation pass does, and under those two conditions an analysis either fails
for a documented reason or returns puzzles whose lines are non-empty, legal from their positions
and led by their moves.  Without them a build can meet an empty line.
-/

namespace Tactician
namespace Analysis

open Chess Tactics

/-! ## Legal lines -/

/-- Whether each move of a line is allowed in the position the moves before it reach. -/
def allowsLine : Position → List Move → Bool
  | _, [] => true
  | p, m :: rest => p.allows (.move m) && allowsLine (p.play m) rest

/-- The legal prefix of a line is legal move by move. -/
theorem allowsLine_legalLine (p : Position) (pv : List String) :
    allowsLine p (legalLine p pv) = true := by
  induction pv generalizing p with
  | nil => rfl
  | cons t rest ih =>
      unfold legalLine
      split
      · split
        · rename_i m _ allowed
          simp [allowsLine, allowed, ih]
        · rfl
      · rfl

/-- Every prefix of a legal line is legal. -/
theorem allowsLine_take {p : Position} {ms : List Move} (legal : allowsLine p ms = true)
    (n : Nat) : allowsLine p (ms.take n) = true := by
  induction ms generalizing p n with
  | nil => simp [allowsLine]
  | cons m rest ih =>
      cases n with
      | zero => rfl
      | succ n =>
          simp only [allowsLine, Bool.and_eq_true] at legal
          simp [allowsLine, legal.1, ih legal.2 n]

/-- A signed cut is a cut at some length. -/
theorem exists_takeSigned_eq_take {α : Type} (xs : List α) (n : Int) :
    ∃ k, takeSigned xs n = xs.take k := by
  unfold takeSigned
  split
  · exact ⟨_, rfl⟩
  · exact ⟨_, rfl⟩

/-- A positive signed cut of a non-empty list is non-empty. -/
theorem takeSigned_ne_nil {α : Type} {xs : List α} {n : Int} (nonempty : xs ≠ [])
    (positive : 1 ≤ n) : takeSigned xs n ≠ [] := by
  rw [takeSigned, if_pos (by omega)]
  simp only [ne_eq, List.take_eq_nil_iff, not_or]
  exact ⟨by omega, nonempty⟩

/-- The cut legal prefix of a line is legal move by move. -/
theorem allowsLine_solution (p : Position) (pv : List String) (limit : Int) :
    allowsLine p (takeSigned (legalLine p pv) limit) = true := by
  obtain ⟨k, cut⟩ := exists_takeSigned_eq_take (legalLine p pv) limit
  rw [cut]
  exact allowsLine_take (allowsLine_legalLine p pv) k

/-! ## Filters that see the legal prefix -/

/-- A best line that passes the length filter has a non-empty legal prefix. -/
theorem legalLine_ne_nil_of_isLongEnough {p : Position} {e : Evaluation} {c : Config}
    (long : isLongEnough p e c = true) :
    ∃ best, e.best? = some best ∧ legalLine p best.pv ≠ [] := by
  unfold isLongEnough at long
  split at long
  · rename_i best best_eq
    have long : 1 ≤ ((legalLine p best.pv).length : Int) :=
      le_trans (le_max_left _ _) (of_decide_eq_true long)
    refine ⟨best, best_eq, fun empty => ?_⟩
    simp [empty] at long
  · cases long

/-- The forcing-move search walks the legal prefix only, so a line it finds a forcing move in has
a non-empty legal prefix. -/
theorem legalLine_ne_nil_of_containsTactic {p : Position} {pv : List String} {lookahead : Nat}
    (forcing : containsTactic p pv lookahead = true) : legalLine p pv ≠ [] := by
  intro empty
  simp [containsTactic, empty, containsTactic.go] at forcing

/-- When the tactical filter is on, a best line that passes it has a non-empty legal prefix. -/
theorem legalLine_ne_nil_of_isTactical {p : Position} {e : Evaluation} {c : Config}
    (required : c.requireTactical = true) (tactical : isTactical p e c = true) :
    ∃ best, e.best? = some best ∧ legalLine p best.pv ≠ [] := by
  unfold isTactical at tactical
  rw [required] at tactical
  split at tactical
  · rename_i best best_eq
    exact ⟨best, best_eq, legalLine_ne_nil_of_containsTactic (by simpa using tactical)⟩
  · simp at tactical

/-- A surviving candidate still has a non-empty legal best line after the confirmation pass,
provided the re-grading runs the tactical filter or no re-grading happens. -/
theorem legalLine_ne_nil_of_regraded {σ : Type} {ev : Option (Evaluator σ)} {c : Config}
    {cand final : Candidate} (checked : c.requireTactical = true ∨ c.confirmationEnabled = false)
    (kept : survives cand c = true) (regraded : Regraded ev c cand final) :
    ∃ best, final.evaluation.best? = some best ∧ legalLine final.position best.pv ≠ [] := by
  rcases regraded with rfl | ⟨d, answered, deeper⟩
  · exact legalLine_ne_nil_of_isLongEnough (survives_eq_true.mp kept).2.2.2.2
  · obtain ⟨-, -, -, -, -, -, -, -, -, -, -, tactical, rfl⟩ := reconfirm_eq_some.mp deeper
    rcases checked with required | disabled
    · exact legalLine_ne_nil_of_isTactical required tactical
    · exact absurd answered.1 (by simp [disabled])

/-! ## Built puzzles -/

/-- The position a puzzle starts from, read from its FEN as its candidate's was. -/
def Puzzle.position (p : Puzzle) : Position :=
  match Position.ofFen p.fen with
  | .ok q => q
  | .error _ => default

/-- A puzzle reads its position as the candidate with the same FEN does. -/
theorem Puzzle.position_eq_of_fen {p : Puzzle} {cand : Candidate} (same : p.fen = cand.fen) :
    p.position = cand.position := by
  rcases read : Position.ofFen cand.fen with _ | q <;>
    simp [Puzzle.position, Candidate.position, same, read]

/-- What a puzzle's solution is, given the best line of the evaluation it was graded on. -/
structure SolvedBy (c : Config) (p : Puzzle) (best : EngineLine) : Prop where
  /-- The line is the legal prefix of the best line from the puzzle's position, cut to the limit. -/
  cut : p.bestLine = (takeSigned (legalLine p.position best.pv) c.maxLinePlies).map Move.uci
  nonempty : p.bestLine ≠ []
  /-- The moves of the line are legal one after another from the puzzle's position. -/
  legal : allowsLine p.position (takeSigned (legalLine p.position best.pv) c.maxLinePlies) = true
  first : p.bestLine.head? = some p.bestMove
  score : p.score = best.score

/-- A built puzzle is solved by the best line of its candidate's evaluation. -/
theorem solvedBy_of_buildPuzzle {cand : Candidate} {opening : Openings.Info} {c : Config}
    {p : Puzzle} (built : buildPuzzle cand opening c = .ok p) :
    ∃ best, cand.evaluation.best? = some best ∧ SolvedBy c p best := by
  obtain ⟨best, first, rest, best_eq, line_eq, p_eq⟩ := buildPuzzle_eq_ok.mp built
  have position : p.position = cand.position :=
    Puzzle.position_eq_of_fen (buildPuzzle_posed built).2.2
  refine ⟨best, best_eq, ⟨?_, ?_, ?_, ?_, ?_⟩⟩
  · rw [position, line_eq, p_eq]
  · rw [p_eq]
    exact List.cons_ne_nil _ _
  · rw [position]
    exact allowsLine_solution _ _ _
  · rw [p_eq]
    rfl
  · rw [p_eq]

/-- A built puzzle fails only on an empty line, so a candidate with a non-empty legal best line
builds under a positive limit. -/
theorem buildPuzzle_ne_error {cand : Candidate} {opening : Openings.Info} {c : Config}
    {f : Failure} (positive_limit : 1 ≤ c.maxLinePlies)
    (nonempty : ∃ best, cand.evaluation.best? = some best ∧ legalLine cand.position best.pv ≠ []) :
    buildPuzzle cand opening c ≠ .error f := by
  intro failed
  obtain ⟨best, best_eq, line⟩ := nonempty
  exact takeSigned_ne_nil line positive_limit ((buildPuzzle_eq_error.mp failed).2 best best_eq)

/-! ## Whole analyses -/

/-- The failures an analysis documents: a PGN that gives no game, and the three failures of the
evaluation stage; a book that cannot be walked for the game, which the default book never is,
counts with them.  A solution line that comes out empty is none of them. -/
def Failure.Documented : Failure → Prop
  | .emptyLine => False
  | _ => True

/-- With a positive line limit, and with the tactical filter on or no confirmation pass, an
analysis fails only for a documented reason, and each puzzle it returns is solved by the best line
of the evaluation it was graded on: the analysis's own evaluation of the position, or the
evaluator's deeper answer for it. -/
theorem analyzeGame_solutions_legal {σ : Type} (pgn : String) (c : Config)
    (ev : Option (Evaluator σ)) (supplied : Evaluations) (username userColor : Option String)
    (book : Openings.Book) (st : σ) (positive_limit : 1 ≤ c.maxLinePlies)
    (checked : c.requireTactical = true ∨ c.confirmationEnabled = false) :
    match ((analyzeGame pgn c ev supplied username userColor book).run st).1 with
    | .ok a => ∀ p ∈ a.puzzles, ∃ e best,
        (a.evaluations.at? p.sourcePly = some e ∨ Answered ev c p.fen e) ∧ e.best? = some best ∧
          SolvedBy c p best
    | .error f => f.Documented := by
  split
  · rename_i a run
    intro p member
    obtain ⟨-, -, -, -, final, -, built, evaluated⟩ := exists_evaluated_of_mem_puzzles run member
    obtain ⟨best, best_eq, solved⟩ := solvedBy_of_buildPuzzle built
    exact ⟨final.evaluation, best, evaluated, best_eq, solved⟩
  · rename_i f run
    rcases analyzeGame_eq_error run with
      ⟨e, -, rfl⟩ | ⟨g, e, -, -, rfl⟩ | rfl | ⟨n, rfl⟩ | ⟨m, rfl⟩ |
        ⟨g, es, opening, user, -, cand, -, kept, final, regraded, built⟩
    · trivial
    · trivial
    · trivial
    · trivial
    · trivial
    · exact (buildPuzzle_ne_error positive_limit
        (legalLine_ne_nil_of_regraded checked kept regraded) built).elim

/-- Mining the scholar's mate from its first ply without the forcing-move filter meets both
conditions, and every puzzle found in it is solved by a legal line. -/
theorem analyzeGame_solutions_legal_scholarsMate :
    1 ≤ firstPlyConfig.maxLinePlies ∧
      (firstPlyConfig.requireTactical = true ∨ firstPlyConfig.confirmationEnabled = false) ∧
      match ((analyzeGame scholarsMate firstPlyConfig (none : Option (Evaluator Unit))
          scholarsMateEvaluations none none Openings.defaultBook).run ()).1 with
      | .ok a => ∀ p ∈ a.puzzles, ∃ e best,
          (a.evaluations.at? p.sourcePly = some e ∨
            Answered (none : Option (Evaluator Unit)) firstPlyConfig p.fen e) ∧
            e.best? = some best ∧ SolvedBy firstPlyConfig p best
      | .error f => f.Documented :=
  ⟨by decide, .inr rfl,
    analyzeGame_solutions_legal scholarsMate firstPlyConfig none scholarsMateEvaluations none none
      Openings.defaultBook () (by decide) (.inr rfl)⟩

/-- The settings accept a line limit of zero, which empties every solution line: the mate in one
framed at ply 6 of a short game fails to build. -/
theorem buildPuzzle_zero_limit_mate_in_one :
    ({ minPvMoves := 1, openingSkipPlies := 0, maxLinePlies := 0 } : Config).validate.toBool =
        true ∧
      buildPuzzle
        { type := .avoidBlunder, sourcePly := 6,
          fen := "r1bqkb1r/pppp1ppp/2n2n2/4p2Q/2B1P3/8/PPPP1PPP/RNB1K1NR w KQkq - 4 4",
          evaluation :=
            { fen := "r1bqkb1r/pppp1ppp/2n2n2/4p2Q/2B1P3/8/PPPP1PPP/RNB1K1NR w KQkq - 4 4",
              lines := [{ move := "h5f7", score := { mate := some 1 }, pv := ["h5f7"] },
                { move := "c4f7", score := { cp := some 300 }, pv := ["c4f7", "e8e7"] }] },
          swing := 9950, kind := .blunder, severity := 3, referenceCp := 50 }
        {} { minPvMoves := 1, openingSkipPlies := 0, maxLinePlies := 0 } = .error .emptyLine :=
  ⟨by decide, rfl⟩

end Analysis
end Tactician
