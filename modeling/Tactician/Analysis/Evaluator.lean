import Tactician.Analysis.Evaluation

/-!
# Evaluators

An evaluator answers `analyse fen movetime lines` with an evaluation, or fails: either this one
position could not be evaluated, or the engine as a whole is unavailable.  Evaluators may keep
state between requests (a cache, a log of requests, a process to restart), threaded through a
state monad so that analyses stay pure functions.
-/

namespace Tactician
namespace Analysis

/-- Why an evaluation was not had. -/
inductive EvalFailure where
  /-- This position could not be evaluated. -/
  | failed (message : String)
  /-- The engine cannot be used at all. -/
  | unavailable (message : String)
  deriving DecidableEq, Repr

/-- The message of a failure. -/
def EvalFailure.message : EvalFailure → String
  | .failed m => m
  | .unavailable m => m

/-- A source of evaluations with state `σ`. -/
structure Evaluator (σ : Type) where
  /-- Evaluate a position given as FEN with a time budget and a number of lines. -/
  analyse : String → Int → Int → StateM σ (Except EvalFailure Evaluation)

end Analysis
end Tactician
