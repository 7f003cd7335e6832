import Tactician.Analysis.Evaluator
import Tactician.Analysis.Extract

/-!
# Evaluations from a table

An evaluator that answers from fixed tables instead of searching: one table for ordinary requests
and one for deeper requests, recognised by their time budget.  Entries are keyed by the first four
FEN fields (a later entry for the same position replaces an earlier one); an entry is either an
evaluation, answered as written, or a failure.  The evaluator records every request it receives.
-/

namespace Tactician
namespace Analysis

/-- What a table holds for one position. -/
inductive TableEntry where
  /-- An evaluation to answer with. -/
  | answer (e : Evaluation)
  /-- A failure to report. -/
  | failure (fen : String) (f : EvalFailure)
  deriving Inhabited

/-- The position an entry is for. -/
def TableEntry.fen : TableEntry → String
  | .answer e => e.fen
  | .failure fen _ => fen

/-- Tables of evaluations. -/
structure EvalTable where
  /-- Entries for ordinary requests. -/
  table : List TableEntry := []
  /-- Entries for deeper requests. -/
  deeper : List TableEntry := []
  /-- The time budget that marks a deeper request. -/
  deeperMovetime : Option Int := none

/-- A request: position, time budget and number of lines. -/
abbrev Request := String × Int × Int

/-- The last entry for a position. -/
def lookupEntry (entries : List TableEntry) (fen : String) : Option TableEntry :=
  entries.foldl (fun found e => if samePosition e.fen fen then some e else found) none

/-- The answer of the tables to a request. -/
def EvalTable.answer (t : EvalTable) (fen : String) (movetime : Int) : Except EvalFailure Evaluation :=
  let deeper := if t.deeperMovetime == some movetime then lookupEntry t.deeper fen else none
  match deeper.orElse fun _ => lookupEntry t.table fen with
  | some (.answer e) => .ok e
  | some (.failure _ f) => .error f
  | none => .error (.failed ("No scripted evaluation for " ++ fen))

/-- The evaluator of the tables, recording its requests. -/
def EvalTable.evaluator (t : EvalTable) : Evaluator (List Request) where
  analyse fen movetime lines := do
    modify (· ++ [(fen, movetime, lines)])
    return t.answer fen movetime

end Analysis
end Tactician
