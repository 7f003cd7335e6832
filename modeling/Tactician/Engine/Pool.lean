import Tactician.Engine.Search
import Tactician.Engine.Host
import Tactician.Analysis.Evaluator
import Tactician.Chess.Fen

/-!
# Engine pools

An evaluator keeps a pool of started engines, taken in turn and put back after each search.  An
engine that died is restarted when it is next taken.  A position without legal moves is answered
with an empty evaluation and never searched; otherwise the engine is asked for as many lines as
wanted, but never more than there are legal moves.

Blocking analyses are cached by position text, time and lines, least recently used first out.
A streaming search hands out its snapshots (those below a minimum depth are kept back but still
count as the result).  Of two streaming searches started on one position, the first is cancelled
before it reaches the engine and takes the second one's result.
-/

namespace Tactician
namespace Engine

open Chess Analysis

/-- Why the evaluator failed. -/
inductive Failure where
  /-- The position text is not FEN. -/
  | badFen (e : FenError)
  /-- The environment names no engine. -/
  | notFound
  /-- The engine program could not be started. -/
  | cannotStart (path : String) (reason : String)
  /-- A search produced no snapshot. -/
  | noEvaluation (fen : String) (reason : String)
  /-- A streaming search failed while it ran. -/
  | searchFailed (fen : String) (reason : String)
  deriving Repr

/-- The text of a failure. -/
def Failure.message : Failure → String
  | .badFen e => e.message
  | .notFound => "Stockfish not found. Install it or set STOCKFISH_PATH."
  | .cannotStart path reason => "Could not start Stockfish at " ++ path ++ ": " ++ reason
  | .noEvaluation fen reason => "No evaluation for " ++ fen ++ ": " ++ reason
  | .searchFailed fen reason => "Search failed for " ++ fen ++ ": " ++ reason

/-- Whether a failure means the engine cannot be used at all. -/
def Failure.isUnavailable : Failure → Bool
  | .notFound => true
  | .cannotStart _ _ => true
  | _ => false

/-- A pool of engines with a cache of analyses. -/
structure Pool where
  /-- The engine program. -/
  path : String
  /-- The engines in the order they are taken: alive or dead. -/
  engines : List Bool
  /-- Cached analyses, least recently used first. -/
  cache : List (String × Evaluation) := []
  /-- How many analyses the cache keeps. -/
  cacheSize : Nat
  deriving Inhabited

/-- The evaluator's state: its pool and the host's state. -/
abbrev EngineM (σ : Type) := StateM (Pool × σ)

/-- Start a pool of `workers` engines (at least one) at the given path, or at the one the
environment names. -/
def Pool.start {σ : Type} (host : Host σ) (path : Option String) (workers cacheSize : Nat) :
    Except Failure Pool := do
  let chosen ← match (path.filter (!·.isEmpty)).orElse fun _ => host.configured with
    | some p => pure p
    | none => throw .notFound
  match host.launch chosen with
  | .error e => throw (.cannotStart chosen (e.message chosen))
  | .ok () => pure { path := chosen, engines := List.replicate (max 1 workers) true,
                     cacheSize := cacheSize }

/-- Take an engine, restarting it if it died; put it back at the end of the queue. -/
def takeEngine {σ : Type} (host : Host σ) : EngineM σ (Except Failure Unit) := do
  let (pool, s) ← get
  match pool.engines with
  | [] => return .ok ()
  | alive :: rest =>
    if alive then
      set ({ pool with engines := rest ++ [true] }, s)
      return .ok ()
    else match host.launch pool.path with
      | .ok () =>
        set ({ pool with engines := rest ++ [true] }, s)
        return .ok ()
      | .error e =>
        set ({ pool with engines := rest ++ [false] }, s)
        return .error (.cannotStart pool.path (e.message pool.path))

/-- Mark the engine used last as dead. -/
def markLastDead {σ : Type} : EngineM σ Unit :=
  modify fun (pool, s) => ({ pool with engines := pool.engines.dropLast ++ [false] }, s)

/-- Run the host's search and read its reports. -/
def hostSearch {σ : Type} (host : Host σ) (p : Position) (wanted : Nat)
    (args : String) : EngineM σ (Option (List SearchInfo)) := do
  let (pool, s) ← get
  let (out, s') := (host.go p.fenWithPassing wanted args).run s
  set (pool, s')
  match out with
  | some lines => return some (lines.filterMap (readInfo p))
  | none => return none

/-- Run one search: its snapshots, and the reason it failed, if it did. -/
def runSearch {σ : Type} (host : Host σ) (fen : String) (p : Position) (lines : Int)
    (depth movetime : Option Int) : EngineM σ (SearchRecord × Option Failure) := do
  match ← takeEngine host with
  | .error f => return ({}, some f)
  | .ok () =>
    let wanted := min (max 1 lines).toNat p.legalMoves.length
    if wanted == 0 then return (⟨[⟨fen, [], 0⟩]⟩, none)
    match ← hostSearch host p wanted (goArguments depth movetime) with
    | some infos => return (searchRecord fen wanted infos, none)
    | none =>
      markLastDead
      return ({}, some (.noEvaluation fen "engine event loop dead"))

/-- The reason text of a search failure. -/
def reasonOf (f : Failure) : String :=
  match f with
  | .noEvaluation _ r => r
  | other => other.message

/-- The result of a search, from its snapshots and failure. -/
def searchResult (fen : String) (r : SearchRecord) (f : Option Failure) : Except Failure Evaluation :=
  match r.latest, f with
  | some e, _ => .ok e
  | none, some err => if err.isUnavailable then .error err else .error (.noEvaluation fen (reasonOf err))
  | none, none => .error (.noEvaluation fen "no result")

/-- A time limit in milliseconds, zero meaning none. -/
def timeLimit (ms : Option Int) : Option Int := ms.filter (· != 0)

/-- Analyse a position with a time budget, through the cache. -/
def analyse {σ : Type} (host : Host σ) (fen : String) (movetime lines : Int) :
    EngineM σ (Except Failure Evaluation) := do
  let key := fen ++ "::" ++ toString movetime ++ "::" ++ toString lines
  let (pool, s) ← get
  match pool.cache.find? (fun (entry : String × Evaluation) => entry.1 == key) with
  | some (_, e) =>
    set ({ pool with
      cache := pool.cache.filter (fun (entry : String × Evaluation) => entry.1 != key) ++ [(key, e)] },
      s)
    return .ok e
  | none =>
    match Position.ofFen fen with
    | .error e => return .error (.badFen e)
    | .ok p =>
      let (record, failure) ← runSearch host fen p lines none (timeLimit (some movetime))
      let result := searchResult fen record failure
      if let .ok e := result then
        modify fun (pool, s) =>
          let cache := pool.cache ++ [(key, e)]
          ({ pool with cache := cache.drop (cache.length - pool.cacheSize) }, s)
      return result

/-- What a streaming search handed out. -/
structure Stream where
  /-- The snapshots handed out. -/
  snapshots : List Evaluation
  /-- The failure raised while handing them out, if any. -/
  failure : Option Failure
  /-- The result. -/
  result : Except Failure Evaluation

/-- Run a streaming search. -/
def evaluate {σ : Type} (host : Host σ) (fen : String) (lines : Int)
    (minDepth maxDepth maxTime : Option Int) : EngineM σ (Except Failure Stream) := do
  match Position.ofFen fen with
  | .error e => return .error (.badFen e)
  | .ok p =>
    let (record, failure) ← runSearch host fen p lines maxDepth (timeLimit maxTime)
    let shown := record.snapshots.filter fun e => minDepth.all (e.depth ≥ ·)
    return .ok ⟨shown, failure.map fun f => .searchFailed fen (reasonOf f),
      searchResult fen record failure⟩

/-- Start two streaming searches on one position, the second superseding the first: both
results. -/
def supersede {σ : Type} (host : Host σ) (fen : String) (lines : Int) (maxDepth : Option Int) :
    EngineM σ (Except Failure (List (Except Failure Evaluation))) := do
  match Position.ofFen fen with
  | .error e => return .error (.badFen e)
  | .ok _ =>
    match ← takeEngine host with
    | .error f => return .ok [.error f, .error f]
    | .ok () =>
      match ← evaluate host fen lines none maxDepth none with
      | .ok s => return .ok [s.result, s.result]
      | .error f => return .error f

/-- The pool as an evaluator for analyses. -/
def Pool.evaluator {σ : Type} (host : Host σ) : Evaluator (Pool × σ) where
  analyse fen movetime lines := do
    match ← analyse host fen movetime lines with
    | .ok e => return .ok e
    | .error f => return .error (if f.isUnavailable then .unavailable f.message else .failed f.message)

end Engine
end Tactician
