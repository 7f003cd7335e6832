import Tactician.Engine.Info

/-!
# Searches as snapshots

A search keeps the latest line of each rank.  Whenever the report for the last wanted rank
arrives and every rank is filled, it publishes a snapshot of the ranked lines at the latest depth.
When the engine stops, a final snapshot is published if it differs from the last one in its lines
or depth.  The result of a search is its last snapshot.

The limits of a search become the arguments of the engine's `go` command: a depth (at least 1)
and then a time in milliseconds (at least 1); no limit at all gives an empty argument text.
-/

namespace Tactician
namespace Engine

open Analysis

/-- The lines kept by a search, by rank. -/
abbrev RankedLines := List (Int × EngineLine)

/-- Keep a line at its rank, replacing an earlier one. -/
def RankedLines.put (ls : RankedLines) (rank : Int) (l : EngineLine) : RankedLines :=
  if ls.any (·.1 == rank) then ls.map fun e => if e.1 == rank then (rank, l) else e
  else ls ++ [(rank, l)]

/-- The lines in rank order. -/
def RankedLines.ordered (ls : RankedLines) : List EngineLine :=
  (ls.mergeSort fun a b => a.1 ≤ b.1).map (·.2)

/-- What a search produced: its snapshots in order of publication. -/
structure SearchRecord where
  /-- The published snapshots. -/
  snapshots : List Evaluation := []
  deriving Inhabited

/-- The result of a search: its last snapshot. -/
def SearchRecord.latest (r : SearchRecord) : Option Evaluation := r.snapshots.getLast?

/-- The state of a search while reports arrive. -/
structure Progress where
  /-- The lines by rank. -/
  lines : RankedLines := []
  /-- The latest depth. -/
  depth : Int := 0
  /-- The snapshots so far. -/
  record : SearchRecord := {}

/-- Take one report into a search for `wanted` lines of the position `fen`. -/
def Progress.step (fen : String) (wanted : Nat) (s : Progress) (i : SearchInfo) : Progress :=
  match i.line? with
  | none => s
  | some l =>
    let rank := i.rank.getD 1
    let lines := s.lines.put rank l
    let depth := i.depth.getD s.depth
    let publish := rank == (wanted : Int) && lines.length ≥ wanted
    { lines := lines, depth := depth,
      record := if publish then ⟨s.record.snapshots ++ [⟨fen, lines.ordered, depth⟩]⟩
        else s.record }

/-- Run a search for `wanted` lines of the position `fen` over the engine's reports. -/
def searchRecord (fen : String) (wanted : Nat) (infos : List SearchInfo) : SearchRecord :=
  let s := infos.foldl (Progress.step fen wanted) {}
  if s.lines.isEmpty then s.record else
  let final : Evaluation := ⟨fen, s.lines.ordered, s.depth⟩
  match s.record.latest with
  | some last => if last.lines == final.lines && last.depth == final.depth then s.record
    else ⟨s.record.snapshots ++ [final]⟩
  | none => ⟨[final]⟩

/-- The arguments of the `go` command for a depth and a time limit. -/
def goArguments (depth : Option Int) (movetime : Option Int) : String :=
  let parts := (match depth with
    | some d => ["depth", toString (max 1 d)]
    | none => []) ++
    (match movetime with
    | some t => ["movetime", toString (max 1 t)]
    | none => [])
  String.intercalate " " parts

end Engine
end Tactician
