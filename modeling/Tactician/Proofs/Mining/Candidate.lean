import Mathlib
import Tactician.Proofs.Mining.Pipeline

/-!
# Classified moves and candidates

What each step of framing and grading can produce, said once so that later proofs never unfold
the steps: the facts a classified move records about its ply (`ClassifiedAt`), the two framings of
a move, the mode gate that collects them, and the re-grading of a candidate from a deeper search.
The score after a move is named `scoreAfter`: the finished position's own score when the position
is over on its own, and otherwise its evaluation.
-/

namespace Tactician
namespace Analysis

open Chess

/-! ## Classified moves -/

/-- The score of the position after move `ply` for its side to move: minus the mate value or zero
when the position is over on its own, its evaluation otherwise. -/
def scoreAfter (g : Pgn.Game) (es : Evaluations) (c : Config) (ply : Nat) : Option Int :=
  (terminalCp (g.positionAt (ply + 1)) c.mateScoreCp).orElse fun _ =>
    positionCp (es.at? (ply + 1)) c.mateScoreCp

/-- What a classified move records about its ply of the game. -/
structure ClassifiedAt (g : Pgn.Game) (es : Evaluations) (c : Config) (p : ClassifiedPly) :
    Prop where
  ply_lt : p.ply < g.plyCount
  moveUci : p.moveUci = (g.moves.getD p.ply Move.null).uci
  mover : p.mover = g.moverAt p.ply
  fenBefore : p.fenBefore = g.fens.getD p.ply ""
  fenAfter : p.fenAfter = g.fens.getD (p.ply + 1) ""
  beforeCp : p.beforeCp = positionCp (es.at? p.ply) c.mateScoreCp
  afterCp : p.afterCp = (scoreAfter g es c p.ply).map (- ·)
  swing : ∀ s, p.swing = some s →
    ∃ b a, p.beforeCp = some b ∧ scoreAfter g es c p.ply = some a ∧ s = b + a

theorem classifiedAt_of_mem {g : Pgn.Game} {es : Evaluations} {c : Config} {p : ClassifiedPly}
    (member : p ∈ classifyGame g es c) : ClassifiedAt g es c p := by
  unfold classifyGame at member
  obtain ⟨ply, ply_mem, rfl⟩ := List.mem_map.mp member
  have ply_lt := List.mem_range.mp ply_mem
  dsimp only
  split
  · rename_i b a before_eq after_eq
    exact ⟨ply_lt, rfl, rfl, rfl, rfl, rfl, by simp [scoreAfter],
      fun s swing_eq => ⟨b, a, before_eq, after_eq, by simpa using swing_eq.symm⟩⟩
  · exact ⟨ply_lt, rfl, rfl, rfl, rfl, rfl, rfl, fun s swing_eq => by cases swing_eq⟩

/-! ## Framing -/

/-- The avoiding framing of a move exists exactly when its position has a best line other than
the move played and the swing reaches a bucket; it poses the position before the move. -/
theorem avoidCandidate_eq_some {p : ClassifiedPly} {es : Evaluations} {c : Config}
    {cand : Candidate} :
    avoidCandidate p es c = some cand ↔
      ∃ e best swing after kind, es.at? p.ply = some e ∧ e.best? = some best ∧
        best.move ≠ p.moveUci ∧ p.swing = some swing ∧ p.afterCp = some after ∧
        classifyKind swing p.beforeCp c = some kind ∧
        cand = ⟨.avoidBlunder, p.ply, p.fenBefore, e, swing, kind, severityForSwing swing c,
          after⟩ := by
  unfold avoidCandidate
  constructor
  · intro framed
    simp only [bind, Option.bind_eq_some_iff] at framed
    obtain ⟨e, at_ply, best, best_eq, framed⟩ := framed
    split at framed
    · simp at framed
    rename_i differs
    simp only [Option.bind_eq_some_iff, Option.some.injEq] at framed
    obtain ⟨swing, swing_eq, after, after_eq, kind, kind_eq, rfl⟩ := framed
    exact ⟨e, best, swing, after, kind, at_ply, best_eq, by simpa using differs, swing_eq,
      after_eq, kind_eq, rfl⟩
  · rintro ⟨e, best, swing, after, kind, at_ply, best_eq, differs, swing_eq, after_eq, kind_eq,
      rfl⟩
    simp [at_ply, best_eq, differs, swing_eq, after_eq, kind_eq]

/-- The punishing framing of a move exists exactly when the next position does not end the game,
has a best line, the swing reaches a bucket judged from that position, and the game did not find
the engine's reply when such puzzles are skipped; it poses the position after the move. -/
theorem punishCandidate_eq_some {g : Pgn.Game} {p : ClassifiedPly} {es : Evaluations}
    {c : Config} {cand : Candidate} :
    punishCandidate g p es c = some cand ↔
      ∃ e best swing before kind, p.ply + 1 ∉ g.terminalPlies ∧ es.at? (p.ply + 1) = some e ∧
        e.best? = some best ∧ p.swing = some swing ∧ p.beforeCp = some before ∧
        classifyKind swing (positionCp (some e) c.mateScoreCp) c = some kind ∧
        ¬(c.skipPunishedBlunders = true ∧ (g.moves[p.ply + 1]?).map Move.uci = some best.move) ∧
        cand = ⟨.punishBlunder, p.ply + 1, p.fenAfter, e, swing, kind, severityForSwing swing c,
          before⟩ := by
  unfold punishCandidate
  constructor
  · intro framed
    simp only [bind] at framed
    split at framed
    · simp at framed
    rename_i live
    simp only [Option.bind_eq_some_iff] at framed
    obtain ⟨e, at_start, best, best_eq, swing, swing_eq, before, before_eq, kind, kind_eq,
      framed⟩ := framed
    split at framed
    · simp at framed
    rename_i unpunished
    simp only [Option.some.injEq] at framed
    subst framed
    exact ⟨e, best, swing, before, kind, by simpa using live, at_start, best_eq, swing_eq,
      before_eq, kind_eq, by simpa using unpunished, rfl⟩
  · rintro ⟨e, best, swing, before, kind, live, at_start, best_eq, swing_eq, before_eq, kind_eq,
      unpunished, rfl⟩
    have kept : ¬(c.skipPunishedBlunders = true ∧
        ∃ reply, g.moves[p.ply + 1]? = some reply ∧ reply.uci = best.move) := by
      simpa using unpunished
    simp [live, at_start, best_eq, swing_eq, before_eq, kind_eq, kept]

/-- A candidate comes from a classified move past the opening window, through a framing that the
puzzle mode and the user's side allow. -/
theorem mem_findCandidates {g : Pgn.Game} {cs : List ClassifiedPly} {es : Evaluations}
    {c : Config} {user : Option String} {cand : Candidate} :
    cand ∈ findCandidates g cs es c user ↔
      ∃ p ∈ cs, c.openingSkipPlies ≤ p.ply ∧ p.label ≠ .unclassified ∧
        ((c.puzzleMode ≠ .punishBlunder ∧ isSide user p.mover true = true ∧
            avoidCandidate p es c = some cand) ∨
          (c.puzzleMode ≠ .avoidBlunder ∧ isSide user p.mover false = true ∧
            punishCandidate g p es c = some cand)) := by
  unfold findCandidates
  simp only [List.mem_flatMap]
  apply exists_congr
  intro p
  by_cases early : (p.ply : Int) < c.openingSkipPlies
  · simp [early, not_le.mpr early]
  by_cases label : p.label = .unclassified
  · simp [label]
  simp [early, label, not_lt.mp early, and_assoc]

/-- A framed candidate carries the evaluation the analysis holds for its position. -/
theorem evaluation_of_mem_findCandidates {g : Pgn.Game} {cs : List ClassifiedPly}
    {es : Evaluations} {c : Config} {user : Option String} {cand : Candidate}
    (framed : cand ∈ findCandidates g cs es c user) :
    es.at? cand.sourcePly = some cand.evaluation := by
  obtain ⟨p, -, -, -, (⟨-, -, avoid⟩ | ⟨-, -, punish⟩)⟩ := mem_findCandidates.mp framed
  · obtain ⟨e, -, -, -, -, at_ply, -, -, -, -, -, rfl⟩ := avoidCandidate_eq_some.mp avoid
    exact at_ply
  · obtain ⟨e, -, -, -, -, -, at_start, -, -, -, -, -, rfl⟩ := punishCandidate_eq_some.mp punish
    exact at_start

/-- The filter chain, one filter per conjunct. -/
theorem survives_eq_true {cand : Candidate} {c : Config} :
    survives cand c = true ↔
      inBand (positionCp (some cand.evaluation) c.mateScoreCp) c = true ∧
        isUnique cand.position cand.evaluation c = true ∧
        isTactical cand.position cand.evaluation c = true ∧
        isNonTrivial cand.position c = true ∧
        isLongEnough cand.position cand.evaluation c = true := by
  simp [survives, and_assoc]

/-! ## Re-grading -/

/-- A candidate survives a deeper search exactly when the search keeps the best move, scores the
start position within the band and bucket, and still passes the uniqueness and tactical filters;
the candidate then carries the deeper evaluation, with the swing recomputed from its score. -/
theorem reconfirm_eq_some {cand : Candidate} {d : Evaluation} {c : Config} {final : Candidate} :
    reconfirm cand d c = some final ↔
      ∃ best shallow start kind, d.best? = some best ∧ cand.evaluation.best? = some shallow ∧
        best.move = shallow.move ∧ positionCp (some d) c.mateScoreCp = some start ∧
        inBand (some start) c = true ∧
        classifyKind (cand.swingAt start) (some start) c = some kind ∧
        isUnique cand.position d c = true ∧ isTactical cand.position d c = true ∧
        final = { cand with evaluation := d, swing := cand.swingAt start, kind := kind,
                            severity := severityForSwing (cand.swingAt start) c } := by
  unfold reconfirm
  constructor
  · intro regraded
    simp only [bind, Option.bind_eq_some_iff] at regraded
    obtain ⟨best, best_eq, shallow, shallow_eq, regraded⟩ := regraded
    split at regraded
    · simp at regraded
    rename_i same
    simp only [Option.bind_eq_some_iff] at regraded
    obtain ⟨start, start_eq, regraded⟩ := regraded
    split at regraded
    · simp at regraded
    rename_i banded
    simp only [Option.bind_eq_some_iff] at regraded
    obtain ⟨kind, kind_eq, regraded⟩ := regraded
    split at regraded
    · simp at regraded
    rename_i filters
    simp only [Option.some.injEq] at regraded
    simp only [Bool.or_eq_true, Bool.not_eq_eq_eq_not, Bool.not_true, not_or,
      Bool.not_eq_false] at filters
    exact ⟨best, shallow, start, kind, best_eq, shallow_eq, by simpa using same, start_eq,
      by simpa using banded, kind_eq, filters.1, filters.2, regraded.symm⟩
  · rintro ⟨best, shallow, start, kind, best_eq, shallow_eq, same, start_eq, banded, kind_eq,
      unique, tactical, rfl⟩
    simp [best_eq, shallow_eq, same, start_eq, banded, kind_eq, unique, tactical]

/-- Re-grading keeps where the candidate is posed and the fixed half of its swing. -/
theorem Regraded.fields {σ : Type} {ev : Option (Evaluator σ)} {c : Config}
    {cand final : Candidate} (regraded : Regraded ev c cand final) :
    final.type = cand.type ∧ final.sourcePly = cand.sourcePly ∧ final.fen = cand.fen ∧
      final.referenceCp = cand.referenceCp := by
  rcases regraded with rfl | ⟨d, -, deeper⟩
  · exact ⟨rfl, rfl, rfl, rfl⟩
  · obtain ⟨-, -, -, -, -, -, -, -, -, -, -, -, rfl⟩ := reconfirm_eq_some.mp deeper
    exact ⟨rfl, rfl, rfl, rfl⟩

/-- After the confirmation pass a candidate carries either the analysis's evaluation of its
position or the evaluator's deeper answer for it. -/
theorem Regraded.evaluation {σ : Type} {ev : Option (Evaluator σ)} {c : Config} {es : Evaluations}
    {cand final : Candidate} (regraded : Regraded ev c cand final)
    (shallow : es.at? cand.sourcePly = some cand.evaluation) :
    es.at? final.sourcePly = some final.evaluation ∨ Answered ev c final.fen final.evaluation := by
  rcases regraded with rfl | ⟨d, answered, deeper⟩
  · exact .inl shallow
  · obtain ⟨-, -, -, -, -, -, -, -, -, -, -, -, rfl⟩ := reconfirm_eq_some.mp deeper
    exact .inr answered

/-! ## Puzzles of an analysis -/

/-- Every puzzle of a finished analysis is built from a surviving candidate that ended the
confirmation pass on an evaluation of the puzzle's position: the analysis's own, or the
evaluator's deeper answer. -/
theorem exists_evaluated_of_mem_puzzles {σ : Type} {pgn : String} {c : Config}
    {ev : Option (Evaluator σ)} {supplied : Evaluations} {username userColor : Option String}
    {book : Openings.Book} {st : σ} {a : GameAnalysis}
    (run : ((analyzeGame pgn c ev supplied username userColor book).run st).1 = .ok a)
    {p : Puzzle} (member : p ∈ a.puzzles) :
    a.classified = classifyGame a.game a.evaluations c ∧
      ∃ cand ∈ findCandidates a.game a.classified a.evaluations c a.userColor,
        survives cand c = true ∧ ∃ final, Regraded ev c cand final ∧
          buildPuzzle final a.opening c = .ok p ∧
          (a.evaluations.at? p.sourcePly = some final.evaluation ∨
            Answered ev c p.fen final.evaluation) := by
  obtain ⟨-, classified, cand, framed, kept, final, regraded, built⟩ :=
    exists_candidate_of_mem_puzzles run member
  have evaluated := regraded.evaluation (evaluation_of_mem_findCandidates framed)
  obtain ⟨-, source_eq, fen_eq⟩ := buildPuzzle_posed built
  rw [← source_eq, ← fen_eq] at evaluated
  exact ⟨classified, cand, framed, kept, final, regraded, built, evaluated⟩

end Analysis
end Tactician
