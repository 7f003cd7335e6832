import Mathlib
import Tactician.Proofs.Mining.Framing

/-!
# How puzzles are graded

A puzzle carries the score, swing, bucket and severity of the evaluation it was finally graded on.
The bucket and the severity are always those of its swing and starting score, the starting score
lies in the evaluation band, the best line stands out by the uniqueness margin and holds a forcing
move in reach when those filters are on.  The swing is the score change of the blunder: the
starting score less the mover's score after the move for an avoiding puzzle, the mover's score
before the move plus the starting score for a punishing one.  For a punishing puzzle that kept its
first evaluation this holds only when its position is not over on its own: classification scores
such a position as finished, the evaluation scores it as a position to play.
-/

namespace Tactician
namespace Analysis

open Chess Tactics

/-! ## What the filters mean -/

/-- The band test: each bound that is set holds. -/
theorem inBand_some_iff {s : Int} {c : Config} :
    inBand (some s) c = true ↔
      (∀ lo, c.evalBandMinCp = some lo → lo ≤ s) ∧ (∀ hi, c.evalBandMaxCp = some hi → s ≤ hi) := by
  rcases lo_eq : c.evalBandMinCp with _ | lo <;> rcases hi_eq : c.evalBandMaxCp with _ | hi <;>
    simp [inBand, lo_eq, hi_eq]

/-- What the uniqueness test asks once a margin is set: a second line whose score is at least the
margin below the best's, or no second line and at most one legal move. -/
def StandsOut (q : Position) (e : Evaluation) (ceiling margin : Int) : Prop :=
  ∃ best, e.best? = some best ∧
    ((∃ second b s, e.second? = some second ∧ best.score.toCp ceiling = some b ∧
        second.score.toCp ceiling = some s ∧ s + margin ≤ b) ∨
      (e.second? = none ∧ q.legalMoves.length ≤ 1))

theorem standsOut_of_isUnique {q : Position} {e : Evaluation} {c : Config}
    (unique : isUnique q e c = true) (best_eq : ∃ best, e.best? = some best) {margin : Int}
    (set : c.uniquenessMarginCp = some margin) : StandsOut q e c.mateScoreCp margin := by
  obtain ⟨best, best_eq⟩ := best_eq
  refine ⟨best, best_eq, ?_⟩
  unfold isUnique at unique
  rw [set, best_eq] at unique
  rcases second_eq : e.second? with _ | second
  · rw [second_eq] at unique
    exact .inr ⟨rfl, by simpa using unique⟩
  · rw [second_eq] at unique
    dsimp only at unique
    split at unique
    · rename_i b s b_eq s_eq
      exact .inl ⟨second, b, s, rfl, b_eq, s_eq, by simp at unique; omega⟩
    · cases unique

/-- The forcing-move search walks a line playing each move, and succeeds exactly at a forcing
move. -/
theorem containsTactic.go_eq_true_iff (q : Position) (ms : List Move) :
    containsTactic.go q ms = true ↔
      ∃ i m, ms[i]? = some m ∧ isForcing (playAll q (ms.take i)) m = true := by
  induction ms generalizing q with
  | nil => simp [containsTactic.go]
  | cons m rest ih =>
      simp only [containsTactic.go, Bool.or_eq_true, ih]
      constructor
      · rintro (forcing | ⟨i, m', found, forcing⟩)
        · exact ⟨0, m, rfl, by simpa [playAll] using forcing⟩
        · exact ⟨i + 1, m', by simpa using found, by simpa [playAll] using forcing⟩
      · rintro ⟨i, m', found, forcing⟩
        cases i with
        | zero =>
            simp only [List.getElem?_cons_zero, Option.some.injEq] at found
            subst found
            exact .inl (by simpa [playAll] using forcing)
        | succ i =>
            exact .inr ⟨i, m', by simpa using found, by simpa [playAll] using forcing⟩

/-- A line is tactical when one of its first `max 1 lookahead` legal moves is forcing in the
position the moves before it reach. -/
theorem containsTactic_eq_true_iff (q : Position) (pv : List String) (lookahead : Nat) :
    containsTactic q pv lookahead = true ↔
      ∃ i < max 1 lookahead, ∃ m, (legalLine q pv)[i]? = some m ∧
        isForcing (playAll q ((legalLine q pv).take i)) m = true := by
  rw [containsTactic, containsTactic.go_eq_true_iff]
  constructor
  · rintro ⟨i, m, found, forcing⟩
    have lt : i < max 1 lookahead := by
      by_contra far
      simp [far] at found
    refine ⟨i, lt, m, by simpa [List.getElem?_take, lt] using found, ?_⟩
    rwa [List.take_take, min_eq_left lt.le] at forcing
  · rintro ⟨i, lt, m, found, forcing⟩
    refine ⟨i, m, by simpa [List.getElem?_take, lt] using found, ?_⟩
    rwa [List.take_take, min_eq_left lt.le]

/-- With the tactical filter on, a best line that passes it has a forcing move in reach. -/
theorem containsTactic_of_isTactical {q : Position} {e : Evaluation} {c : Config}
    {best : EngineLine} (required : c.requireTactical = true) (tactical : isTactical q e c = true)
    (best_eq : e.best? = some best) :
    containsTactic q best.pv c.tacticalLookaheadPlies.toNat = true := by
  simpa [isTactical, required, best_eq] using tactical

/-! ## Grades of candidates -/

/-- A candidate graded as its evaluation says: its starting score is in the band, its bucket and
severity are those of its swing and starting score, and its best line passes the uniqueness and
tactical tests from its position. -/
structure Candidate.Graded (c : Config) (cand : Candidate) : Prop where
  start : ∃ s, positionCp (some cand.evaluation) c.mateScoreCp = some s ∧ inBand (some s) c = true
  kind : classifyKind cand.swing (positionCp (some cand.evaluation) c.mateScoreCp) c =
    some cand.kind
  severity : cand.severity = severityForSwing cand.swing c
  unique : isUnique cand.position cand.evaluation c = true
  tactical : isTactical cand.position cand.evaluation c = true

/-- The swing of a candidate is its swing at the starting score of its evaluation. -/
def Candidate.SwingMatches (c : Config) (cand : Candidate) : Prop :=
  (positionCp (some cand.evaluation) c.mateScoreCp).map cand.swingAt = some cand.swing

theorem exists_of_inBand {start : Option Int} {c : Config} (band : inBand start c = true) :
    ∃ s, start = some s ∧ inBand (some s) c = true := by
  cases start with
  | none => cases band
  | some s => exact ⟨s, rfl, band⟩

/-- A framed candidate that passes the filters is graded as its evaluation says. -/
theorem graded_of_survives {g : Pgn.Game} {es : Evaluations} {c : Config} {user : Option String}
    {cand : Candidate} (framed : cand ∈ findCandidates g (classifyGame g es c) es c user)
    (kept : survives cand c = true) : cand.Graded c := by
  obtain ⟨band, unique, tactical, -, -⟩ := survives_eq_true.mp kept
  obtain ⟨p, member, -, -, (⟨-, -, avoid⟩ | ⟨-, -, punish⟩)⟩ := mem_findCandidates.mp framed
  · obtain ⟨e, _, _, _, _, at_ply, -, -, -, -, kind_eq, cand_eq⟩ := avoidCandidate_eq_some.mp avoid
    subst cand_eq
    refine ⟨exists_of_inBand band, ?_, rfl, unique, tactical⟩
    rwa [(classifiedAt_of_mem member).beforeCp, at_ply] at kind_eq
  · obtain ⟨_, _, _, _, _, -, -, -, -, -, kind_eq, -, cand_eq⟩ := punishCandidate_eq_some.mp punish
    subst cand_eq
    exact ⟨exists_of_inBand band, kind_eq, rfl, unique, tactical⟩

/-- A framed candidate's swing is its swing at its starting score, for a punishing one provided
its position is not over on its own: then the score after the blunder is the evaluation the
candidate starts from. -/
theorem swingMatches_of_mem_findCandidates {g : Pgn.Game} {es : Evaluations} {c : Config}
    {user : Option String} {cand : Candidate}
    (framed : cand ∈ findCandidates g (classifyGame g es c) es c user)
    (settled : cand.type = .avoidBlunder ∨
      terminalCp (g.positionAt cand.sourcePly) c.mateScoreCp = none) :
    cand.SwingMatches c := by
  obtain ⟨p, member, -, -, (⟨-, -, avoid⟩ | ⟨-, -, punish⟩)⟩ := mem_findCandidates.mp framed
  · obtain ⟨e, _, swing, after, _, at_ply, -, -, swing_eq, after_eq, -, cand_eq⟩ :=
      avoidCandidate_eq_some.mp avoid
    subst cand_eq
    have classified := classifiedAt_of_mem member
    obtain ⟨b, a, before_eq, score_eq, rfl⟩ := classified.swing swing swing_eq
    have after_is : after = -a := by
      rw [classified.afterCp, score_eq] at after_eq
      simpa using after_eq.symm
    rw [classified.beforeCp, at_ply] at before_eq
    simp [Candidate.SwingMatches, before_eq, Candidate.swingAt, after_is]
  · obtain ⟨e, _, swing, before, _, -, at_start, -, swing_eq, before_eq, -, -, cand_eq⟩ :=
      punishCandidate_eq_some.mp punish
    subst cand_eq
    have live : terminalCp (g.positionAt (p.ply + 1)) c.mateScoreCp = none :=
      settled.resolve_left (by simp)
    obtain ⟨b, a, before_is, score_eq, rfl⟩ := (classifiedAt_of_mem member).swing swing swing_eq
    have start : positionCp (some e) c.mateScoreCp = some a := by
      rw [scoreAfter, live, at_start] at score_eq
      exact score_eq
    rw [before_eq, Option.some.injEq] at before_is
    simp [Candidate.SwingMatches, start, Candidate.swingAt, before_is]

/-- The fixed half of a framed candidate's swing is a score of the blunder: the mover's score after
it when avoiding, before it when punishing. -/
theorem reference_of_mem_findCandidates {g : Pgn.Game} {es : Evaluations} {c : Config}
    {user : Option String} {cand : Candidate}
    (framed : cand ∈ findCandidates g (classifyGame g es c) es c user) :
    ∃ q ∈ classifyGame g es c,
      (cand.type = .avoidBlunder ∧ q.ply = cand.sourcePly ∧ q.afterCp = some cand.referenceCp) ∨
        (cand.type = .punishBlunder ∧ q.ply + 1 = cand.sourcePly ∧
          q.beforeCp = some cand.referenceCp) := by
  obtain ⟨p, member, -, -, (⟨-, -, avoid⟩ | ⟨-, -, punish⟩)⟩ := mem_findCandidates.mp framed
  · obtain ⟨_, _, _, _, _, -, -, -, -, after_eq, -, cand_eq⟩ := avoidCandidate_eq_some.mp avoid
    subst cand_eq
    exact ⟨p, member, .inl ⟨rfl, rfl, after_eq⟩⟩
  · obtain ⟨_, _, _, _, _, -, -, -, -, before_eq, -, -, cand_eq⟩ :=
      punishCandidate_eq_some.mp punish
    subst cand_eq
    exact ⟨p, member, .inr ⟨rfl, rfl, before_eq⟩⟩

/-- A re-grading from a deeper evaluation recomputes the swing at the new starting score and
checks the new grade, so the result is graded as that evaluation says. -/
theorem graded_of_reconfirm {cand final : Candidate} {d : Evaluation} {c : Config}
    (deeper : reconfirm cand d c = some final) : final.Graded c ∧ final.SwingMatches c := by
  obtain ⟨_, _, start, _, -, -, -, start_eq, band, kind_eq, unique, tactical, rfl⟩ :=
    reconfirm_eq_some.mp deeper
  refine ⟨⟨⟨start, start_eq, band⟩, ?_, rfl, unique, tactical⟩, ?_⟩
  · rw [start_eq]
    exact kind_eq
  · simp only [Candidate.SwingMatches, start_eq, Option.map_some]
    rfl

/-- After the confirmation pass a surviving candidate is graded as its evaluation says. -/
theorem Regraded.graded {σ : Type} {ev : Option (Evaluator σ)} {g : Pgn.Game} {es : Evaluations}
    {c : Config} {user : Option String} {cand final : Candidate}
    (framed : cand ∈ findCandidates g (classifyGame g es c) es c user)
    (kept : survives cand c = true) (regraded : Regraded ev c cand final) : final.Graded c := by
  rcases regraded with rfl | ⟨d, -, deeper⟩
  · exact graded_of_survives framed kept
  · exact (graded_of_reconfirm deeper).1

/-- After the confirmation pass a candidate's swing is its swing at its starting score, except
possibly for a punishing candidate that kept its first evaluation at a position over on its own. -/
theorem Regraded.swingMatches {σ : Type} {ev : Option (Evaluator σ)} {g : Pgn.Game}
    {es : Evaluations} {c : Config} {user : Option String} {cand final : Candidate}
    (framed : cand ∈ findCandidates g (classifyGame g es c) es c user)
    (regraded : Regraded ev c cand final)
    (settled : final.type = .avoidBlunder ∨
      terminalCp (g.positionAt final.sourcePly) c.mateScoreCp = none) :
    final.SwingMatches c := by
  rcases regraded with rfl | ⟨d, -, deeper⟩
  · exact swingMatches_of_mem_findCandidates framed settled
  · exact (graded_of_reconfirm deeper).2

/-! ## Puzzles of an analysis -/

/-- How a puzzle's grade sits with the evaluation `e` it was graded on and with the blunder it was
mined from, the starting score being the score of the puzzle's line. -/
structure GradedPuzzle (a : GameAnalysis) (c : Config) (p : Puzzle) (e : Evaluation) : Prop where
  start : ∃ s, p.score.toCp c.mateScoreCp = some s ∧
    (∀ lo, c.evalBandMinCp = some lo → lo ≤ s) ∧ (∀ hi, c.evalBandMaxCp = some hi → s ≤ hi)
  kind : classifyKind p.swing (p.score.toCp c.mateScoreCp) c = some p.kind
  severity : p.severity = severityForSwing p.swing c
  /-- An avoiding puzzle's swing is the starting score less the mover's score after the move. -/
  avoid_swing : p.type = .avoidBlunder → ∃ q ∈ a.classified, q.ply = p.sourcePly ∧
    ∃ s after, p.score.toCp c.mateScoreCp = some s ∧ q.afterCp = some after ∧ p.swing = s - after
  /-- A punishing puzzle's swing is the mover's score before the blunder plus the starting score,
  when its position is not over on its own. -/
  punish_swing : p.type = .punishBlunder →
    terminalCp (a.game.positionAt p.sourcePly) c.mateScoreCp = none →
    ∃ q ∈ a.classified, q.ply + 1 = p.sourcePly ∧
      ∃ s before, p.score.toCp c.mateScoreCp = some s ∧ q.beforeCp = some before ∧
        p.swing = before + s
  unique : ∀ margin, c.uniquenessMarginCp = some margin →
    StandsOut p.position e c.mateScoreCp margin
  tactical : c.requireTactical = true → ∃ best, e.best? = some best ∧
    ∃ i < max 1 c.tacticalLookaheadPlies.toNat, ∃ m, (legalLine p.position best.pv)[i]? = some m ∧
      isForcing (playAll p.position ((legalLine p.position best.pv).take i)) m = true

/-- A puzzle built from a surviving candidate after the confirmation pass is graded as the
evaluation the candidate ended with says. -/
theorem gradedPuzzle_of_regraded {σ : Type} {ev : Option (Evaluator σ)} {a : GameAnalysis}
    {c : Config} {cand final : Candidate} {p : Puzzle}
    (classified : a.classified = classifyGame a.game a.evaluations c)
    (framed : cand ∈ findCandidates a.game a.classified a.evaluations c a.userColor)
    (kept : survives cand c = true) (regraded : Regraded ev c cand final)
    (built : buildPuzzle final a.opening c = .ok p) : GradedPuzzle a c p final.evaluation := by
  rw [classified] at framed
  have graded := regraded.graded framed kept
  obtain ⟨type_eq, source_eq, -, reference_eq⟩ := regraded.fields
  obtain ⟨q, q_mem, reference⟩ := reference_of_mem_findCandidates framed
  rw [← type_eq, ← source_eq, ← reference_eq] at reference
  rw [← classified] at q_mem
  obtain ⟨best, _, _, best_eq, -, p_eq⟩ := buildPuzzle_eq_ok.mp built
  have position : p.position = final.position :=
    Puzzle.position_eq_of_fen (buildPuzzle_posed built).2.2
  subst p_eq
  have start_eq : best.score.toCp c.mateScoreCp =
      positionCp (some final.evaluation) c.mateScoreCp := by
    simp [positionCp, best_eq]
  refine ⟨?_, ?_, graded.severity, fun avoid => ?_, fun punish live => ?_, fun margin set => ?_,
    fun required => ?_⟩
  · obtain ⟨s, s_eq, band⟩ := graded.start
    exact ⟨s, start_eq ▸ s_eq, inBand_some_iff.mp band⟩
  · rw [start_eq]
    exact graded.kind
  · obtain ⟨s, s_eq, swing_eq⟩ := Option.map_eq_some_iff.mp
      (regraded.swingMatches framed (.inl avoid))
    rcases reference with ⟨-, ply_eq, after_eq⟩ | ⟨wrong, -, -⟩
    · refine ⟨q, q_mem, ply_eq, s, final.referenceCp, start_eq ▸ s_eq, after_eq, ?_⟩
      show final.swing = s - final.referenceCp
      have avoiding : final.type = .avoidBlunder := avoid
      rw [← swing_eq, Candidate.swingAt, avoiding]
    · exact absurd (avoid.symm.trans wrong) (by simp)
  · obtain ⟨s, s_eq, swing_eq⟩ := Option.map_eq_some_iff.mp
      (regraded.swingMatches framed (.inr live))
    rcases reference with ⟨wrong, -, -⟩ | ⟨-, ply_eq, before_eq⟩
    · exact absurd (punish.symm.trans wrong) (by simp)
    · refine ⟨q, q_mem, ply_eq, s, final.referenceCp, start_eq ▸ s_eq, before_eq, ?_⟩
      show final.swing = final.referenceCp + s
      have punishing : final.type = .punishBlunder := punish
      rw [← swing_eq, Candidate.swingAt, punishing]
  · rw [position]
    exact standsOut_of_isUnique graded.unique ⟨best, best_eq⟩ set
  · rw [position]
    exact ⟨best, best_eq, (containsTactic_eq_true_iff _ _ _).mp
      (containsTactic_of_isTactical required graded.tactical best_eq)⟩

/-- Every puzzle of an analysis is graded as the evaluation it was graded on says: its starting
score (the score of its line) is in the band, its bucket and severity are those of its swing,
its line stands out by the uniqueness margin and holds a forcing move in reach when those filters
are on, and its swing is the score change of the blunder it was mined from, for a punishing
puzzle provided its position is not over on its own. -/
theorem analyzeGame_puzzles_graded {σ : Type} (pgn : String) (c : Config)
    (ev : Option (Evaluator σ)) (supplied : Evaluations) (username userColor : Option String)
    (book : Openings.Book) (st : σ) :
    EveryPuzzle (fun a p => ∃ e best,
        (a.evaluations.at? p.sourcePly = some e ∨ Answered ev c p.fen e) ∧ e.best? = some best ∧
          p.score = best.score ∧ GradedPuzzle a c p e)
      ((analyzeGame pgn c ev supplied username userColor book).run st).1 := by
  unfold EveryPuzzle
  split
  · rename_i a run
    intro p member
    obtain ⟨classified, cand, framed, kept, final, regraded, built, evaluated⟩ :=
      exists_evaluated_of_mem_puzzles run member
    obtain ⟨best, best_eq, solved⟩ := solvedBy_of_buildPuzzle built
    exact ⟨final.evaluation, best, evaluated, best_eq, solved.score,
      gradedPuzzle_of_regraded classified framed kept regraded built⟩
  · trivial

/-- After 1. Bxb5+ from a lone bishop's position only a king and a bishop are left against a king:
the position is over on its own, so classification scores the blunder's aftermath as a draw, while
the punishing candidate starts from the evaluation's 50.  Its swing of 300 is not its swing of 350
at that start. -/
theorem punishing_swing_of_drawn_aftermath :
    let start := (Position.ofFen "4k3/8/8/1p6/8/8/8/4KB2 w - - 0 1").toOption.getD default
    let capture : Move := ⟨5, 33, none⟩
    let reply : Move := ⟨60, 52, none⟩
    let game : Pgn.Game :=
      { tags := [], positions := [start, start.play capture, (start.play capture).play reply],
        moves := [capture, reply], sans := ["Bxb5+", "Ke7"],
        fens := ["4k3/8/8/1p6/8/8/8/4KB2 w - - 0 1", "4k3/8/8/1B6/8/8/8/4K3 b - - 0 1",
          "8/4k3/8/1B6/8/8/8/4K3 w - - 1 2"],
        finished := true }
    let es : Evaluations :=
      [(0, some
          { fen := "4k3/8/8/1p6/8/8/8/4KB2 w - - 0 1",
            lines := [{ move := "e1e2", score := { cp := some 300 }, pv := ["e1e2"] }] }),
        (1, some
          { fen := "4k3/8/8/1B6/8/8/8/4K3 b - - 0 1",
            lines := [{ move := "e8f7", score := { cp := some 50 }, pv := ["e8f7"] }] })]
    let c : Config :=
      { openingSkipPlies := 0, minPvMoves := 1, requireTactical := false,
        skipTrivialEndgames := false }
    terminalCp (game.positionAt 1) c.mateScoreCp = some 0 ∧
      ∃ cand ∈ findCandidates game (classifyGame game es c) es c none,
        cand.type = .punishBlunder ∧ survives cand c = true ∧ cand.swing = 300 ∧
          (positionCp (some cand.evaluation) c.mateScoreCp).map cand.swingAt = some 350 := by
  decide +kernel

end Analysis
end Tactician
