import Mathlib
import Tactician.Proofs.Chess.PositionKey
import Tactician.Proofs.Mining.Grading
import Tactician.Proofs.Mining.Selection
import Tactician.Proofs.Mining.AcceptedMoves
import Tactician.Training.Attempt

/-!
# Mined puzzles are in normal form

The store trims a puzzle's position, trims and lower-cases its moves, drops a blank label and
reads a severity or score it cannot make sense of as absent.  A puzzle of a finished analysis is
already in the form these steps produce: its position is the rendering of a game position (no
blank at either end, a non-blank placement in front), its moves are coordinate texts, its
severity is a grade from one to three, its score gives a centipawn or mate number, and its label
starts with its prompt.  Its puzzles are posed at distinct (ply, framing) keys, at plies of the
game.
-/

namespace Tactician
namespace Text

/-! ## Texts with solid ends -/

/-- A text whose first and last characters are not blank is its own trim. -/
theorem trim_of_solid_ends {s : String} {first last : Char} {middle : List Char}
    (whole : s.toList = first :: (middle ++ [last])) (firstSolid : isBlank first = false)
    (lastSolid : isBlank last = false) : trim s = s := by
  have front : dropBlanks s.toList = s.toList := by
    rw [whole]
    simp [dropBlanks, firstSolid]
  have back : dropBlanks s.toList.reverse = s.toList.reverse := by
    rw [whole]
    simp [dropBlanks, lastSolid]
  simp [trim, front, back]

theorem isAllBlank_of_solid_head {s : String} {first : Char} {rest : List Char}
    (whole : s.toList = first :: rest) (solid : isBlank first = false) : isAllBlank s = false := by
  simp [isAllBlank, whole, solid]

/-- Texts joined by a separator run from the first text to the last. -/
theorem intercalate_ends (sep a : String) :
    ∀ (l : List String) (b : String), ∃ middle,
      (String.intercalate sep (a :: (l ++ [b]))).toList = a.toList ++ middle ++ b.toList
  | [], b => ⟨sep.toList, by simp [String.intercalate_cons_cons]⟩
  | x :: l, b => by
    obtain ⟨middle, joined⟩ := intercalate_ends sep x l b
    refine ⟨sep.toList ++ x.toList ++ middle, ?_⟩
    simp only [List.cons_append, String.intercalate_cons_cons, String.toList_append] at joined ⊢
    rw [joined]
    simp

/-- Texts joined by a separator, the first and the last non-empty and without blanks, are their
own trim. -/
theorem trim_intercalate {sep a b : String} {l : List String}
    (aSolid : ∀ c ∈ a.toList, isBlank c = false) (aFilled : a ≠ "")
    (bSolid : ∀ c ∈ b.toList, isBlank c = false) (bFilled : b ≠ "") :
    trim (String.intercalate sep (a :: (l ++ [b]))) = String.intercalate sep (a :: (l ++ [b])) := by
  obtain ⟨middle, joined⟩ := intercalate_ends sep a l b
  obtain ⟨first, front, opened⟩ :=
    List.exists_cons_of_ne_nil (mt String.toList_eq_nil_iff.mp aFilled)
  obtain ⟨back, last, closed⟩ : ∃ back last, b.toList = back ++ [last] := by
    rcases List.eq_nil_or_concat b.toList with empty | ⟨back, last, closed⟩
    · exact absurd (String.toList_eq_nil_iff.mp empty) bFilled
    · exact ⟨back, last, by simpa using closed⟩
  have whole : (String.intercalate sep (a :: (l ++ [b]))).toList =
      first :: ((front ++ middle ++ back) ++ [last]) := by
    rw [joined, opened, closed]
    simp
  exact trim_of_solid_ends whole (aSolid first (by simp [opened])) (bSolid last (by simp [closed]))

theorem isAllBlank_of_solid {s : String} (filled : s ≠ "")
    (solid : ∀ c ∈ s.toList, isBlank c = false) : isAllBlank s = false := by
  obtain ⟨first, rest, whole⟩ :=
    List.exists_cons_of_ne_nil (mt String.toList_eq_nil_iff.mp filled)
  exact isAllBlank_of_solid_head whole (solid first (by simp [whole]))

/-- A text that starts with a non-blank text is not blank. -/
theorem isAllBlank_of_prefix {s t : String} (front : s.toList <+: t.toList)
    (filled : isAllBlank s = false) : isAllBlank t = false := by
  simp only [isAllBlank, List.all_eq_false] at filled ⊢
  obtain ⟨c, member, solid⟩ := filled
  exact ⟨c, front.subset member, solid⟩

/-- Texts joined by a separator, the first non-empty and without blanks, are not blank. -/
theorem isAllBlank_intercalate {sep a b : String} {l : List String}
    (aSolid : ∀ c ∈ a.toList, isBlank c = false) (aFilled : a ≠ "") :
    isAllBlank (String.intercalate sep (a :: (l ++ [b]))) = false := by
  obtain ⟨middle, joined⟩ := intercalate_ends sep a l b
  have front : a.toList <+: (String.intercalate sep (a :: (l ++ [b]))).toList :=
    ⟨middle ++ b.toList, by rw [joined, List.append_assoc]⟩
  exact isAllBlank_of_prefix front (isAllBlank_of_solid aFilled aSolid)

end Text

namespace Chess

open Text Analysis

/-! ## Rendered positions and moves -/

theorem isBlank_of_isDigit {c : Char} (digit : c.isDigit = true) : isBlank c = false := by
  have bounds : 48 ≤ c.toNat ∧ c.toNat ≤ 57 := by
    simp only [Char.isDigit, Bool.and_eq_true, decide_eq_true_eq, ge_iff_le,
      UInt32.le_iff_toNat_le] at digit
    exact digit
  simp only [isBlank, Bool.or_eq_false_iff, Bool.and_eq_false_iff, decide_eq_false_iff_not,
    beq_eq_false_iff_ne]
  omega

theorem toString_solid (n : Nat) : ∀ c ∈ (toString n).toList, isBlank c = false := by
  intro c mem
  rw [Nat.toString_eq_repr, Nat.toList_repr] at mem
  exact isBlank_of_isDigit (Nat.isDigit_of_mem_toDigits (by decide) (by decide) mem)

theorem toString_ne_empty (n : Nat) : toString n ≠ "" := by
  rw [Nat.toString_eq_repr]
  exact Nat.repr_ne_empty

/-- A rendered position is its own trim. -/
theorem Position.trim_fen (p : Position) : trim p.fen = p.fen := by
  unfold Position.fen
  exact trim_intercalate (l := [_, _, _, _]) p.placementFen_solid p.placementFen_ne_empty
    (toString_solid _) (toString_ne_empty _)

/-- A rendered position is not blank: it starts with its placement. -/
theorem Position.isAllBlank_fen (p : Position) : isAllBlank p.fen = false := by
  unfold Position.fen
  exact isAllBlank_intercalate (l := [_, _, _, _]) p.placementFen_solid p.placementFen_ne_empty

theorem Move.uci_ne_empty (m : Move) : m.uci ≠ "" := by
  unfold Move.uci
  split
  · decide
  · intro empty
    have := congrArg String.length empty
    simp [Square.name] at this

/-- The coordinate text of a move is not blank. -/
theorem Move.isAllBlank_uci (m : Move) : isAllBlank m.uci = false :=
  isAllBlank_of_solid (Move.uci_ne_empty m)
    fun c mem => (coordinateChars_fixed c (mem_coordinateChars_of_mem_uci m c mem)).2.2

end Chess

namespace Analysis

open Chess Text

/-! ## Labels, grades and scores -/

theorem prompt_prefix_puzzleLabel (t : PuzzleType) (motifs : List Tactics.Motif)
    (opening : Option Openings.Info) :
    t.prompt.toList <+: (puzzleLabel t motifs opening).toList := by
  unfold puzzleLabel
  split <;> split
  · split <;> simp
  · simp
  · split <;> simp
  · simp

/-- A label starts with its prompt, so it is not blank. -/
theorem isAllBlank_puzzleLabel (t : PuzzleType) (motifs : List Tactics.Motif)
    (opening : Option Openings.Info) : isAllBlank (puzzleLabel t motifs opening) = false := by
  have prompted : isAllBlank t.prompt = false := by
    cases t <;> decide +kernel
  exact isAllBlank_of_prefix (prompt_prefix_puzzleLabel t motifs opening) prompted

theorem severityForSwing_range (swing : Int) (c : Config) :
    1 ≤ severityForSwing swing c ∧ severityForSwing swing c ≤ 3 := by
  unfold severityForSwing
  split_ifs <;> omega

/-- A score that reads as centipawns gives one of its two numbers. -/
theorem Score.given_of_toCp {s : Score} {ceiling cp : Int} (read : s.toCp ceiling = some cp) :
    s.cp.isSome ∨ s.mate.isSome := by
  unfold Score.toCp at read
  rcases mate : s.mate with _ | m
  · rw [mate] at read
    rcases given : s.cp with _ | v
    · simp [given] at read
    · simp
  · simp

/-! ## Puzzles of an analysis -/

/-- What the store needs of a puzzle to read it back unchanged: the position and the moves are
already trimmed and lower-case and none is blank, the severity is a grade from one to three, the
score gives one of its numbers and the label is not blank. -/
structure Puzzle.Normal (p : Puzzle) : Prop where
  fen_trimmed : trim p.fen = p.fen
  fen_filled : isAllBlank p.fen = false
  bestMove_normal : Training.normalizeMove p.bestMove = p.bestMove
  bestMove_filled : isAllBlank p.bestMove = false
  bestLine_normal : p.bestLine.map Training.normalizeMove = p.bestLine
  severity_range : 1 ≤ p.severity ∧ p.severity ≤ 3
  score_given : p.score.cp.isSome ∨ p.score.mate.isSome
  label_filled : isAllBlank p.label = false

/-- A solution line is a list of coordinate texts, so it and its first move are in normal form. -/
theorem SolvedBy.normal {c : Config} {p : Puzzle} {best : EngineLine} (solved : SolvedBy c p best) :
    Training.normalizeMove p.bestMove = p.bestMove ∧ isAllBlank p.bestMove = false ∧
      p.bestLine.map Training.normalizeMove = p.bestLine := by
  have first : p.bestMove ∈ p.bestLine := List.mem_of_mem_head? solved.first
  rw [solved.cut] at first ⊢
  obtain ⟨m, -, moved⟩ := List.mem_map.mp first
  rw [← moved]
  refine ⟨toLower_trim_uci m, Move.isAllBlank_uci m, ?_⟩
  simp [Function.comp_def, Training.normalizeMove, toLower_trim_uci]

/-- Every puzzle of a finished analysis is in normal form, and is posed at a ply of the game. -/
theorem normal_of_mem_puzzles {σ : Type} {pgn : String} {c : Config} {ev : Option (Evaluator σ)}
    {supplied : Evaluations} {username userColor : Option String} {book : Openings.Book} {st : σ}
    {a : GameAnalysis}
    (run : ((analyzeGame pgn c ev supplied username userColor book).run st).1 = .ok a)
    {p : Puzzle} (member : p ∈ a.puzzles) : p.Normal ∧ p.sourcePly ≤ a.game.plyCount := by
  obtain ⟨parsed, classified, cand, framed, kept, final, regraded, built⟩ :=
    exists_candidate_of_mem_puzzles run member
  have posed := posedAt_of_mem_findCandidates (replayed_of_parseGame parsed) (classified ▸ framed)
  have graded := gradedPuzzle_of_regraded classified framed kept regraded built
  obtain ⟨type_eq, source_eq, fen_eq, -⟩ := regraded.fields
  obtain ⟨p_type, p_source, p_fen⟩ := buildPuzzle_posed built
  obtain ⟨best, -, solved⟩ := solvedBy_of_buildPuzzle built
  obtain ⟨_, _, _, -, -, p_eq⟩ := buildPuzzle_eq_ok.mp built
  have fen : p.fen = (a.game.positionAt cand.sourcePly).fen := by
    rw [p_fen, fen_eq, posed.fen_eq]
  obtain ⟨s, started, -⟩ := graded.start
  obtain ⟨moveNormal, moveFilled, lineNormal⟩ := solved.normal
  have normal : p.Normal :=
    ⟨by rw [fen, Position.trim_fen], by rw [fen, Position.isAllBlank_fen], moveNormal, moveFilled,
      lineNormal, graded.severity ▸ severityForSwing_range _ c, Score.given_of_toCp started,
      by rw [p_eq]; exact isAllBlank_puzzleLabel _ _ _⟩
  refine ⟨normal, ?_⟩
  rw [p_source, source_eq]
  cases framing : cand.type with
  | avoidBlunder => exact (posed.avoid framing).2.le
  | punishBlunder => exact (posed.punish framing).2.1


/-- The puzzles of a finished analysis are posed at distinct plies or with distinct framings. -/
theorem nodup_keys_of_analyzeGame {σ : Type} {pgn : String} {c : Config}
    {ev : Option (Evaluator σ)} {supplied : Evaluations} {username userColor : Option String}
    {book : Openings.Book} {st : σ} {a : GameAnalysis}
    (run : ((analyzeGame pgn c ev supplied username userColor book).run st).1 = .ok a) :
    (a.puzzles.map fun p => (p.sourcePly, p.type)).Nodup := by
  obtain ⟨-, -, extracted⟩ := analyzeGame_eq_ok run
  exact List.pairwise_map.mpr ((extractPuzzles_apart extracted).imp fun apart => apart.1)

end Analysis

end Tactician
