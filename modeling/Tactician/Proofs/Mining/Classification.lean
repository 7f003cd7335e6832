import Mathlib
import Tactician.Proofs.Mining.Thresholds

/-!
# Classifying the moves of a game

`classifyGame` gives one entry per move, in order: the move, the side that made it, the FENs
around it, the mover's score before it (the clamped best score of the evaluation of its position)
and after it (minus the score of the next position for its own side to move, taken from the end
of the game when that position ends it on its own and from its evaluation otherwise), and from
the two a swing and a label, or neither when a score is missing.  With a non-negative mate value
every score lies within it, so a swing is at most twice it; and a larger swing never gets a milder
label, whatever the thresholds.

A parsed game is finished when its final position ends it with its history counted: when that
position ends it on its own or has occurred for the fifth time (`Parsed.finished_eq`).  Scoring
the position after a move sees the position alone, so the two notions part on a fivefold
repetition.  The final move of a game that is over on its own is scored after it from the end of
the game, while that of a game ended by the repetition alone is scored from the evaluation of the
final position, which gathering never asks for (`classifyGame_classifies`).  Sixteen knight moves
that bring the starting position back a fifth time leave the last move unclassified however
position 15 is evaluated (`fivefold_final_move_unclassified`).
-/

namespace Tactician
namespace Analysis

open Chess

/-! ## Scores -/

/-- A clamped score lies within the mate value. -/
theorem Score.toCp_bound {s : Score} {ceiling v : Int} (nonneg : 0 ≤ ceiling)
    (read : s.toCp ceiling = some v) : |v| ≤ ceiling := by
  unfold Score.toCp at read
  rw [abs_le]
  rcases mate : s.mate with _ | m <;> rw [mate] at read
  · rcases given : s.cp with _ | cp <;> rw [given] at read
    · cases read
    · simp only [Option.map_some, Option.some.injEq] at read
      omega
  · simp only [Option.some.injEq] at read
    split at read <;> omega

theorem positionCp_bound {e : Option Evaluation} {ceiling v : Int} (nonneg : 0 ≤ ceiling)
    (read : positionCp e ceiling = some v) : |v| ≤ ceiling := by
  obtain ⟨ev, -, found⟩ := Option.bind_eq_some_iff.mp read
  obtain ⟨l, -, score⟩ := Option.bind_eq_some_iff.mp found
  exact Score.toCp_bound nonneg score

/-- A position ends the game on its own exactly when it has a final score. -/
theorem terminalCp_isSome_iff {p : Position} {ceiling : Int} :
    (terminalCp p ceiling).isSome ↔ p.isOverHere = true := by
  unfold terminalCp
  split_ifs with mated ended
  · simp [Position.isOverHere, mated]
  · simp [ended]
  · simp [ended]

/-- A final score is minus the mate value or zero. -/
theorem terminalCp_bound {p : Position} {ceiling t : Int} (nonneg : 0 ≤ ceiling)
    (read : terminalCp p ceiling = some t) : |t| ≤ ceiling := by
  unfold terminalCp at read
  split at read
  · cases read
    rw [abs_neg, abs_of_nonneg nonneg]
  · split at read
    · cases read
      simpa using nonneg
    · cases read

/-! ## Labels -/

/-- How bad a label says a move was, from the best move to a blunder. -/
def MoveLabel.rank : MoveLabel → Nat
  | .best => 0
  | .good => 1
  | .inaccuracy => 2
  | .mistake => 3
  | .blunder => 4
  | .unclassified => 5

/-- A larger swing never gets a milder label: the bands are tried from the best move up, so the
thresholds need no order. -/
theorem labelForSwing_monotone (c : Config) {s s' : Int} (le : s ≤ s') :
    (labelForSwing s c).rank ≤ (labelForSwing s' c).rank := by
  unfold labelForSwing
  split_ifs <;> simp only [MoveLabel.rank] <;> omega

/-! ## Parsed games -/

/-- What parsing gives a game: positions that replay its moves from a start, their FENs, at least
one move, and the game finished exactly when its final position ends it, history counted. -/
structure Parsed (g : Pgn.Game) : Prop where
  replay : ∃ start, g.positions = g.moves.scanl Position.play start ∧
    g.finished = (Line.mk start g.moves).isOver
  fens : g.fens = g.positions.map Position.fen
  moved : 0 < g.plyCount

theorem parsed_of_parseGame {text : String} {g : Pgn.Game} (parsed : Pgn.parseGame text = .ok g) :
    Parsed g := by
  obtain ⟨start, positions, finished, fens, moved⟩ := parseGame_eq_ok parsed
  exact ⟨⟨start, positions, finished⟩, fens, moved⟩

namespace Parsed

variable {g : Pgn.Game} (parsed : Parsed g)
include parsed

theorem replayed : Replayed g :=
  ⟨parsed.replay.elim fun start replay => ⟨start, replay.1⟩, parsed.fens⟩

/-- A parsed game is finished exactly when its final position ends it on its own or occurs for
the fifth time. -/
theorem finished_eq :
    g.finished = ((g.positionAt g.plyCount).isOverHere ||
      (Line.mk (g.positionAt 0) g.moves).isFivefold) := by
  obtain ⟨start, positions, finished⟩ := parsed.replay
  have first : g.positionAt 0 = start := by
    simp [Pgn.Game.positionAt, positions]
  have last : g.positionAt g.plyCount = g.moves.foldl Position.play start := by
    simp [Pgn.Game.positionAt, positions, Pgn.Game.plyCount]
  rw [finished, first, last]
  rfl

end Parsed

/-! ## Entries -/

/-- The entries of a classification are the moves' plies, in order. -/
theorem classifyGame_plies (g : Pgn.Game) (es : Evaluations) (c : Config) :
    (classifyGame g es c).map ClassifiedPly.ply = List.range g.plyCount := by
  unfold classifyGame
  rw [List.map_map]
  refine (List.map_congr_left fun ply _ => ?_).trans (List.map_id _)
  dsimp only [Function.comp, id]
  split <;> rfl

/-- A classified move has a swing exactly when both its scores are known, and the label of its
swing, or none without one. -/
theorem swing_label_of_mem {g : Pgn.Game} {es : Evaluations} {c : Config} {p : ClassifiedPly}
    (member : p ∈ classifyGame g es c) :
    p.swing = p.beforeCp.bind (fun b => (scoreAfter g es c p.ply).map (b + ·)) ∧
      p.label = (p.swing.map fun s => labelForSwing s c).getD .unclassified := by
  unfold classifyGame at member
  obtain ⟨ply, -, rfl⟩ := List.mem_map.mp member
  dsimp only
  split
  · rename_i b a before after
    refine ⟨?_, rfl⟩
    show some (b + a) = (positionCp (es.at? ply) c.mateScoreCp).bind
      fun b => (scoreAfter g es c ply).map (b + ·)
    rw [before, scoreAfter, after]
    rfl
  · rename_i unscored
    refine ⟨?_, rfl⟩
    show none = (positionCp (es.at? ply) c.mateScoreCp).bind
      fun b => (scoreAfter g es c ply).map (b + ·)
    rcases before : positionCp (es.at? ply) c.mateScoreCp with _ | b
    · rfl
    rcases after : scoreAfter g es c ply with _ | a
    · rfl
    · unfold scoreAfter at after
      exact (unscored b a before after).elim

/-- What the classification says of move `i` of a game. -/
structure MoveEntry (g : Pgn.Game) (es : Evaluations) (c : Config) (i : Nat)
    (p : ClassifiedPly) : Prop where
  /-- The entry is the move's. -/
  ply : p.ply = i
  move : g.moves[i]?.map Move.uci = some p.moveUci
  /-- It sits between the FENs of the positions before and after the move. -/
  fenBefore : g.fens[i]? = some p.fenBefore
  fenAfter : g.fens[i + 1]? = some p.fenAfter
  /-- The mover is the side to move in the position before. -/
  mover : p.fenBefore = (g.positionAt i).fen ∧ p.mover = (g.positionAt i).turn
  /-- The score before is the clamped best score of the position's evaluation. -/
  beforeCp : p.beforeCp = positionCp (es.at? i) c.mateScoreCp
  /-- The score after comes from the end of the game when the next position ends it on its own. -/
  ended : ∀ t, terminalCp (g.positionAt (i + 1)) c.mateScoreCp = some t → p.afterCp = some (-t)
  /-- Otherwise it is minus the clamped best score of that position's evaluation. -/
  going : terminalCp (g.positionAt (i + 1)) c.mateScoreCp = none →
    p.afterCp = (positionCp (es.at? (i + 1)) c.mateScoreCp).map (- ·)
  /-- The move is unclassified, with no swing, exactly when a score is missing. -/
  unclassified : (p.label = .unclassified ∧ p.swing = none) ↔ (p.beforeCp = none ∨ p.afterCp = none)
  /-- Otherwise the swing is the loss of score and the label is that of the swing. -/
  classified : ∀ b a, p.beforeCp = some b → p.afterCp = some a →
    p.swing = some (b - a) ∧ p.label = labelForSwing (b - a) c
  /-- Scores within a non-negative mate value give swings within twice it. -/
  bounded : 0 ≤ c.mateScoreCp → ∀ s, p.swing = some s → |s| ≤ 2 * c.mateScoreCp

/-- The score after a move, when there is one, lies within the mate value. -/
theorem scoreAfter_bound {g : Pgn.Game} {es : Evaluations} {c : Config} {i : Nat} {a : Int}
    (nonneg : 0 ≤ c.mateScoreCp) (read : scoreAfter g es c i = some a) : |a| ≤ c.mateScoreCp := by
  unfold scoreAfter at read
  rcases final : terminalCp (g.positionAt (i + 1)) c.mateScoreCp with _ | t <;>
    rw [final] at read
  · exact positionCp_bound nonneg read
  · cases read
    exact terminalCp_bound nonneg final

theorem moveEntry_classifyGame {g : Pgn.Game} (replayed : Replayed g) (es : Evaluations)
    (c : Config) {i : Nat} (lt : i < g.plyCount) :
    ∃ p, (classifyGame g es c)[i]? = some p ∧ MoveEntry g es c i p := by
  have plies := classifyGame_plies g es c
  have listed : (classifyGame g es c).length = g.plyCount := by
    simpa using congrArg List.length plies
  obtain ⟨p, found⟩ : ∃ p, (classifyGame g es c)[i]? = some p :=
    ⟨_, List.getElem?_eq_getElem (listed ▸ lt)⟩
  have ply : p.ply = i := by
    have at_i := congrArg (·[i]?) plies
    simp only [List.getElem?_map, found, Option.map_some, List.getElem?_range lt,
      Option.some.injEq] at at_i
    exact at_i
  have member := List.mem_of_getElem? found
  obtain ⟨-, moveUci, mover, fenBefore, fenAfter, beforeCp, afterCp, -⟩ :=
    classifiedAt_of_mem member
  obtain ⟨swing, label⟩ := swing_label_of_mem member
  rw [ply] at moveUci mover fenBefore fenAfter beforeCp afterCp swing
  have fen_i := replayed.fen_at lt.le
  have fen_succ := replayed.fen_at (Nat.succ_le_of_lt lt)
  have played : g.moves[i]? = some (g.moves.getD i Move.null) := by
    rw [List.getD_eq_getElem?_getD, List.getElem?_eq_getElem lt]
    rfl
  refine ⟨p, found, ⟨ply, ?_, ?_, ?_, ?_, beforeCp, ?_, ?_, ?_, ?_, ?_⟩⟩
  · rw [played, moveUci]
    rfl
  · rw [fen_i, fenBefore, List.getD_eq_getElem?_getD, fen_i]
    rfl
  · rw [fen_succ, fenAfter, List.getD_eq_getElem?_getD, fen_succ]
    rfl
  · rw [fenBefore, List.getD_eq_getElem?_getD, fen_i]
    exact ⟨rfl, mover⟩
  · intro t final
    rw [afterCp, scoreAfter, final]
    rfl
  · intro going
    rw [afterCp, scoreAfter, going]
    rfl
  · rw [label, swing, afterCp]
    rcases p.beforeCp with _ | b <;> rcases scoreAfter g es c i with _ | a <;>
      simp [labelForSwing_ne_unclassified]
  · intro b a given taken
    rw [afterCp, Option.map_eq_some_iff] at taken
    obtain ⟨o, opp, rfl⟩ := taken
    have swung : p.swing = some (b + o) := by rw [swing, given, opp]; rfl
    rw [label, swung, sub_neg_eq_add]
    exact ⟨rfl, rfl⟩
  · intro nonneg s swung
    rw [swing, Option.bind_eq_some_iff] at swung
    obtain ⟨b, given, opp⟩ := swung
    obtain ⟨o, read, rfl⟩ := Option.map_eq_some_iff.mp opp
    rw [beforeCp] at given
    calc |b + o| ≤ |b| + |o| := abs_add_le b o
      _ ≤ c.mateScoreCp + c.mateScoreCp :=
        add_le_add (positionCp_bound nonneg given) (scoreAfter_bound nonneg read)
      _ = 2 * c.mateScoreCp := (two_mul _).symm

/-! ## The law -/

/-- Classification of a game's moves, and how it meets the end of the game. -/
structure ClassifiesMoves (g : Pgn.Game) (es : Evaluations) (c : Config) : Prop where
  /-- One entry per move, in order. -/
  length : (classifyGame g es c).length = g.plyCount
  entries : ∀ i < g.plyCount, ∃ p, (classifyGame g es c)[i]? = some p ∧ MoveEntry g es c i p
  /-- A larger swing never gets a milder label. -/
  monotone : ∀ s s', s ≤ s' → (labelForSwing s c).rank ≤ (labelForSwing s' c).rank
  /-- The game is finished when its final position ends it on its own or occurs a fifth time. -/
  finished : g.finished = ((g.positionAt g.plyCount).isOverHere ||
    (Line.mk (g.positionAt 0) g.moves).isFivefold)
  /-- A final position over on its own scores the last move from the end of the game, so the move
  is classified exactly when the position before it has a score. -/
  finalOver : (g.positionAt g.plyCount).isOverHere = true →
    ∀ p, (classifyGame g es c)[g.plyCount - 1]? = some p →
      (∃ t, terminalCp (g.positionAt g.plyCount) c.mateScoreCp = some t ∧ p.afterCp = some (-t)) ∧
      (p.label ≠ .unclassified ↔ (positionCp (es.at? (g.plyCount - 1)) c.mateScoreCp).isSome)
  /-- A game finished by the repetition alone scores its last move from the evaluation of the
  final position. -/
  finalRepeated : g.finished = true → (g.positionAt g.plyCount).isOverHere = false →
    ∀ p, (classifyGame g es c)[g.plyCount - 1]? = some p →
      p.afterCp = (positionCp (es.at? g.plyCount) c.mateScoreCp).map (- ·)

theorem classifyGame_classifies {g : Pgn.Game} (parsed : Parsed g) (es : Evaluations)
    (c : Config) : ClassifiesMoves g es c := by
  have last : g.plyCount - 1 + 1 = g.plyCount := Nat.sub_add_cancel parsed.moved
  have last_lt : g.plyCount - 1 < g.plyCount := Nat.sub_lt parsed.moved Nat.one_pos
  refine ⟨by simp [classifyGame], fun i lt => moveEntry_classifyGame parsed.replayed es c lt,
    fun s s' le => labelForSwing_monotone c le, parsed.finished_eq, ?_, ?_⟩
  · intro ended p found
    obtain ⟨p', found', entry⟩ := moveEntry_classifyGame parsed.replayed es c last_lt
    rw [found, Option.some.injEq] at found'
    subst found'
    obtain ⟨t, final⟩ := Option.isSome_iff_exists.mp (terminalCp_isSome_iff.mpr ended)
    rw [← last] at final
    have after := entry.ended t final
    refine ⟨⟨t, by rw [← last]; exact final, after⟩, ?_⟩
    rw [← entry.beforeCp]
    constructor
    · intro classified
      rcases given : p.beforeCp with _ | b
      · exact absurd (entry.unclassified.mpr (.inl given)).1 classified
      · rfl
    · intro scored unclassified
      obtain ⟨b, given⟩ := Option.isSome_iff_exists.mp scored
      rw [(entry.classified b (-t) given after).2] at unclassified
      exact labelForSwing_ne_unclassified _ _ unclassified
  · intro finished going p found
    obtain ⟨p', found', entry⟩ := moveEntry_classifyGame parsed.replayed es c last_lt
    rw [found, Option.some.injEq] at found'
    subst found'
    have unscored : terminalCp (g.positionAt (g.plyCount - 1 + 1)) c.mateScoreCp = none := by
      rw [last]
      exact Option.not_isSome_iff_eq_none.mp (by rw [terminalCp_isSome_iff, going]; simp)
    rw [entry.going unscored, last]

/-! ## Five times the starting position -/

/-- The pieces of one side's back rank, from the a-file. -/
def backRank (side : Color) : List (Option Piece) :=
  [Role.rook, .knight, .bishop, .queen, .king, .bishop, .knight, .rook].map
    fun role => some (Piece.mk side role)

/-- The starting position of a game of chess. -/
def startingPosition : Position where
  board := ⟨(backRank .white ++ List.replicate 8 (some (Piece.mk .white .pawn)) ++
    List.replicate 32 none ++ List.replicate 8 (some (Piece.mk .black .pawn)) ++
    backRank .black).toArray, rfl⟩
  turn := .white
  castling := ⟨true, true, true, true⟩
  epSquare := none
  halfmoves := 0
  fullmoves := 1

/-- 1. Nf3 Nf6 2. Ng1 Ng8, four times over. -/
def knightDanceMoves : List Move :=
  (List.replicate 4 [⟨6, 21, none⟩, ⟨62, 45, none⟩, ⟨21, 6, none⟩, ⟨45, 62, none⟩]).flatten

/-- The game of the knight dance, as parsing replays it. -/
def knightDance : Pgn.Game where
  tags := []
  positions := knightDanceMoves.scanl Position.play startingPosition
  moves := knightDanceMoves
  sans := (List.replicate 4 ["Nf3", "Nf6", "Ng1", "Ng8"]).flatten
  fens := (knightDanceMoves.scanl Position.play startingPosition).map Position.fen
  finished := (Line.mk startingPosition knightDanceMoves).isOver

-- Unfolding by simp keeps the replayed line folded; rfl would evaluate it.
theorem parsed_knightDance : Parsed knightDance :=
  ⟨⟨startingPosition, by simp only [knightDance], by simp only [knightDance]⟩,
    by simp only [knightDance], by decide⟩

theorem classifiesMoves_knightDance : Parsed knightDance ∧ ClassifiesMoves knightDance [] {} :=
  ⟨parsed_knightDance, classifyGame_classifies parsed_knightDance [] {}⟩

/-- An evaluation of the position before Black's last move only. -/
def knightDanceEvaluations : Evaluations :=
  [(15, some
    { fen := "rnbqkb1r/pppppppp/5n2/8/8/8/PPPPPPPP/RNBQKBNR b KQkq - 15 8",
      lines := [{ move := "f6g8", score := { cp := some 0 }, pv := [] }] })]

/-- The knight dance brings the starting position back a fifth time, so the game is finished,
though its final position does not end it on its own; with the position before the last move
evaluated, that move is still unclassified. -/
theorem fivefold_final_move_unclassified :
    Parsed knightDance ∧ knightDance.plyCount = 16 ∧ knightDance.finished = true ∧
      (knightDance.positionAt 16).isOverHere = false ∧
      (positionCp (knightDanceEvaluations.at? 15) ({} : Config).mateScoreCp).isSome ∧
      (classifyGame knightDance knightDanceEvaluations {})[15]?.map (·.label) =
        some .unclassified :=
  ⟨parsed_knightDance, by decide, by decide +kernel, by decide +kernel, by decide +kernel,
    by decide +kernel⟩

end Analysis
end Tactician
