import Mathlib
import Tactician.Proofs.Mining.AcceptedMoves

/-!
# Where puzzles are posed

A replayed game lists the position before each move and after the last, each the previous one
with its move played, and the FEN of each.  An avoiding puzzle is posed at the position before a
classified move and a punishing one at the position after it, so every puzzle sits at a position
of the game that does not end it: an avoiding one at a ply in `[skip, plies)`, a punishing one at
a ply in `[skip + 1, plies]` with the blunderer's opponent to move.  The user's side selects the
framing (own moves are avoided, the opponent's are punished), and either way the user is to move.
-/

namespace Tactician
namespace Analysis

open Chess

/-! ## Replayed games -/

theorem Color.eq_other_of_ne {side mover : Color} (differs : side ≠ mover) :
    side = mover.other := by
  cases side <;> cases mover <;> simp_all [Color.other]

/-- Playing a move passes the turn. -/
@[simp]
theorem Position.play_turn (p : Position) (m : Move) : (p.play m).turn = p.turn.other := by
  unfold Position.play
  split
  · rfl
  · dsimp only
    split <;> rfl

/-- Replaying a list of moves scans it with `play`. -/
theorem Pgn.replay_fst (p : Position) (ms : List Move) :
    (Pgn.replay p ms).1 = ms.scanl Position.play p := by
  induction ms generalizing p with
  | nil => rfl
  | cons m rest ih => simp [Pgn.replay, ih]

/-- What replaying gives a game: positions that start somewhere and follow the moves, and the
FEN of each. -/
structure Replayed (g : Pgn.Game) : Prop where
  positions : ∃ start, g.positions = g.moves.scanl Position.play start
  fens : g.fens = g.positions.map Position.fen

/-- What parsing gives a game: positions that replay its moves from a start, the FEN of each, the
game finished exactly when the line from the start is over, and at least one move. -/
theorem parseGame_eq_ok {text : String} {g : Pgn.Game} (parsed : Pgn.parseGame text = .ok g) :
    ∃ start, g.positions = g.moves.scanl Position.play start ∧
      g.finished = (Line.mk start g.moves).isOver ∧ g.fens = g.positions.map Position.fen ∧
      0 < g.plyCount := by
  unfold Pgn.parseGame at parsed
  split at parsed
  · cases parsed
  split at parsed
  · cases parsed
  split at parsed
  · cases parsed
  · cases parsed
  split at parsed
  · cases parsed
  rename_i moved
  simp only [Except.ok.injEq] at parsed
  subst parsed
  exact ⟨_, Pgn.replay_fst _ _, rfl, rfl,
    by simpa [Pgn.Game.plyCount, List.length_pos_iff] using moved⟩

theorem replayed_of_parseGame {text : String} {g : Pgn.Game} (parsed : Pgn.parseGame text = .ok g) :
    Replayed g := by
  obtain ⟨start, positions, -, fens, -⟩ := parseGame_eq_ok parsed
  exact ⟨⟨start, positions⟩, fens⟩

namespace Replayed

variable {g : Pgn.Game} (replayed : Replayed g)
include replayed

theorem length_positions : g.positions.length = g.plyCount + 1 := by
  obtain ⟨start, positions⟩ := replayed.positions
  simp [positions, Pgn.Game.plyCount]

/-- The position after a move is the one before it with the move played. -/
theorem positionAt_succ {i : Nat} {m : Move} (played : g.moves[i]? = some m) :
    g.positionAt (i + 1) = (g.positionAt i).play m := by
  obtain ⟨start, positions⟩ := replayed.positions
  have lt : i < g.moves.length := (List.getElem?_eq_some_iff.mp played).1
  obtain ⟨q, at_i⟩ : ∃ q, (g.moves.scanl Position.play start)[i]? = some q :=
    ⟨_, List.getElem?_eq_getElem (by rw [List.length_scanl]; omega)⟩
  simp only [Pgn.Game.positionAt, List.getD_eq_getElem?_getD, positions,
    List.getElem?_succ_scanl, at_i, played]
  rfl

/-- Each move passes the turn. -/
theorem turn_succ {i : Nat} (lt : i < g.plyCount) :
    (g.positionAt (i + 1)).turn = (g.positionAt i).turn.other := by
  obtain ⟨m, played⟩ : ∃ m, g.moves[i]? = some m :=
    ⟨_, List.getElem?_eq_getElem lt⟩
  rw [replayed.positionAt_succ played, Position.play_turn]

/-- Every ply up to the last position has the FEN of its position. -/
theorem fen_at {i : Nat} (le : i ≤ g.plyCount) : g.fens[i]? = some (g.positionAt i).fen := by
  have lt : i < g.positions.length := by rw [replayed.length_positions]; omega
  rw [replayed.fens, List.getElem?_map, List.getElem?_eq_getElem lt, Pgn.Game.positionAt,
    List.getD_eq_getElem?_getD, List.getElem?_eq_getElem lt]
  rfl

end Replayed

/-- Only the final position can end a game, so no ply before it does. -/
theorem not_mem_terminalPlies {g : Pgn.Game} {ply : Nat} (lt : ply < g.plyCount) :
    ply ∉ g.terminalPlies := by
  unfold Pgn.Game.terminalPlies
  split <;> simp
  omega

/-! ## Where candidates are posed -/

/-- Where a puzzle of framing `type` is posed in a game: at ply `ply`, whose position has the FEN
`fen` and does not end the game, past the opening window; before a move for an avoiding puzzle,
after one for a punishing puzzle with the blunderer's opponent to move; and with the user, when
named by a side, to move. -/
structure PosedAt (g : Pgn.Game) (c : Config) (user : Option String) (type : PuzzleType)
    (ply : Nat) (fen : String) : Prop where
  fen_at : g.fens[ply]? = some fen
  fen_eq : fen = (g.positionAt ply).fen
  live : ply ∉ g.terminalPlies
  avoid : type = .avoidBlunder → c.openingSkipPlies ≤ ply ∧ ply < g.plyCount
  punish : type = .punishBlunder →
    c.openingSkipPlies + 1 ≤ ply ∧ ply ≤ g.plyCount ∧
      (g.positionAt ply).turn = (g.moverAt (ply - 1)).other
  user_to_move : ∀ side : Color, user = some side.name → (g.positionAt ply).turn = side

/-- A side named by the user is the mover exactly when the side test asks for the mover. -/
theorem isSide_name {side mover : Color} {same : Bool}
    (selected : isSide (some side.name) mover same = true) : (side = mover) = same := by
  cases same <;> cases side <;> cases mover <;> simp_all [isSide, Color.name]

theorem posedAt_of_mem_findCandidates {g : Pgn.Game} {es : Evaluations} {c : Config}
    {user : Option String} {cand : Candidate} (replayed : Replayed g)
    (framed : cand ∈ findCandidates g (classifyGame g es c) es c user) :
    PosedAt g c user cand.type cand.sourcePly cand.fen := by
  obtain ⟨p, member, early, -, (⟨-, selected, avoid⟩ | ⟨-, selected, punish⟩)⟩ :=
    mem_findCandidates.mp framed
  · obtain ⟨_, _, _, _, _, -, -, -, -, -, -, cand_eq⟩ := avoidCandidate_eq_some.mp avoid
    subst cand_eq
    have classified := classifiedAt_of_mem member
    have lt := classified.ply_lt
    have fen_at := replayed.fen_at lt.le
    have fen_eq : p.fenBefore = (g.positionAt p.ply).fen := by
      rw [classified.fenBefore, List.getD_eq_getElem?_getD, fen_at]
      rfl
    refine ⟨fen_eq ▸ fen_at, fen_eq, not_mem_terminalPlies lt, fun _ => ⟨early, lt⟩,
      (fun wrong => by cases wrong), ?_⟩
    rintro side rfl
    have mover : side = p.mover := by simpa using isSide_name selected
    rw [mover, classified.mover]
    rfl
  · obtain ⟨_, _, _, _, _, live, -, -, -, -, -, -, cand_eq⟩ := punishCandidate_eq_some.mp punish
    subst cand_eq
    have classified := classifiedAt_of_mem member
    have lt := classified.ply_lt
    have fen_at := replayed.fen_at (Nat.succ_le_of_lt lt)
    have fen_eq : p.fenAfter = (g.positionAt (p.ply + 1)).fen := by
      rw [classified.fenAfter, List.getD_eq_getElem?_getD, fen_at]
      rfl
    have turn : (g.positionAt (p.ply + 1)).turn = p.mover.other := by
      rw [replayed.turn_succ lt, classified.mover]
      rfl
    refine ⟨fen_eq ▸ fen_at, fen_eq, live, (fun wrong => by cases wrong),
      fun _ => ⟨by push_cast; omega, lt, ?_⟩, ?_⟩
    · rw [turn, classified.mover]
      rfl
    rintro side rfl
    have opponent : side ≠ p.mover := by simpa using isSide_name selected
    rw [turn, Color.eq_other_of_ne opponent]

/-! ## Puzzles of an analysis -/

/-- Every puzzle of an analysis is posed at a position of the replayed game, with its FEN, that
does not end the game: an avoiding puzzle before a move past the opening window, a punishing one
after such a move with the blunderer's opponent to move, and with the user to move whenever the
user's side is known. -/
theorem analyzeGame_puzzles_posed {σ : Type} (pgn : String) (c : Config)
    (ev : Option (Evaluator σ)) (supplied : Evaluations) (username userColor : Option String)
    (book : Openings.Book) (st : σ) :
    EveryPuzzle (fun a p => PosedAt a.game c a.userColor p.type p.sourcePly p.fen)
      ((analyzeGame pgn c ev supplied username userColor book).run st).1 := by
  unfold EveryPuzzle
  split
  · rename_i a run
    intro p member
    obtain ⟨parsed, classified, cand, framed, -, final, regraded, built⟩ :=
      exists_candidate_of_mem_puzzles run member
    rw [classified] at framed
    have posed := posedAt_of_mem_findCandidates (replayed_of_parseGame parsed) framed
    obtain ⟨type_eq, source_eq, fen_eq, -⟩ := regraded.fields
    obtain ⟨built_type, built_source, built_fen⟩ := buildPuzzle_posed built
    rw [built_type, built_source, built_fen, type_eq, source_eq, fen_eq]
    exact posed
  · trivial

end Analysis
end Tactician
