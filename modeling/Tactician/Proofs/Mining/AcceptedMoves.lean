import Mathlib
import Tactician.Proofs.Mining.SolutionLine

/-!
# Accepted moves and the solution move

A puzzle accepts the best line's move, trimmed and lower-cased, and with a forced mate every other
line that mates as fast.  Its solution move is the first move of the legal prefix of the best
line's principal variation, and the framing gates compare the best line's raw move text with the
move played.  The three readings of the solution agree when the best line leads with its own move
(`LeadsWith`): the coordinate text of a move is already trimmed and lower-case, so its normal form
is itself.  An evaluation whose move text and principal variation disagree gives a puzzle whose
solution move is not among its accepted moves.
-/

namespace Tactician
namespace Analysis

open Chess Tactics Text

/-! ## Coordinate texts are in normal form -/

/-- The characters coordinate texts are written with. -/
def coordinateChars : List Char :=
  ['a', 'b', 'c', 'd', 'e', 'f', 'g', 'h', '0', '1', '2', '3', '4', '5', '6', '7', '8',
    'p', 'n', 'r', 'q', 'k']

/-- Lower-casing maps each coordinate character to itself, none is the capital sigma that
lower-casing reads in context, and none is blank. -/
theorem coordinateChars_fixed :
    ∀ c ∈ coordinateChars,
      mapChar lowerRuns lowerSpecials c = [c] ∧ c ≠ capitalSigma ∧ isBlank c = false := by
  have checked : coordinateChars.all (fun c =>
      mapChar lowerRuns lowerSpecials c == [c] && c != capitalSigma && !isBlank c) = true := by
    decide
  simpa [and_assoc] using checked

theorem mem_coordinateChars_of_mem_name (s : Square) :
    ∀ c ∈ s.name.toList, c ∈ coordinateChars := by
  have named : ∀ s : Square,
      Square.fileLetter s.file ∈ coordinateChars ∧ Square.rankDigit s.rank ∈ coordinateChars := by
    decide
  intro c mem
  simp only [Square.name, String.toList_ofList, List.mem_cons, List.not_mem_nil, or_false] at mem
  rcases mem with rfl | rfl
  · exact (named s).1
  · exact (named s).2

theorem mem_coordinateChars_of_mem_uci (m : Move) : ∀ c ∈ m.uci.toList, c ∈ coordinateChars := by
  unfold Move.uci
  split
  · intro c mem
    have zeros : "0000".toList = ['0', '0', '0', '0'] := rfl
    simp only [zeros, List.mem_cons, List.not_mem_nil, or_false, or_self] at mem
    simp [mem, coordinateChars]
  intro c mem
  simp only [String.toList_append, List.mem_append] at mem
  rcases mem with (source | target) | promotion
  · exact mem_coordinateChars_of_mem_name _ c source
  · exact mem_coordinateChars_of_mem_name _ c target
  · have lettered : ∀ r : Role, r.letter ∈ coordinateChars := by
      intro r
      cases r <;> decide
    split at promotion
    · rename_i r _
      simp only [String.toList_singleton, List.mem_singleton] at promotion
      exact promotion ▸ lettered r
    · simp at promotion

theorem lowerChars_of_fixed {before cs : List Char}
    (fixed : ∀ c ∈ cs, mapChar lowerRuns lowerSpecials c = [c] ∧ c ≠ capitalSigma) :
    lowerChars before cs = cs := by
  induction cs generalizing before with
  | nil => rfl
  | cons c rest ih =>
      obtain ⟨same, not_sigma⟩ := fixed c List.mem_cons_self
      have rest_fixed := @ih (c :: before) fun d mem => fixed d (List.mem_cons_of_mem c mem)
      simp [lowerChars, same, not_sigma, rest_fixed]

theorem dropBlanks_of_solid {cs : List Char} (solid : ∀ c ∈ cs, isBlank c = false) :
    dropBlanks cs = cs := by
  cases cs with
  | nil => rfl
  | cons c rest => simp [dropBlanks, solid c List.mem_cons_self]

theorem trim_of_solid {s : String} (solid : ∀ c ∈ s.toList, isBlank c = false) : trim s = s := by
  have reversed : ∀ c ∈ s.toList.reverse, isBlank c = false := fun c mem =>
    solid c (List.mem_reverse.mp mem)
  simp [trim, dropBlanks_of_solid solid, dropBlanks_of_solid reversed]

/-- The coordinate text of a move is already trimmed and lower-case. -/
theorem toLower_trim_uci (m : Move) : toLower (trim m.uci) = m.uci := by
  have fixed := fun c mem => coordinateChars_fixed c (mem_coordinateChars_of_mem_uci m c mem)
  rw [trim_of_solid fun c mem => (fixed c mem).2.2]
  simp [toLower, lowerChars_of_fixed fun c mem => ⟨(fixed c mem).1, (fixed c mem).2.1⟩]

/-! ## The accepted list -/

/-- A fold that appends an item only when it is new keeps its start in front, stays free of
duplicates, and adds only images of the items it folds over. -/
theorem foldl_append_new {α β : Type} {step : List α → β → List α} {f : β → α}
    (grows : ∀ acc b, step acc b = acc ∨ (f b ∉ acc ∧ step acc b = acc ++ [f b]))
    (bs : List β) (acc : List α) (nodup : acc.Nodup) :
    ∃ added, bs.foldl step acc = acc ++ added ∧ (acc ++ added).Nodup ∧
      ∀ x ∈ added, ∃ b ∈ bs, x = f b := by
  induction bs generalizing acc with
  | nil => exact ⟨[], by simp, by simpa using nodup, by simp⟩
  | cons b rest ih =>
      rcases grows acc b with same | ⟨fresh, grown⟩
      · obtain ⟨added, folded, nodup', images⟩ := ih acc nodup
        refine ⟨added, by rw [List.foldl_cons, same, folded], nodup', fun x mem => ?_⟩
        obtain ⟨b', mem', rfl⟩ := images x mem
        exact ⟨b', List.mem_cons_of_mem b mem', rfl⟩
      · have longer : (acc ++ [f b]).Nodup :=
          List.nodup_append.mpr ⟨nodup, List.nodup_singleton _, fun a mem b' mem' same => by
            simp only [List.mem_singleton] at mem'
            exact fresh (mem' ▸ same ▸ mem)⟩
        obtain ⟨added, folded, nodup', images⟩ := ih (acc ++ [f b]) longer
        refine ⟨f b :: added, by rw [List.foldl_cons, grown, folded]; simp, by simpa using nodup',
          fun x mem => ?_⟩
        rcases List.mem_cons.mp mem with rfl | mem
        · exact ⟨b, List.mem_cons_self, rfl⟩
        · obtain ⟨b', mem', rfl⟩ := images x mem
          exact ⟨b', List.mem_cons_of_mem b mem', rfl⟩

/-- What the accepted moves of an evaluation are, given its best line: led by the best line's
move, distinct, capped, and each the trimmed, lower-cased move of one of its lines. -/
structure AcceptedFrom (e : Evaluation) (best : EngineLine) (moves : List String) : Prop where
  head : moves.head? = some (toLower (trim best.move))
  nodup : moves.Nodup
  length_le : moves.length ≤ maxAcceptedMoves
  normalized : ∀ s ∈ moves, ∃ l ∈ e.lines, s = toLower (trim l.move)

/-- Capping a list that starts with the best move, has no duplicates and holds only normalised
moves of the lines gives the accepted moves. -/
theorem acceptedFrom_take {e : Evaluation} {best : EngineLine} {all : List String}
    (head : ∃ rest, all = toLower (trim best.move) :: rest)
    (nodup : all.Nodup) (normalized : ∀ s ∈ all, ∃ l ∈ e.lines, s = toLower (trim l.move)) :
    AcceptedFrom e best (all.take maxAcceptedMoves) := by
  obtain ⟨rest, rfl⟩ := head
  refine ⟨by simp [maxAcceptedMoves], (List.take_sublist _ _).nodup nodup,
    List.length_take_le _ _, fun s mem => normalized s (List.mem_of_mem_take mem)⟩

theorem acceptedFrom_single {e : Evaluation} {best : EngineLine} (best_mem : best ∈ e.lines) :
    AcceptedFrom e best ([toLower (trim best.move)].take maxAcceptedMoves) :=
  acceptedFrom_take ⟨[], rfl⟩ (List.nodup_singleton _) (by simpa using ⟨best, best_mem, rfl⟩)

/-- Starting from the best move and appending each new move of the later lines keeps the
accepted-moves shape. -/
theorem acceptedFrom_foldl {e : Evaluation} {best : EngineLine}
    {step : List String → EngineLine → List String}
    (grows : ∀ acc l, step acc l = acc ∨
      (toLower (trim l.move) ∉ acc ∧ step acc l = acc ++ [toLower (trim l.move)]))
    (best_mem : best ∈ e.lines) :
    AcceptedFrom e best
      (((e.lines.drop 1).foldl step [toLower (trim best.move)]).take maxAcceptedMoves) := by
  obtain ⟨added, folded, nodup, images⟩ :=
    foldl_append_new grows (e.lines.drop 1) [toLower (trim best.move)] (List.nodup_singleton _)
  rw [folded]
  refine acceptedFrom_take ⟨added, rfl⟩ nodup fun s mem => ?_
  rcases List.mem_append.mp mem with first | mem
  · exact ⟨best, best_mem, List.mem_singleton.mp first⟩
  · obtain ⟨l, mem', rfl⟩ := images s mem
    exact ⟨l, List.mem_of_mem_drop mem', rfl⟩

theorem acceptedFrom_acceptedMoves {e : Evaluation} {best : EngineLine}
    (best_eq : e.best? = some best) : AcceptedFrom e best (acceptedMoves e) := by
  have best_mem : best ∈ e.lines := List.mem_of_mem_head? best_eq
  unfold acceptedMoves
  simp only [best_eq]
  split
  · split
    · refine acceptedFrom_foldl (fun acc l => ?_) best_mem
      split
      · rename_i fresh
        simp only [Bool.and_eq_true, Bool.not_eq_eq_eq_not, Bool.not_true] at fresh
        exact .inr ⟨by simpa using fresh.2, rfl⟩
      · exact .inl rfl
    · exact acceptedFrom_single best_mem
  · exact acceptedFrom_single best_mem

/-! ## The motifs -/

theorem multiSolution_not_mem_moveMotifs (p : Position) (m : Move) :
    Motif.multiSolution ∉ moveMotifs p m := by
  simp only [moveMotifs, List.mem_append, not_or]
  refine ⟨⟨⟨⟨⟨⟨?_, ?_⟩, ?_⟩, ?_⟩, ?_⟩, ?_⟩, ?_⟩ <;> split <;> simp
  split <;> simp

/-- The signals read from a line never include the several-solutions marker; only the build adds
it, from the accepted moves. -/
theorem multiSolution_not_mem_lineMotifs (p : Position) (e : Evaluation) :
    Motif.multiSolution ∉ lineMotifs p e := by
  unfold lineMotifs
  split
  · simp
  · simp only [List.mem_append, not_or]
    refine ⟨⟨?_, ?_⟩, ?_⟩
    · split
      · exact multiSolution_not_mem_moveMotifs _ _
      · simp
    · split <;> simp
    · split <;> simp

/-! ## The framing gates -/

/-- The confirmation pass keeps the text of the best move. -/
theorem Regraded.best_move {σ : Type} {ev : Option (Evaluator σ)} {c : Config}
    {cand final : Candidate} (regraded : Regraded ev c cand final) {best : EngineLine}
    (best_eq : final.evaluation.best? = some best) :
    ∃ shallow, cand.evaluation.best? = some shallow ∧ best.move = shallow.move := by
  rcases regraded with rfl | ⟨d, -, deeper⟩
  · exact ⟨best, best_eq, rfl⟩
  · obtain ⟨best', shallow, _, _, best'_eq, shallow_eq, same, -, -, -, -, -, rfl⟩ :=
      reconfirm_eq_some.mp deeper
    have : best' = best := Option.some.inj (best'_eq.symm.trans best_eq)
    exact ⟨shallow, shallow_eq, this ▸ same⟩

/-- A framed candidate's best move is written differently from the move played from its position:
always for an avoiding framing, and for a punishing one when punished moves are skipped. -/
theorem best_move_ne_played {g : Pgn.Game} {es : Evaluations} {c : Config}
    {user : Option String} {cand : Candidate}
    (framed : cand ∈ findCandidates g (classifyGame g es c) es c user)
    (gated : cand.type = .avoidBlunder ∨ c.skipPunishedBlunders = true) {mv : Move}
    (played : g.moves[cand.sourcePly]? = some mv) {best : EngineLine}
    (best_eq : cand.evaluation.best? = some best) : best.move ≠ mv.uci := by
  obtain ⟨p, member, -, -, (⟨-, -, avoid⟩ | ⟨-, -, punish⟩)⟩ := mem_findCandidates.mp framed
  · obtain ⟨e, best', _, _, _, -, best'_eq, differs, -, -, -, cand_eq⟩ :=
      avoidCandidate_eq_some.mp avoid
    subst cand_eq
    have same : best' = best := Option.some.inj (best'_eq.symm.trans best_eq)
    have move_eq : p.moveUci = mv.uci := by
      rw [(classifiedAt_of_mem member).moveUci, List.getD_eq_getElem?_getD]
      simp [played]
    exact same ▸ move_eq ▸ differs
  · obtain ⟨e, best', _, _, _, -, -, best'_eq, -, -, -, unpunished, cand_eq⟩ :=
      punishCandidate_eq_some.mp punish
    subst cand_eq
    have same : best' = best := Option.some.inj (best'_eq.symm.trans best_eq)
    have skip : c.skipPunishedBlunders = true := gated.resolve_left (by simp)
    intro eq
    exact unpunished ⟨skip, by simp [played, same, eq]⟩

/-! ## The solution move -/

/-- A best line leads with its own move from a position: the first move of its legal prefix is
written exactly as the line's move. -/
def LeadsWith (q : Position) (best : EngineLine) : Prop :=
  (legalLine q best.pv).head?.map Move.uci = some best.move

/-- The head of a non-empty signed cut is the head of the list. -/
theorem head?_takeSigned {α : Type} {xs : List α} {n : Int} (nonempty : takeSigned xs n ≠ []) :
    (takeSigned xs n).head? = xs.head? := by
  obtain ⟨k, cut⟩ := exists_takeSigned_eq_take xs n
  rw [cut] at nonempty ⊢
  rw [List.head?_take, if_neg]
  rintro rfl
  exact nonempty rfl

/-- When the best line leads with its own move, the puzzle's solution move is that move. -/
theorem SolvedBy.bestMove_eq {c : Config} {p : Puzzle} {best : EngineLine}
    (solved : SolvedBy c p best) (leads : LeadsWith p.position best) : p.bestMove = best.move := by
  have first := solved.first
  have nonempty := solved.nonempty
  rw [solved.cut] at first nonempty
  rw [List.head?_map, head?_takeSigned (by simpa using nonempty)] at first
  unfold LeadsWith at leads
  rw [first] at leads
  exact Option.some.inj leads

/-! ## Puzzles of an analysis -/

/-- A property of every puzzle of a finished analysis; a failed analysis has none. -/
def EveryPuzzle (P : GameAnalysis → Puzzle → Prop) : Except Failure GameAnalysis → Prop
  | .ok a => ∀ p ∈ a.puzzles, P a p
  | .error _ => True

/-- How a puzzle's solution move, its accepted moves and the move played sit together, given the
best line `best` of the evaluation `e` it was graded on. -/
structure OneSolution (a : GameAnalysis) (c : Config) (p : Puzzle) (e : Evaluation)
    (best : EngineLine) : Prop where
  accepted : AcceptedFrom e best p.acceptedMoves
  multiSolution : Motif.multiSolution ∈ p.motifs ↔ 1 < p.acceptedMoves.length
  /-- The framing gate compares the best line's move text with the move played. -/
  unplayed : p.type = .avoidBlunder ∨ c.skipPunishedBlunders = true →
    ∀ mv, a.game.moves[p.sourcePly]? = some mv → best.move ≠ mv.uci
  /-- When the best line leads with its own move, the solution move is accepted and is not the
  move played. -/
  leads : LeadsWith p.position best →
    p.bestMove ∈ p.acceptedMoves ∧ (p.type = .avoidBlunder ∨ c.skipPunishedBlunders = true →
      ∀ mv, a.game.moves[p.sourcePly]? = some mv → p.bestMove ≠ mv.uci)

/-- Every puzzle of an analysis accepts the best line's normalised move first, without duplicates
and within the cap, is marked as having several solutions exactly when it accepts several moves,
and passed a gate that tells the best move from the move played; when the best line it was graded
on leads with its own move, its solution move is accepted and differs from the move played. -/
theorem analyzeGame_one_solution {σ : Type} (pgn : String) (c : Config)
    (ev : Option (Evaluator σ)) (supplied : Evaluations) (username userColor : Option String)
    (book : Openings.Book) (st : σ) :
    EveryPuzzle (fun a p => ∃ e best,
        (a.evaluations.at? p.sourcePly = some e ∨ Answered ev c p.fen e) ∧ e.best? = some best ∧
          OneSolution a c p e best)
      ((analyzeGame pgn c ev supplied username userColor book).run st).1 := by
  unfold EveryPuzzle
  split
  · rename_i a run
    intro p member
    obtain ⟨classified, cand, framed, -, final, regraded, built, evaluated⟩ :=
      exists_evaluated_of_mem_puzzles run member
    rw [classified] at framed
    obtain ⟨best, best_eq, solved⟩ := solvedBy_of_buildPuzzle built
    obtain ⟨type_eq, source_eq, -, -⟩ := regraded.fields
    obtain ⟨shallow, shallow_eq, same_move⟩ := regraded.best_move best_eq
    have accepted := acceptedFrom_acceptedMoves best_eq
    obtain ⟨_, _, _, -, -, p_eq⟩ := buildPuzzle_eq_ok.mp built
    subst p_eq
    have unplayed : final.type = .avoidBlunder ∨ c.skipPunishedBlunders = true →
        ∀ mv, a.game.moves[final.sourcePly]? = some mv → best.move ≠ mv.uci := by
      intro gated mv played
      rw [same_move]
      rw [type_eq] at gated
      rw [source_eq] at played
      exact best_move_ne_played framed gated played shallow_eq
    refine ⟨final.evaluation, best, evaluated, best_eq, accepted, ?_, unplayed, fun leads => ?_⟩
    · simp [multiSolution_not_mem_lineMotifs]
    · have solution := solved.bestMove_eq leads
      obtain ⟨m, -, written⟩ := Option.map_eq_some_iff.mp leads
      refine ⟨?_, fun gated mv played => solution ▸ unplayed gated mv played⟩
      apply List.mem_of_mem_head?
      rw [accepted.head, ← written, toLower_trim_uci, written, ← solution]
      rfl
  · trivial

/-- The avoiding puzzle of the lone queen's position, mined from an evaluation whose move text
d1d7 differs from its principal variation's d1d8, is solved by d1d8 and accepts only d1d7. -/
theorem buildPuzzle_stray_pv :
    ∃ p, buildPuzzle
        { type := .avoidBlunder, sourcePly := 0, fen := "4k3/8/8/8/8/8/8/3QK3 w - - 0 1",
          evaluation :=
            { fen := "4k3/8/8/8/8/8/8/3QK3 w - - 0 1",
              lines := [{ move := "d1d7", score := { cp := some 900 }, pv := ["d1d8"] }] },
          swing := 300, kind := .blunder, severity := 2, referenceCp := 600 }
        {} { openingSkipPlies := 0, minPvMoves := 1, requireTactical := false,
             skipTrivialEndgames := false } = .ok p ∧
      p.bestMove = "d1d8" ∧ p.acceptedMoves = ["d1d7"] := by
  have line : (takeSigned (legalLine (Candidate.position
      { type := .avoidBlunder, sourcePly := 0, fen := "4k3/8/8/8/8/8/8/3QK3 w - - 0 1",
        evaluation :=
          { fen := "4k3/8/8/8/8/8/8/3QK3 w - - 0 1",
            lines := [{ move := "d1d7", score := { cp := some 900 }, pv := ["d1d8"] }] },
        swing := 300, kind := .blunder, severity := 2, referenceCp := 600 }) ["d1d8"])
      10).map Move.uci = ["d1d8"] := by
    decide +kernel
  have accepted : acceptedMoves
      { fen := "4k3/8/8/8/8/8/8/3QK3 w - - 0 1",
        lines := [{ move := "d1d7", score := { cp := some 900 }, pv := ["d1d8"] }] } =
      ["d1d7"] := by
    decide +kernel
  exact ⟨_, buildPuzzle_eq_ok.mpr ⟨_, "d1d8", [], rfl, line, rfl⟩, rfl, accepted⟩

/-- An evaluation whose best move text is d1d7 while its principal variation starts with d1d8:
the avoiding puzzle built from the lone queen's position is solved by d1d8 but accepts only d1d7. -/
theorem bestMove_not_accepted_of_stray_pv :
    ∃ p, buildPuzzle
        { type := .avoidBlunder, sourcePly := 0, fen := "4k3/8/8/8/8/8/8/3QK3 w - - 0 1",
          evaluation :=
            { fen := "4k3/8/8/8/8/8/8/3QK3 w - - 0 1",
              lines := [{ move := "d1d7", score := { cp := some 900 }, pv := ["d1d8"] }] },
          swing := 300, kind := .blunder, severity := 2, referenceCp := 600 }
        {} { openingSkipPlies := 0, minPvMoves := 1, requireTactical := false,
             skipTrivialEndgames := false } = .ok p ∧
      p.bestMove = "d1d8" ∧ p.acceptedMoves = ["d1d7"] ∧ p.bestMove ∉ p.acceptedMoves := by
  obtain ⟨p, built, best, accepted⟩ := buildPuzzle_stray_pv
  refine ⟨p, built, best, accepted, ?_⟩
  rw [best, accepted]
  decide

end Analysis
end Tactician
