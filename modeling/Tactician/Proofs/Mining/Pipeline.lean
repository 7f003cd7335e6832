import Mathlib
import Tactician.Analysis.Extract

/-!
# Where mined puzzles come from

An analysis threads the evaluator's state through two loops, gathering the evaluations and the
deeper confirmation pass, and then thins, builds and ranks the candidates.  This file follows every
stage backwards.  Each puzzle of a finished analysis is built from a candidate framed from one
classified move of the replayed game; the candidate passed the filters and then either stayed as
it was or was re-graded from an answer the evaluator gave for its position at the confirmation
budget (`Regraded`).  A failed analysis failed for one of five reasons, and a failure once the
evaluations are in is always such a candidate whose solution line came out empty.
-/

namespace Tactician
namespace Analysis

variable {σ : Type}

/-! ## Loops and list stages -/

theorem stateM_run_bind {α β : Type} (x : StateM σ α) (f : α → StateM σ β) (st : σ) :
    (x >>= f).run st = (f (x.run st).1).run (x.run st).2 := rfl

theorem stateM_run_pure {α : Type} (a : α) (st : σ) : (pure a : StateM σ α).run st = (a, st) := rfl

/-- A loop that appends one entry per item, keyed by the item, builds a table whose keys are the
items in order, each with a value its step vouched for, from whatever state the step ran in. -/
theorem forIn_table {α β : Type} (vouched : α → β → Prop) (xs : List α) (init : List (α × β))
    (body : α → List (α × β) → StateM σ (ForInStep (List (α × β))))
    (init_vouched : ∀ e ∈ init, vouched e.1 e.2)
    (each : ∀ x acc st, ∃ v, vouched x v ∧ ((body x acc).run st).1 = .yield (acc ++ [(x, v)]))
    (st : σ) :
    ((forIn xs init body).run st).1.map (·.1) = init.map (·.1) ++ xs ∧
      ∀ e ∈ ((forIn xs init body).run st).1, vouched e.1 e.2 := by
  induction xs generalizing init st with
  | nil =>
      simp only [List.forIn_nil, List.append_nil]
      exact ⟨rfl, init_vouched⟩
  | cons x rest ih =>
      simp only [List.forIn_cons, StateT.run_bind]
      obtain ⟨v, holds, step⟩ := each x init st
      generalize (body x init).run st = outcome at step ⊢
      obtain ⟨next, st'⟩ := outcome
      subst step
      have grown : ∀ e ∈ init ++ [(x, v)], vouched e.1 e.2 := by
        intro e mem
        rcases List.mem_append.mp mem with old | added
        · exact init_vouched e old
        · rw [List.mem_singleton.mp added]
          exact holds
      obtain ⟨keys, values⟩ := ih (init ++ [(x, v)]) grown st'
      rw [List.map_append, List.map_singleton, List.append_assoc, List.singleton_append] at keys
      exact ⟨keys, values⟩

/-- Looking up a key of a table finds the value of an entry under that key. -/
theorem find?_of_mem_keys {β : Type} {table : List (String × β)} {k : String}
    (listed : k ∈ table.map (·.1)) :
    ∃ v, (k, v) ∈ table ∧ (table.find? (·.1 == k)).map (·.2) = some v := by
  rcases found : table.find? (·.1 == k) with _ | ⟨f, v⟩
  · obtain ⟨e, mem, rfl⟩ := List.mem_map.mp listed
    exact absurd (List.find?_eq_none.mp found e mem) (by simp)
  · have same : f = k := by simpa using List.find?_some found
    subst same
    exact ⟨v, List.mem_of_find?_eq_some found, by rw [found]; rfl⟩

/-- A value a table of optional values gives for a key is held under that key. -/
theorem mem_of_find?_join {β : Type} {table : List (String × Option β)} {k : String} {v : β}
    (found : ((table.find? (·.1 == k)).map (·.2)).join = some v) : (k, some v) ∈ table := by
  simp only [Option.join_eq_some_iff, Option.map_eq_some_iff] at found
  obtain ⟨⟨f, answer⟩, entry_found, second⟩ := found
  have same : f = k := by simpa using List.find?_some entry_found
  subst same second
  exact List.mem_of_find?_eq_some entry_found

/-- A left fold whose step either keeps its list or appends the current item keeps a sublist of
the items it reads. -/
theorem foldl_keep_sublist {α β : Type} {step : List α × β → α → List α × β}
    (keeps : ∀ acc a, (step acc a).1 = acc.1 ∨ (step acc a).1 = acc.1 ++ [a])
    (xs : List α) (init : List α × β) :
    ∃ ys, ys.Sublist xs ∧ (xs.foldl step init).1 = init.1 ++ ys := by
  induction xs generalizing init with
  | nil => exact ⟨[], List.Sublist.slnil, by simp⟩
  | cons x rest ih =>
      obtain ⟨ys, sub, eq⟩ := ih (step init x)
      rcases keeps init x with same | grown
      · exact ⟨ys, sub.cons x, by rw [List.foldl_cons, eq, same]⟩
      · exact ⟨x :: ys, sub.cons_cons x, by rw [List.foldl_cons, eq, grown]; simp⟩

theorem sublist_of_foldl_keep {α β : Type} {step : List α × β → α → List α × β}
    (keeps : ∀ acc a, (step acc a).1 = acc.1 ∨ (step acc a).1 = acc.1 ++ [a])
    {xs kept : List α} {start finish : β} (folded : xs.foldl step ([], start) = (kept, finish)) :
    kept.Sublist xs := by
  obtain ⟨ys, sub, eq⟩ := foldl_keep_sublist keeps xs ([], start)
  rw [folded, List.nil_append] at eq
  have same : kept = ys := eq
  exact same ▸ sub

theorem mapM_cons_except {α β ε : Type} (f : α → Except ε β) (x : α) (rest : List α) :
    (x :: rest).mapM f =
      match f x, rest.mapM f with
      | .ok y, .ok ys => .ok (y :: ys)
      | .error e, _ => .error e
      | .ok _, .error e => .error e := by
  rw [List.mapM_cons]
  rcases f x with e | y <;> rcases rest.mapM f with e' | ys <;> rfl

/-- Every value of a successful `mapM` is the image of one of the inputs. -/
theorem mem_of_mapM_ok {α β ε : Type} {f : α → Except ε β} {xs : List α} {ys : List β}
    (mapped : xs.mapM f = .ok ys) {y : β} (member : y ∈ ys) : ∃ x ∈ xs, f x = .ok y := by
  induction xs generalizing ys with
  | nil =>
      cases mapped
      cases member
  | cons x rest ih =>
      rw [mapM_cons_except] at mapped
      rcases head : f x with e | first <;> rcases tail : rest.mapM f with e' | others <;>
        simp only [head, tail, reduceCtorEq, Except.ok.injEq] at mapped
      subst mapped
      rcases List.mem_cons.mp member with rfl | later
      · exact ⟨x, List.mem_cons_self, head⟩
      · obtain ⟨z, z_mem, z_ok⟩ := ih tail later
        exact ⟨z, List.mem_cons_of_mem x z_mem, z_ok⟩

/-- A failed `mapM` failed on one of its inputs. -/
theorem exists_of_mapM_error {α β ε : Type} {f : α → Except ε β} {xs : List α} {e : ε}
    (failed : xs.mapM f = .error e) : ∃ x ∈ xs, f x = .error e := by
  induction xs with
  | nil => cases failed
  | cons x rest ih =>
      rw [mapM_cons_except] at failed
      rcases head : f x with e₀ | first <;> rcases tail : rest.mapM f with e' | others <;>
        simp only [head, tail, reduceCtorEq, Except.error.injEq] at failed
      · exact ⟨x, List.mem_cons_self, failed ▸ head⟩
      · exact ⟨x, List.mem_cons_self, failed ▸ head⟩
      · obtain ⟨z, z_mem, z_error⟩ := ih (failed ▸ tail)
        exact ⟨z, List.mem_cons_of_mem x z_mem, z_error⟩

/-! ## Thinning and ranking -/

theorem mem_byPlyAndType {cands : List Candidate} {x : Candidate} :
    x ∈ byPlyAndType cands ↔ x ∈ cands :=
  (List.mergeSort_perm _ _).mem_iff

/-- With a positive cooldown, the kept candidates are a sublist of the candidates in ply order. -/
theorem applyCooldown_sublist (cands : List Candidate) (cooldown : Int) (positive : 0 < cooldown) :
    (applyCooldown cands cooldown).Sublist (byPlyAndType cands) := by
  unfold applyCooldown
  rw [if_neg (by omega)]
  split
  rename_i folded
  refine sublist_of_foldl_keep ?_ folded
  rintro ⟨kept, last⟩ cand
  dsimp only
  split
  · split
    · exact .inl rfl
    · exact .inr rfl
  · exact .inr rfl

/-- Deduplication keeps a sublist of the candidates in ply order. -/
theorem dedupe_sublist (cands : List Candidate) :
    (dedupe cands).Sublist (byPlyAndType cands) := by
  unfold dedupe
  split
  rename_i folded
  refine sublist_of_foldl_keep ?_ folded
  rintro ⟨kept, plies, fens⟩ cand
  dsimp only
  split
  · exact .inl rfl
  · exact .inr rfl

theorem mem_of_mem_applyCooldown {cands : List Candidate} {cooldown : Int} {x : Candidate}
    (member : x ∈ applyCooldown cands cooldown) : x ∈ cands := by
  by_cases positive : 0 < cooldown
  · exact mem_byPlyAndType.mp ((applyCooldown_sublist cands cooldown positive).subset member)
  · unfold applyCooldown at member
    rwa [if_pos (by omega)] at member

theorem mem_of_mem_dedupe {cands : List Candidate} {x : Candidate} (member : x ∈ dedupe cands) :
    x ∈ cands :=
  mem_byPlyAndType.mp ((dedupe_sublist cands).subset member)

theorem mem_of_mem_selectPuzzles {ps : List Puzzle} {cap : Option Int} {p : Puzzle}
    (member : p ∈ selectPuzzles ps cap) : p ∈ ps := by
  have ranked {q : Puzzle} {le : Puzzle → Puzzle → Bool} (mem : q ∈ ps.mergeSort le) : q ∈ ps :=
    (List.mergeSort_perm _ _).mem_iff.mp mem
  unfold selectPuzzles at member
  split at member
  · split at member
    · exact ranked member
    · exact ranked (List.mem_of_mem_take member)
  · exact ranked member

/-! ## The confirmation pass -/

/-- The evaluator, asked at the confirmation budget, answered `d` for the position `fen`. -/
def Answered (ev : Option (Evaluator σ)) (c : Config) (fen : String) (d : Evaluation) : Prop :=
  c.confirmationEnabled = true ∧ ∃ an t st, ev = some an ∧ c.confirmMovetimeMs = some t ∧
    ((an.analyse fen t (searchLines c)).run st).1 = .ok d

/-- What the confirmation pass made of a candidate: the candidate itself, or its re-grading from a
deeper evaluation the evaluator gave for its position. -/
def Regraded (ev : Option (Evaluator σ)) (c : Config) (cand final : Candidate) : Prop :=
  final = cand ∨ ∃ d, Answered ev c cand.fen d ∧ reconfirm cand d c = some final

/-- Every candidate after the confirmation pass is one it was given, kept or re-graded. -/
theorem mem_confirmCandidates {cands : List Candidate} {ev : Option (Evaluator σ)} {c : Config}
    {st : σ} {final : Candidate} (member : final ∈ ((confirmCandidates cands ev c).run st).1) :
    ∃ cand ∈ cands, Regraded ev c cand final := by
  unfold confirmCandidates at member
  rcases ev with _ | an
  · exact ⟨final, member, .inl rfl⟩
  rcases budget : c.confirmMovetimeMs with _ | t
  · simp only [budget] at member
    exact ⟨final, member, .inl rfl⟩
  simp only [budget] at member
  split at member
  · exact ⟨final, member, .inl rfl⟩
  rename_i enabled
  have confirming : c.confirmationEnabled = true := by simp at enabled; exact enabled.1
  simp only [StateT.run_bind] at member
  generalize table : StateT.run (forIn (distinct (cands.map (·.fen)))
    ([] : List (String × Option Evaluation)) _ : StateM σ (List (String × Option Evaluation)))
    st = run at member
  have answered : ∀ e ∈ run.1, ∀ d, e.2 = some d → Answered (some an) c e.1 d := by
    rw [← table]
    refine (forIn_table (fun f v => ∀ d, v = some d → Answered (some an) c f d) _ [] _
      (fun _ none => by cases none) (fun fen acc s => ?_) st).2
    simp only [stateM_run_bind]
    rcases reply : (an.analyse fen t (searchLines c)).run s with ⟨_ | r, s'⟩
    · exact ⟨none, fun _ unset => (by cases unset), rfl⟩
    · refine ⟨some r, fun d same => ⟨confirming, an, t, s, rfl, budget, ?_⟩, rfl⟩
      rw [reply, Option.some.inj same]
  obtain ⟨cand, mem, picked⟩ := List.mem_filterMap.mp member
  refine ⟨cand, mem, ?_⟩
  split at picked
  · exact .inl (Option.some.inj picked).symm
  · rename_i d found
    exact .inr ⟨d, answered _ (mem_of_find?_join found) d rfl, picked⟩

/-! ## Stages that can fail -/

/-- Gathering evaluations fails only when no position has one, when every request failed, or
when the engine is unavailable. -/
theorem gatherEvaluations_error {g : Pgn.Game} {c : Config} {ev : Option (Evaluator σ)}
    {supplied : Evaluations} {st : σ} {f : Failure}
    (failed : ((gatherEvaluations g c ev supplied).run st).1 = .error f) :
    f = .noEvaluations ∨ (∃ n, f = .allFailed n) ∨ ∃ m, f = .unavailable m := by
  rcases ev with _ | an <;> simp only [gatherEvaluations] at failed
  · split at failed
    · cases failed
    split at failed
    · cases failed
      exact .inl rfl
    · cases failed
  split at failed
  · cases failed
  simp only [stateM_run_bind] at failed
  split at failed
  · cases failed
    exact .inr (.inr ⟨_, rfl⟩)
  · split at failed
    · cases failed
      exact .inr (.inl ⟨_, rfl⟩)
    · cases failed

/-- A built puzzle takes its position and grading from the candidate, its score from the best
line, and its solution from that line's legal prefix cut to the longest line kept, which must not
come out empty. -/
theorem buildPuzzle_eq_ok {cand : Candidate} {opening : Openings.Info} {c : Config} {p : Puzzle} :
    buildPuzzle cand opening c = .ok p ↔
      ∃ best first rest, cand.evaluation.best? = some best ∧
        (takeSigned (Tactics.legalLine cand.position best.pv) c.maxLinePlies).map Chess.Move.uci =
          first :: rest ∧
        p = { sourcePly := cand.sourcePly, fen := cand.fen, bestMove := first,
              bestLine := first :: rest, type := cand.type, kind := cand.kind,
              severity := cand.severity, score := best.score,
              motifs := Tactics.lineMotifs cand.position cand.evaluation ++
                (if (acceptedMoves cand.evaluation).length > 1 then [Tactics.Motif.multiSolution]
                 else []),
              opening := opening,
              label := puzzleLabel cand.type (Tactics.lineMotifs cand.position cand.evaluation ++
                (if (acceptedMoves cand.evaluation).length > 1 then [Tactics.Motif.multiSolution]
                 else []))
                (if gamePhase cand.position cand.sourcePly == .opening then some opening else none),
              phase := gamePhase cand.position cand.sourcePly,
              acceptedMoves := acceptedMoves cand.evaluation, swing := cand.swing } := by
  unfold buildPuzzle
  rcases best_eq : cand.evaluation.best? with _ | best
  · simp [best_eq, throw, throwThe, MonadExceptOf.throw, bind, Except.bind]
  rcases line_eq : (takeSigned (Tactics.legalLine cand.position best.pv) c.maxLinePlies).map
      Chess.Move.uci with _ | ⟨first, rest⟩
  · simp [best_eq, line_eq, throw, throwThe, MonadExceptOf.throw, bind, Except.bind, pure,
      Except.pure]
  · simp only [best_eq, bind, Except.bind, pure, Except.pure, line_eq, Except.ok.injEq]
    constructor
    · rintro rfl
      exact ⟨best, first, rest, rfl, line_eq, rfl⟩
    · rintro ⟨b, f, r, b_eq, fr_eq, rfl⟩
      cases b_eq
      obtain ⟨rfl, rfl⟩ := List.cons.inj (line_eq.symm.trans fr_eq)
      rfl

/-- A built puzzle is posed where its candidate is, with the candidate's framing. -/
theorem buildPuzzle_posed {cand : Candidate} {opening : Openings.Info} {c : Config} {p : Puzzle}
    (built : buildPuzzle cand opening c = .ok p) :
    p.type = cand.type ∧ p.sourcePly = cand.sourcePly ∧ p.fen = cand.fen := by
  obtain ⟨_, _, _, -, -, rfl⟩ := buildPuzzle_eq_ok.mp built
  exact ⟨rfl, rfl, rfl⟩

/-- Building a puzzle fails only on an empty solution line: no best line, or a legal prefix that
the cut leaves empty. -/
theorem buildPuzzle_eq_error {cand : Candidate} {opening : Openings.Info} {c : Config}
    {f : Failure} :
    buildPuzzle cand opening c = .error f ↔
      f = .emptyLine ∧ ∀ best, cand.evaluation.best? = some best →
        takeSigned (Tactics.legalLine cand.position best.pv) c.maxLinePlies = [] := by
  unfold buildPuzzle
  rcases best_eq : cand.evaluation.best? with _ | best
  · simp [best_eq, throw, throwThe, MonadExceptOf.throw, bind, Except.bind]
    exact eq_comm
  rcases line_eq : takeSigned (Tactics.legalLine cand.position best.pv) c.maxLinePlies with
    _ | ⟨first, rest⟩
  · simp [best_eq, line_eq, throw, throwThe, MonadExceptOf.throw, bind, Except.bind, pure,
      Except.pure]
    exact eq_comm
  · simp [best_eq, line_eq, bind, Except.bind, pure, Except.pure]

/-! ## Whole runs -/

theorem except_map_eq_ok {α β ε : Type} {f : α → β} {x : Except ε α} {b : β} :
    x.map f = .ok b ↔ ∃ a, x = .ok a ∧ f a = b := by
  cases x <;> simp [Except.map]

theorem except_map_eq_error {α β ε : Type} {f : α → β} {x : Except ε α} {e : ε} :
    x.map f = .error e ↔ x = .error e := by
  cases x <;> simp [Except.map]

/-- Mining a classified game builds a puzzle from each candidate kept after the filters, the
confirmation pass, the cooldown and deduplication, and ranks the puzzles. -/
theorem extractPuzzles_run (g : Pgn.Game) (cs : List ClassifiedPly) (es : Evaluations)
    (c : Config) (opening : Openings.Info) (ev : Option (Evaluator σ)) (user : Option String)
    (st : σ) :
    ((extractPuzzles g cs es c opening ev user).run st).1 =
      ((dedupe (applyCooldown ((confirmCandidates ((findCandidates g cs es c user).filter
        (survives · c)) ev c).run st).1 c.cooldownPlies)).mapM
          fun cand => buildPuzzle cand opening c).map (selectPuzzles · c.cap) := rfl

/-- A candidate kept for building is a survivor of the filters after the confirmation pass. -/
theorem exists_survivor_of_kept {cands : List Candidate} {ev : Option (Evaluator σ)}
    {c : Config} {st : σ} {cooldown : Int} {final : Candidate}
    (kept : final ∈ dedupe (applyCooldown
      ((confirmCandidates (cands.filter (survives · c)) ev c).run st).1 cooldown)) :
    ∃ cand ∈ cands, survives cand c = true ∧ Regraded ev c cand final := by
  obtain ⟨cand, survivor, regraded⟩ :=
    mem_confirmCandidates (mem_of_mem_applyCooldown (mem_of_mem_dedupe kept))
  obtain ⟨framed, passes⟩ := List.mem_filter.mp survivor
  exact ⟨cand, framed, passes, regraded⟩

/-- Every puzzle mined from a classified game comes from a framed candidate that passed the
filters and the confirmation pass. -/
theorem exists_candidate_of_extractPuzzles {g : Pgn.Game} {cs : List ClassifiedPly}
    {es : Evaluations} {c : Config} {opening : Openings.Info} {ev : Option (Evaluator σ)}
    {user : Option String} {st : σ} {ps : List Puzzle}
    (run : ((extractPuzzles g cs es c opening ev user).run st).1 = .ok ps) {p : Puzzle}
    (member : p ∈ ps) :
    ∃ cand ∈ findCandidates g cs es c user, survives cand c = true ∧
      ∃ final, Regraded ev c cand final ∧ buildPuzzle final opening c = .ok p := by
  rw [extractPuzzles_run, except_map_eq_ok] at run
  obtain ⟨puzzles, built, rfl⟩ := run
  obtain ⟨final, kept, build⟩ := mem_of_mapM_ok built (mem_of_mem_selectPuzzles member)
  obtain ⟨cand, framed, passes, regraded⟩ := exists_survivor_of_kept kept
  exact ⟨cand, framed, passes, final, regraded, build⟩

/-- Mining a classified game fails only when a candidate that passed the filters and the
confirmation pass has an empty solution line. -/
theorem exists_candidate_of_extractPuzzles_error {g : Pgn.Game} {cs : List ClassifiedPly}
    {es : Evaluations} {c : Config} {opening : Openings.Info} {ev : Option (Evaluator σ)}
    {user : Option String} {st : σ} {f : Failure}
    (run : ((extractPuzzles g cs es c opening ev user).run st).1 = .error f) :
    ∃ cand ∈ findCandidates g cs es c user, survives cand c = true ∧
      ∃ final, Regraded ev c cand final ∧ buildPuzzle final opening c = .error f := by
  rw [extractPuzzles_run, except_map_eq_error] at run
  obtain ⟨final, kept, build⟩ := exists_of_mapM_error run
  obtain ⟨cand, framed, passes, regraded⟩ := exists_survivor_of_kept kept
  exact ⟨cand, framed, passes, final, regraded, build⟩

section Analysis

variable {pgn : String} {c : Config} {ev : Option (Evaluator σ)} {supplied : Evaluations}
  {username userColor : Option String} {book : Openings.Book} {st : σ}

/-- A finished analysis replayed the game, classified it from the evaluations it gathered, and
mined its puzzles from that classification, with the evaluator in the state that gathering the
evaluations left it in. -/
theorem analyzeGame_eq_ok {a : GameAnalysis}
    (run : ((analyzeGame pgn c ev supplied username userColor book).run st).1 = .ok a) :
    Pgn.parseGame pgn = .ok a.game ∧ a.classified = classifyGame a.game a.evaluations c ∧
      ((extractPuzzles a.game a.classified a.evaluations c a.opening ev a.userColor).run
        ((gatherEvaluations a.game c ev supplied).run st).2).1 = .ok a.puzzles := by
  unfold analyzeGame at run
  split at run
  · cases run
  rename_i g parsed
  split at run
  · cases run
  simp only [stateM_run_bind] at run
  split at run
  · cases run
  rename_i es gathered
  simp only [stateM_run_bind] at run
  split at run
  · cases run
  rename_i ps extracted
  simp only [stateM_run_pure, Except.ok.injEq] at run
  subst run
  refine ⟨parsed, rfl, ?_⟩
  dsimp only
  exact extracted

/-- Every puzzle of a finished analysis is built from a candidate framed from the game's classified
moves, which passed the filters and then the confirmation pass. -/
theorem exists_candidate_of_mem_puzzles {a : GameAnalysis}
    (run : ((analyzeGame pgn c ev supplied username userColor book).run st).1 = .ok a)
    {p : Puzzle} (member : p ∈ a.puzzles) :
    Pgn.parseGame pgn = .ok a.game ∧ a.classified = classifyGame a.game a.evaluations c ∧
      ∃ cand ∈ findCandidates a.game a.classified a.evaluations c a.userColor,
        survives cand c = true ∧ ∃ final, Regraded ev c cand final ∧
          buildPuzzle final a.opening c = .ok p := by
  obtain ⟨parsed, classified, extracted⟩ := analyzeGame_eq_ok run
  exact ⟨parsed, classified, exists_candidate_of_extractPuzzles extracted member⟩

/-- An analysis fails on a PGN that gives no game, on a book that cannot be walked for the game,
on the three evaluation failures, or on a candidate that passed the filters and the confirmation
pass with an empty solution line. -/
theorem analyzeGame_eq_error {f : Failure}
    (run : ((analyzeGame pgn c ev supplied username userColor book).run st).1 = .error f) :
    (∃ e, Pgn.parseGame pgn = .error e ∧ f = .game e) ∨
      (∃ g e, Pgn.parseGame pgn = .ok g ∧ book.classify g.tags g.sans = .error e ∧ f = .book e) ∨
      f = .noEvaluations ∨ (∃ n, f = .allFailed n) ∨ (∃ m, f = .unavailable m) ∨
      ∃ g es opening user, Pgn.parseGame pgn = .ok g ∧
        ∃ cand ∈ findCandidates g (classifyGame g es c) es c user, survives cand c = true ∧
          ∃ final, Regraded ev c cand final ∧ buildPuzzle final opening c = .error f := by
  unfold analyzeGame at run
  split at run
  · rename_i e parsed
    cases run
    exact .inl ⟨e, parsed, rfl⟩
  rename_i g parsed
  split at run
  · rename_i e walked
    cases run
    exact .inr (.inl ⟨g, e, parsed, walked, rfl⟩)
  simp only [stateM_run_bind] at run
  split at run
  · rename_i failure gathered
    cases run
    rcases gatherEvaluations_error gathered with none | failed | unavailable
    · exact .inr (.inr (.inl none))
    · exact .inr (.inr (.inr (.inl failed)))
    · exact .inr (.inr (.inr (.inr (.inl unavailable))))
  rename_i es gathered
  simp only [stateM_run_bind] at run
  split at run
  · rename_i failure extracted
    cases run
    exact .inr (.inr (.inr (.inr (.inr ⟨g, es, _, _, parsed,
      exists_candidate_of_extractPuzzles_error extracted⟩))))
  · cases run

/-- An analysis reads its settings before mining only through gathering the evaluations: under
settings that gather alike, all analyses of a PGN fail before mining with one error, or all mine
from one game, opening, set of evaluations and evaluator state, for the side given or inferred
from the tags. -/
theorem analyzeGame_staged (pgn : String) (c : Config) (ev : Option (Evaluator σ))
    (supplied : Evaluations) (book : Openings.Book) (st : σ) :
    (∃ f, ∀ c', (∀ g, gatherEvaluations g c' ev supplied = gatherEvaluations g c ev supplied) →
      ∀ username userColor,
        ((analyzeGame pgn c' ev supplied username userColor book).run st).1 = .error f) ∨
    ∃ g opening es st', Pgn.parseGame pgn = .ok g ∧
      ∀ c', (∀ g, gatherEvaluations g c' ev supplied = gatherEvaluations g c ev supplied) →
        ∀ username userColor,
          ((analyzeGame pgn c' ev supplied username userColor book).run st).1 =
            ((extractPuzzles g (classifyGame g es c') es c' opening ev
              (userColor.orElse fun _ => (Pgn.userColor g.tags username).map Chess.Color.name)).run
                st').1.map fun ps =>
              { game := g, opening := opening, evaluations := es,
                classified := classifyGame g es c', puzzles := ps,
                userColor :=
                  userColor.orElse fun _ => (Pgn.userColor g.tags username).map Chess.Color.name,
                accuracyWhite := accuracy (classifyGame g es c') .white,
                accuracyBlack := accuracy (classifyGame g es c') .black } := by
  unfold analyzeGame
  rcases Pgn.parseGame pgn with e | g
  · exact .inl ⟨.game e, fun _ _ _ _ => rfl⟩
  dsimp only
  rcases book.classify g.tags g.sans with e | opening
  · exact .inl ⟨.book e, fun _ _ _ _ => rfl⟩
  rcases gathered : (gatherEvaluations g c ev supplied).run st with ⟨failure | es, st'⟩
  · refine .inl ⟨failure, fun c' same _ _ => ?_⟩
    simp only [stateM_run_bind, same, gathered]
    rfl
  refine .inr ⟨g, opening, es, st', rfl, fun c' same username userColor => ?_⟩
  simp only [stateM_run_bind, same, gathered]
  rcases ((extractPuzzles g (classifyGame g es c') es c' opening ev
    (userColor.orElse fun _ => (Pgn.userColor g.tags username).map Chess.Color.name)).run st').1
    with e | ps <;> rfl

end Analysis

/-! ## A short game -/

/-- The scholar's mate. -/
def scholarsMate : String := "1. e4 e5 2. Bc4 Nc6 3. Qh5 Nf6 4. Qxf7# 1-0"

/-- Evaluations supplied for the scholar's mate: level before Black's third move, and a mate in
one for White after it. -/
def scholarsMateEvaluations : Evaluations :=
  [(5, some
      { fen := "r1bqkbnr/pppp1ppp/2n5/4p2Q/2B1P3/8/PPPP1PPP/RNB1K1NR b KQkq - 3 3",
        lines := [{ move := "g7g6", score := { cp := some 0 }, pv := ["g7g6", "h5f3", "g8f6"] }] }),
    (6, some
      { fen := "r1bqkb1r/pppp1ppp/2n2n2/4p2Q/2B1P3/8/PPPP1PPP/RNB1K1NR w KQkq - 4 4",
        lines := [{ move := "h5f7", score := { mate := some 1 }, pv := ["h5f7"] }] })]

/-- Settings that mine from the first ply, take solution lines of one move and leave out the
forcing-move filter; with them the scholar's mate poses Black's third move. -/
def firstPlyConfig : Config := { openingSkipPlies := 0, requireTactical := false, minPvMoves := 1 }

end Analysis
end Tactician
