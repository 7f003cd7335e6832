import Mathlib
import Tactician.Proofs.Store.Reachable
import Tactician.Store.Query

/-!
# Users are isolated

A user's rows are their games, their puzzles and their attempts (`Tables.rowsOf`).  In a
reachable store no operation of one user changes another user's rows, no read of one user returns
another user's rows, and a write that names another user's game or puzzle is refused and changes
nothing: the store's own invariant (distinct ids, every attempt on a puzzle of its user) is what
keeps the replace and the overview within the user.

Main statement: `reachable_isolated`.  A move that is empty after trimming is refused before the
puzzle is looked up, so naming another user's puzzle with such a move is refused as an empty move.
-/

namespace Tactician
namespace Store

open Analysis

/-- A user's rows: their games, puzzles and attempts, in store order. -/
def Tables.rowsOf (t : Tables) (v : String) : List Game × List Puzzle × List Training.Attempt :=
  (t.games.filter (·.owner == v), t.puzzles.filter (·.owner == v), t.attempts.filter (·.userId == v))

theorem Tables.SameRows.rowsOf {t t' : Tables} (same : t.SameRows t') (v : String) :
    t'.rowsOf v = t.rowsOf v := by
  simp [Tables.rowsOf, same.games, same.puzzles, same.attempts]

/-! ## Writes leave other users' rows -/

section Writes

variable {u v : String} {t t' : Tables}

/-- Filtering a user's rows out of a mapped list: a map that keeps owners and fixes that user's
rows changes none of them. -/
theorem filter_map_fixed {α : Type} (owner : α → String) (f : α → α) (xs : List α)
    (keeps : ∀ x ∈ xs, owner (f x) = owner x) (fixes : ∀ x ∈ xs, owner x = v → f x = x) :
    (xs.map f).filter (owner · == v) = xs.filter (owner · == v) := by
  rw [List.filter_map]
  have same : ∀ x ∈ xs, ((owner · == v) ∘ f) x = (owner x == v) := fun x member => by
    simp [keeps x member]
  rw [List.filter_congr same]
  refine (List.map_congr_left fun x member => ?_).trans (List.map_id _)
  obtain ⟨old, mine⟩ := List.mem_filter.mp member
  exact fixes x old (by simpa using mine)

/-- A write of `u`'s games leaves every other user's rows. -/
theorem GameWrite.rowsOf (write : GameWrite u t t') (other : u ≠ v) : t'.rowsOf v = t.rowsOf v := by
  obtain ⟨f, added, games, kept, fresh, -⟩ := write.games
  have mapped : (t.games.map f).filter (·.owner == v) = t.games.filter (·.owner == v) :=
    filter_map_fixed Game.owner f t.games (fun g member => (kept g member).2.1)
      fun g member owned => (kept g member).2.2.2 (by rw [owned]; exact Ne.symm other)
  have none : added.filter (·.owner == v) = [] :=
    List.filter_eq_nil_iff.mpr fun g member => by simp [(fresh g member).1, other]
  simp [Tables.rowsOf, games, mapped, none, write.puzzles, write.attempts]

/-- A swap of `u`'s game leaves every other user's rows: their games have other ids, their puzzles
are not the game's, and their attempts are on their own puzzles. -/
theorem Swapped.rowsOf {gameId : String} {rows : List PuzzleRow} {stamp : String}
    {fresh : List Puzzle} (c : t.Consistent) (swap : Swapped u gameId rows stamp fresh t t')
    (other : u ≠ v) : t'.rowsOf v = t.rowsOf v := by
  obtain ⟨g, found⟩ := Option.isSome_iff_exists.mp swap.owned
  obtain ⟨present, named, owned⟩ := ownGame?_eq_some found
  have games : t'.games.filter (·.owner == v) = t.games.filter (·.owner == v) := by
    rw [swap.games]
    refine filter_map_fixed Game.owner _ t.games (fun h _ => (mark_fields h).2.1) ?_
    intro h member mine
    have apart : h.id ≠ gameId := fun same => by
      have : h = g := List.inj_on_of_nodup_map c.gameIds member present (same.trans named.symm)
      exact other (owned.symm.trans (this ▸ mine))
    simp [apart]
  have kept : (t.puzzles.filter fun p => !p.belongsTo u gameId).filter (·.owner == v) =
      t.puzzles.filter (·.owner == v) := by
    rw [List.filter_filter]
    refine List.filter_congr fun p _ => ?_
    by_cases mine : p.owner = v
    · simp [Puzzle.belongsTo, mine, Ne.symm other]
    · simp [mine]
  have none : fresh.filter (·.owner == v) = [] := List.filter_eq_nil_iff.mpr fun p member => by
    have belongs := swap.belongs p member
    simp only [Puzzle.belongsTo, Bool.and_eq_true, beq_iff_eq] at belongs
    simp [belongs.1, other]
  have attempts : (t.attempts.filter fun a =>
      !((t.puzzles.filter (Puzzle.belongsTo u gameId)).map (·.id)).contains a.puzzleId).filter
        (·.userId == v) = t.attempts.filter (·.userId == v) := by
    rw [List.filter_filter]
    refine List.filter_congr fun a member => ?_
    by_cases mine : a.userId = v
    · obtain ⟨p, puzzle, sameId, sameUser⟩ := c.attemptPuzzle a member
      have stays : a.puzzleId ∉ (t.puzzles.filter (Puzzle.belongsTo u gameId)).map (·.id) := by
        simp only [List.mem_map, List.mem_filter, not_exists, not_and, and_imp]
        intro q puzzle' belongs sameId'
        have : q = p :=
          List.inj_on_of_nodup_map c.puzzleIds puzzle' puzzle (sameId'.trans sameId.symm)
        subst this
        simp only [Puzzle.belongsTo, Bool.and_eq_true, beq_iff_eq] at belongs
        exact other (belongs.1.symm.trans (sameUser.trans mine))
      simp [mine, stays]
    · simp [mine]
  simp only [Tables.rowsOf, games, swap.puzzles, List.filter_append, kept, none, List.append_nil,
    swap.attempts, attempts]

theorem upsertGame_rowsOf (c : t.Consistent) (other : u ≠ v) (pgn : String)
    (gameId userColor : Option String) (opening : Openings.Info)
    (provider playedAt : Option String) :
    ((upsertGame u pgn gameId userColor opening provider playedAt).run.run t).2.rowsOf v =
      t.rowsOf v :=
  (upsertGame_write u pgn gameId userColor opening provider playedAt c.gameIds).rowsOf other

theorem replacePuzzles_rowsOf (c : t.Consistent) (other : u ≠ v) (gameId : String)
    (rows : List PuzzleRow) :
    ((replacePuzzles u gameId rows).run.run t).2.rowsOf v = t.rowsOf v := by
  rcases ran : (replacePuzzles u gameId rows).run.run t with ⟨_ | count, t'⟩
  · exact (replacePuzzles_error ran).1.rowsOf v
  · obtain ⟨stamp, fresh, swap, -⟩ := replacePuzzles_ok ran
    exact swap.rowsOf c other

theorem submitAttempt_rowsOf (other : u ≠ v) (puzzleId : String) (move : Option String)
    (timeSpent : Value) :
    ((submitAttempt u puzzleId move timeSpent).run.run t).2.rowsOf v = t.rowsOf v := by
  rcases @submitAttempt_cases u puzzleId move timeSpent t with ⟨e, t', ran, same, -⟩ |
    ⟨p, a, -, -, mine, -, -, ran⟩
  · rw [ran]
    exact same.rowsOf v
  · rw [ran]
    simp [Tables.rowsOf, mine, other]

theorem ingest_rowsOf (c : t.Consistent) (other : u ≠ v) (gameId : String) (records : List Value) :
    ((ingest u gameId records).run.run t).2.rowsOf v = t.rowsOf v := by
  rcases ingest_tables u gameId records t with same | ⟨rows, replaced⟩
  · rw [same]
  · rw [replaced]
    exact replacePuzzles_rowsOf c other gameId rows

theorem importGame_rowsOf (c : t.Consistent) (other : u ≠ v) (pgn : String)
    (username gameId provider : Option String) (book : Openings.Book) :
    ((importGame u pgn username gameId provider book).run.run t).2.rowsOf v = t.rowsOf v := by
  rcases importGame_tables u pgn username gameId provider book t with
    same | ⟨_, _, _, _, _, _, stored⟩
  · rw [same]
  · rw [stored]
    exact upsertGame_rowsOf c other _ _ _ _ _ _

theorem syncGame_rowsOf {σ : Type} (c : t.Consistent) (other : u ≠ v) (gameId : String)
    (config : Config) (ev : Option (Evaluator σ)) (supplied : Evaluations) (book : Openings.Book)
    (s : σ) :
    (((syncGame u gameId config ev supplied book).run.run t).run s).1.2.rowsOf v = t.rowsOf v := by
  rcases syncGame_cases u gameId config ev supplied book t s with ⟨same, -⟩ | ⟨records, ingested, -⟩
  · rw [same]
  · rw [← ingested]
    exact ingest_rowsOf c other gameId records

end Writes

/-! ## Reads return the user's own rows -/

section Reads

variable {u : String} {t : Tables}

theorem listGames_run (owner : String) (t : Tables) :
    (listGames owner).run.run t =
      (.ok ((t.games.filter (·.owner == owner)).mergeSort fun a b => b.createdAt ≤ a.createdAt),
        t) :=
  rfl

theorem gamePuzzles_run (owner gameId : String) (t : Tables) :
    (gamePuzzles owner gameId).run.run t =
      (.ok ((t.puzzles.filter fun p => p.owner == owner && p.gameId == gameId).mergeSort fun a b =>
        a.sourcePly < b.sourcePly || (a.sourcePly == b.sourcePly && a.type.tag ≤ b.type.tag)), t) :=
  rfl

theorem attemptsOn_run (owner puzzleId : String) (t : Tables) :
    (attemptsOn owner puzzleId).run.run t =
      (.ok (newestFirst (t.attempts.filter fun a => a.userId == owner && a.puzzleId == puzzleId)),
        t) :=
  rfl

theorem mem_newestFirst {a : Training.Attempt} {xs : List Training.Attempt} :
    a ∈ newestFirst xs ↔ a ∈ xs := by
  simp [newestFirst]

/-- A puzzle that passes a user's filter is one of that user's puzzles. -/
theorem mem_matching {owner : String} {f : Filter} {p : Puzzle} (member : p ∈ t.matching owner f) :
    p ∈ t.puzzles ∧ p.owner = owner := by
  obtain ⟨puzzle, admitted⟩ := List.mem_filter.mp member
  simp only [Filter.admits, Bool.and_eq_true, beq_iff_eq] at admitted
  exact ⟨puzzle, admitted.1.1.1.1.1.1.1.1⟩

/-- The statistics of a history list only attempts of that history. -/
theorem mem_aggregate_history {xs : List Training.Attempt} {a : Training.Attempt}
    (member : a ∈ (Training.aggregate xs).history) : a ∈ xs := by
  unfold Training.aggregate at member
  split at member
  · exact member
  · simp at member

theorem getGame_owner {id : String} {g : Game} (got : ((getGame u id).run.run t).1 = .ok g) :
    g.owner = u := by
  rw [getGame_run] at got
  rcases found : t.ownGame? u id with _ | g'
  · simp [found] at got
  · simp only [found, Except.ok.injEq] at got
    exact got ▸ (ownGame?_eq_some found).2.2

theorem getPuzzle_owner {id : String} {p : Puzzle} (got : ((getPuzzle u id).run.run t).1 = .ok p) :
    p.owner = u := by
  rw [getPuzzle_run] at got
  rcases found : t.ownPuzzle? u id with _ | q
  · simp [found] at got
  · simp only [found, Except.ok.injEq] at got
    exact got ▸ (ownPuzzle?_eq_some found).2.2

theorem listGames_owner {gs : List Game} (got : ((listGames u).run.run t).1 = .ok gs) :
    ∀ g ∈ gs, g.owner = u := by
  rw [listGames_run, Except.ok.injEq] at got
  subst got
  intro g member
  simpa using (List.mem_filter.mp (List.mem_mergeSort.mp member)).2

theorem gamePuzzles_owner {gameId : String} {ps : List Puzzle}
    (got : ((gamePuzzles u gameId).run.run t).1 = .ok ps) : ∀ p ∈ ps, p.owner = u := by
  rw [gamePuzzles_run, Except.ok.injEq] at got
  subst got
  intro p member
  have mine := (List.mem_filter.mp (List.mem_mergeSort.mp member)).2
  simp only [Bool.and_eq_true, beq_iff_eq] at mine
  exact mine.1

theorem attemptsOn_owner {puzzleId : String} {xs : List Training.Attempt}
    (got : ((attemptsOn u puzzleId).run.run t).1 = .ok xs) : ∀ a ∈ xs, a.userId = u := by
  rw [attemptsOn_run, Except.ok.injEq] at got
  subst got
  intro a member
  have mine := (List.mem_filter.mp (mem_newestFirst.mp member)).2
  simp only [Bool.and_eq_true, beq_iff_eq] at mine
  exact mine.1

/-- A page is cut from the user's matching puzzles, newest first, unless it lies so far out that
the number of puzzles it skips does not fit an integer column; either way nothing changes. -/
theorem listPuzzles_run (page limit : Int) (f : Filter) :
    (listPuzzles u page limit f).run.run t =
      (if (maxInteger : Int) < (max 1 page - 1) * max 1 (min maxPageSize limit) then
        .error .integerOverflow
      else .ok ((t.matching u f).length,
        (((t.matching u f).mergeSort pageOrder).drop
          ((max 1 page - 1) * max 1 (min maxPageSize limit)).toNat).take
            (max 1 (min maxPageSize limit)).toNat), t) := by
  by_cases far : (maxInteger : Int) < (max 1 page - 1) * max 1 (min maxPageSize limit)
  · simp only [listPuzzles, far, if_true]
    rfl
  · simp only [listPuzzles, far, if_false]
    rfl

theorem listPuzzles_tables (page limit : Int) (f : Filter) :
    ((listPuzzles u page limit f).run.run t).2 = t := by
  rw [listPuzzles_run]

theorem listPuzzles_owner {page limit : Int} {f : Filter} {total : Nat} {ps : List Puzzle}
    (got : ((listPuzzles u page limit f).run.run t).1 = .ok (total, ps)) :
    ∀ p ∈ ps, p.owner = u := by
  rw [listPuzzles_run] at got
  split at got
  · cases got
  simp only [Except.ok.injEq, Prod.mk.injEq] at got
  obtain ⟨-, rfl⟩ := got
  intro p member
  exact (mem_matching (List.mem_mergeSort.mp
    (List.mem_of_mem_drop (List.mem_of_mem_take member)))).2

/-- Whatever its preference, a draw puts the whole pool in some order. -/
theorem DrawOrder.ordered_perm (order : DrawOrder) (pool : List Puzzle) (isFailed : Puzzle → Bool)
    (preferFailed : Bool) :
    (if preferFailed then
        order.failed (pool.filter isFailed) ++ order.others (pool.filter (!isFailed ·))
      else order.pool pool).Perm pool := by
  split
  · exact ((order.failed_perm _).append (order.others_perm _)).trans (List.filter_append_perm _ _)
  · exact order.pool_perm pool

theorem drawPuzzles_owner {order : DrawOrder} {count : Int} {exclude : List String}
    {preferFailed : Bool} {f : Filter} {ps : List Puzzle}
    (got : ((drawPuzzles order u count exclude preferFailed f).run.run t).1 = .ok ps) :
    ∀ p ∈ ps, p.owner = u := by
  simp only [drawPuzzles, Step.run_bind, Step.run_get, Step.run_pure, Except.ok.injEq] at got
  subst got
  intro p member
  have pooled := (DrawOrder.ordered_perm _ _ _ _).mem_iff.mp (List.mem_of_mem_take member)
  exact (mem_matching (List.mem_mergeSort.mp (List.mem_filter.mp pooled).1)).2

/-- The overview's recent attempts are the user's, each with the user's puzzle it was on. -/
theorem overview_recent_owner (c : t.Consistent) {o : Overview}
    (got : ((overview u).run.run t).1 = .ok o) :
    ∀ r ∈ o.recent, r.1.userId = u ∧ r.2.owner = u := by
  simp only [overview, Step.run_bind, Step.run_get, Step.run_pure, Except.ok.injEq] at got
  subst got
  rintro ⟨a, p⟩ member
  obtain ⟨a', attempt, joined⟩ := List.mem_filterMap.mp (List.mem_of_mem_take member)
  obtain ⟨q, found, same⟩ := Option.map_eq_some_iff.mp joined
  simp only [Prod.mk.injEq] at same
  obtain ⟨rfl, rfl⟩ := same
  obtain ⟨old, mine⟩ := List.mem_filter.mp (mem_newestFirst.mp attempt)
  have mine : a'.userId = u := by simpa using mine
  obtain ⟨q', puzzle, sameId, sameUser⟩ := c.attemptPuzzle a' old
  have named : q.id = a'.puzzleId := by simpa using List.find?_some found
  have : q = q' := List.inj_on_of_nodup_map c.puzzleIds (List.mem_of_find?_eq_some found) puzzle
    (named.trans sameId.symm)
  subst this
  exact ⟨mine, sameUser.trans mine⟩

theorem puzzleWithStats_tables (puzzleId : String) :
    ((puzzleWithStats u puzzleId).run.run t).2 = t := by
  simp only [puzzleWithStats, Step.run_bind, getPuzzle_run]
  rcases t.ownPuzzle? u puzzleId with _ | p <;> rfl

theorem puzzleWithStats_owner {puzzleId : String} {p : Puzzle} {stats : Training.Stats}
    (got : ((puzzleWithStats u puzzleId).run.run t).1 = .ok (p, stats)) :
    p.owner = u ∧ ∀ a ∈ stats.history, a.userId = u := by
  simp only [puzzleWithStats, Step.run_bind, getPuzzle_run] at got
  rcases found : t.ownPuzzle? u puzzleId with _ | q
  · simp [found] at got
  · simp only [found, attemptsOn_run, Step.run_pure, Except.ok.injEq, Prod.mk.injEq] at got
    obtain ⟨rfl, rfl⟩ := got
    refine ⟨(ownPuzzle?_eq_some found).2.2, fun a member => ?_⟩
    exact attemptsOn_owner (by rw [attemptsOn_run]) a (mem_aggregate_history member)

theorem submitAttempt_owner {puzzleId : String} {move : Option String} {timeSpent : Value}
    {a : Training.Attempt} {stats : Training.Stats}
    (got : ((submitAttempt u puzzleId move timeSpent).run.run t).1 = .ok (a, stats)) :
    a.userId = u ∧ ∀ x ∈ stats.history, x.userId = u := by
  rcases @submitAttempt_cases u puzzleId move timeSpent t with ⟨e, t', ran, -, -⟩ |
    ⟨p, a', -, -, mine, -, -, ran⟩
  · rw [ran] at got
    cases got
  rw [ran, Except.ok.injEq, Prod.mk.injEq] at got
  obtain ⟨rfl, rfl⟩ := got
  refine ⟨mine, fun x member => ?_⟩
  have own := (List.mem_filter.mp (mem_newestFirst.mp (mem_aggregate_history member))).2
  simp only [Bool.and_eq_true, beq_iff_eq] at own
  exact own.1

end Reads

/-! ## Naming another user's rows -/

section Naming

variable {u v : String} {t : Tables}

/-- No other user's lookup finds a game: ids are distinct, so the game under that id is the
owner's. -/
theorem ownGame?_other (c : t.Consistent) (other : u ≠ v) {g : Game} (member : g ∈ t.games)
    (owned : g.owner = v) : t.ownGame? u g.id = none := by
  refine List.find?_eq_none.mpr fun h game => ?_
  simp only [Bool.and_eq_true, beq_iff_eq, not_and]
  intro named mine
  have : h = g := List.inj_on_of_nodup_map c.gameIds game member named
  subst this
  exact other (mine.symm.trans owned)

/-- No other user's lookup finds a puzzle. -/
theorem ownPuzzle?_other (c : t.Consistent) (other : u ≠ v) {p : Puzzle} (member : p ∈ t.puzzles)
    (owned : p.owner = v) : t.ownPuzzle? u p.id = none := by
  refine List.find?_eq_none.mpr fun q puzzle => ?_
  simp only [Bool.and_eq_true, beq_iff_eq, not_and]
  intro named mine
  have : q = p := List.inj_on_of_nodup_map c.puzzleIds puzzle member named
  subst this
  exact other (mine.symm.trans owned)

/-- A move on another user's puzzle is refused, as an empty move when it is one and as an unknown
puzzle otherwise, and nothing changes. -/
theorem submitAttempt_other (c : t.Consistent) (other : u ≠ v) {p : Puzzle} (member : p ∈ t.puzzles)
    (owned : p.owner = v) (move : Option String) (timeSpent : Value) :
    (submitAttempt u p.id move timeSpent).run.run t =
      (.error (if (Training.normalizeMove (move.getD "")).isEmpty then .emptyMove
        else .puzzleNotFound p.id), t) := by
  cases filled : (Training.normalizeMove (move.getD "")).isEmpty
  · rw [submitAttempt_run_of_missing filled (ownPuzzle?_other c other member owned)]
    rfl
  · rw [submitAttempt_run_of_empty filled]
    rfl

end Naming

/-! ## Isolation -/

/-- What the operations of user `u` do to user `v` in a store `t`: no write changes `v`'s rows, no
read changes the store or returns a row of `v`, and a write naming `v`'s game or puzzle is refused
and changes nothing. -/
structure Isolated (u v : String) (t : Tables) : Prop where
  upsert : ∀ pgn gameId userColor opening provider playedAt,
    ((upsertGame u pgn gameId userColor opening provider playedAt).run.run t).2.rowsOf v =
      t.rowsOf v
  importGame : ∀ pgn username gameId provider book,
    ((importGame u pgn username gameId provider book).run.run t).2.rowsOf v = t.rowsOf v
  replace : ∀ gameId rows, ((replacePuzzles u gameId rows).run.run t).2.rowsOf v = t.rowsOf v
  ingest : ∀ gameId records, ((ingest u gameId records).run.run t).2.rowsOf v = t.rowsOf v
  sync : ∀ (σ : Type) gameId config (ev : Option (Evaluator σ)) supplied book s,
    (((syncGame u gameId config ev supplied book).run.run t).run s).1.2.rowsOf v = t.rowsOf v
  submit : ∀ puzzleId move timeSpent,
    ((submitAttempt u puzzleId move timeSpent).run.run t).2.rowsOf v = t.rowsOf v
  getGame : ∀ id, ((getGame u id).run.run t).2 = t ∧
    ∀ g, ((getGame u id).run.run t).1 = .ok g → g.owner = u
  listGames : ((listGames u).run.run t).2 = t ∧
    ∀ gs, ((listGames u).run.run t).1 = .ok gs → ∀ g ∈ gs, g.owner = u
  gamePuzzles : ∀ gameId, ((gamePuzzles u gameId).run.run t).2 = t ∧
    ∀ ps, ((gamePuzzles u gameId).run.run t).1 = .ok ps → ∀ p ∈ ps, p.owner = u
  getPuzzle : ∀ id, ((getPuzzle u id).run.run t).2 = t ∧
    ∀ p, ((getPuzzle u id).run.run t).1 = .ok p → p.owner = u
  listPuzzles : ∀ page limit f, ((listPuzzles u page limit f).run.run t).2 = t ∧
    ∀ total ps, ((listPuzzles u page limit f).run.run t).1 = .ok (total, ps) → ∀ p ∈ ps, p.owner = u
  drawPuzzles : ∀ order count exclude preferFailed f,
    ((drawPuzzles order u count exclude preferFailed f).run.run t).2 = t ∧
    ∀ ps, ((drawPuzzles order u count exclude preferFailed f).run.run t).1 = .ok ps →
      ∀ p ∈ ps, p.owner = u
  attemptsOn : ∀ puzzleId, ((attemptsOn u puzzleId).run.run t).2 = t ∧
    ∀ xs, ((attemptsOn u puzzleId).run.run t).1 = .ok xs → ∀ a ∈ xs, a.userId = u
  puzzleWithStats : ∀ puzzleId, ((puzzleWithStats u puzzleId).run.run t).2 = t ∧
    ∀ p stats, ((puzzleWithStats u puzzleId).run.run t).1 = .ok (p, stats) →
      p.owner = u ∧ ∀ a ∈ stats.history, a.userId = u
  overview : ((overview u).run.run t).2 = t ∧
    ∀ o, ((overview u).run.run t).1 = .ok o → ∀ r ∈ o.recent, r.1.userId = u ∧ r.2.owner = u
  submitted : ∀ puzzleId move timeSpent a stats,
    ((submitAttempt u puzzleId move timeSpent).run.run t).1 = .ok (a, stats) →
      a.userId = u ∧ ∀ x ∈ stats.history, x.userId = u
  upsertTaken : ∀ g ∈ t.games, g.owner = v → ∀ pgn userColor opening provider playedAt,
    (upsertGame u pgn (some g.id) userColor opening provider playedAt).run.run t =
      (.error (.gameNotFound g.id), t)
  replaceTaken : ∀ g ∈ t.games, g.owner = v → ∀ rows,
    (replacePuzzles u g.id rows).run.run t = (.error (.gameNotFound g.id), t)
  submitTaken : ∀ p ∈ t.puzzles, p.owner = v → ∀ move timeSpent,
    (submitAttempt u p.id move timeSpent).run.run t =
      (.error (if (Training.normalizeMove (move.getD "")).isEmpty then .emptyMove
        else .puzzleNotFound p.id), t)

/-- In a reachable store the users are isolated from each other. -/
theorem reachable_isolated {u v : String} {t : Tables} (reach : Reachable t) (other : u ≠ v) :
    Isolated u v t := by
  have c := reach.consistent
  exact {
    upsert := upsertGame_rowsOf c other
    importGame := importGame_rowsOf c other
    replace := replacePuzzles_rowsOf c other
    ingest := ingest_rowsOf c other
    sync := fun _ => syncGame_rowsOf c other
    submit := submitAttempt_rowsOf other
    getGame := fun _ => ⟨by rw [getGame_run], fun _ got => getGame_owner got⟩
    listGames := ⟨rfl, fun _ got => listGames_owner got⟩
    gamePuzzles := fun _ => ⟨rfl, fun _ got => gamePuzzles_owner got⟩
    getPuzzle := fun _ => ⟨by rw [getPuzzle_run], fun _ got => getPuzzle_owner got⟩
    listPuzzles := fun page limit f => ⟨listPuzzles_tables page limit f, fun _ _ got => listPuzzles_owner got⟩
    drawPuzzles := fun _ _ _ _ _ => ⟨rfl, fun _ got => drawPuzzles_owner got⟩
    attemptsOn := fun _ => ⟨rfl, fun _ got => attemptsOn_owner got⟩
    puzzleWithStats := fun id => ⟨puzzleWithStats_tables id, fun _ _ got => puzzleWithStats_owner got⟩
    overview := ⟨rfl, fun _ got => overview_recent_owner c got⟩
    submitted := fun _ _ _ _ _ got => submitAttempt_owner got
    upsertTaken := fun g member owned _ _ _ _ _ =>
      upsertGame_taken u _ g.id _ _ _ _ c.gameIds (c.gameNamed g member) member rfl
        (owned ▸ Ne.symm other)
    replaceTaken := fun g member owned _ =>
      replacePuzzles_run_of_missing (ownGame?_other c other member owned)
    submitTaken := fun p member owned => submitAttempt_other c other member owned }

/-- `user-1`, with a game, a puzzle and an attempt, and `user-2`, with nothing, are isolated. -/
theorem isolated_failedOnce :
    Reachable failedOnceTables ∧ "user-1" ≠ "user-2" ∧
      Isolated "user-1" "user-2" failedOnceTables :=
  ⟨reachable_failedOnceTables, by decide, reachable_isolated reachable_failedOnceTables (by decide)⟩

/-- Another user's empty move on `user-1`'s puzzle is refused as an empty move, not as an unknown
puzzle. -/
theorem submitAttempt_empty_move_on_other_puzzle :
    Reachable onePuzzleTables ∧ (onePuzzleTables.ownPuzzle? "user-1" (uuidText 1)).isSome ∧
      (submitAttempt "user-2" (uuidText 1) (some "") .null).run.run onePuzzleTables =
        (.error .emptyMove, onePuzzleTables) :=
  ⟨reachable_onePuzzleTables, by decide +kernel, submitAttempt_run_of_empty (by decide)⟩

end Store
end Tactician
