import Mathlib
import Tactician.Proofs.Store.Ingest
import Tactician.Store.Practice

/-!
# The stores that writes reach

Three operations write to a store: storing a game, replacing a game's puzzle set and recording an
attempt; importing, ingesting and syncing are made of them.  Every store they reach from the
empty one is consistent (`Tables.Consistent`): games have distinct non-empty ids; every puzzle
belongs to an analysed game of its owner; puzzles have distinct ids, all drawn from the counter;
every attempt is on a puzzle of the user who made it.

Main statement: a replace of a game in a reachable store swaps that game's puzzle set, deletes the
attempts on its old puzzles, marks it analysed and changes nothing else; a replace or a sync that
fails changes no row; a later replace supersedes an earlier one; a game not yet analysed has no
puzzles; storing a game again leaves its puzzles and its analysis date alone.
-/

namespace Tactician
namespace Store

/-- What holds of every store the writes reach. -/
structure Tables.Consistent (t : Tables) : Prop where
  gameIds : (t.games.map (·.id)).Nodup
  gameNamed : ∀ g ∈ t.games, g.id ≠ ""
  puzzleGame : ∀ p ∈ t.puzzles,
    ∃ g ∈ t.games, g.id = p.gameId ∧ g.owner = p.owner ∧ g.analyzedAt.isSome
  puzzleIds : (t.puzzles.map (·.id)).Nodup
  puzzleDrawn : ∀ p ∈ t.puzzles, ∃ k ≤ t.stamps.issued, p.id = uuidText k
  attemptPuzzle : ∀ a ∈ t.attempts, ∃ p ∈ t.puzzles, p.id = a.puzzleId ∧ p.owner = a.userId

namespace Tables.Consistent

variable {t t' : Tables}

theorem empty : ({} : Tables).Consistent :=
  ⟨List.nodup_nil, by simp, by simp, List.nodup_nil, by simp, by simp⟩

/-- Drawing from the counters alone keeps a store consistent. -/
theorem of_sameRows (c : t.Consistent) (same : t.SameRows t')
    (issued : t.stamps.issued ≤ t'.stamps.issued) : t'.Consistent where
  gameIds := same.games ▸ c.gameIds
  gameNamed := same.games ▸ c.gameNamed
  puzzleGame := same.games ▸ same.puzzles ▸ c.puzzleGame
  puzzleIds := same.puzzles ▸ c.puzzleIds
  puzzleDrawn p member :=
    let ⟨k, drawn, named⟩ := c.puzzleDrawn p (same.puzzles ▸ member)
    ⟨k, le_trans drawn issued, named⟩
  attemptPuzzle := same.puzzles ▸ same.attempts ▸ c.attemptPuzzle

/-- Storing a game keeps a store consistent. -/
theorem gameWrite {owner : String} (c : t.Consistent) (write : GameWrite owner t t') :
    t'.Consistent := by
  obtain ⟨f, added, games, kept, fresh, ids⟩ := write.games
  have stays : ∀ g ∈ t.games, f g ∈ t'.games := fun g member =>
    games ▸ List.mem_append_left _ (List.mem_map_of_mem member)
  have renamed : t'.games.map (·.id) = (t.games ++ added).map (·.id) := by
    rw [games, List.map_append, List.map_map, List.map_append]
    congr 1
    exact List.map_congr_left fun g member => (kept g member).1
  refine ⟨renamed ▸ ids, ?_, ?_, write.puzzles ▸ c.puzzleIds, ?_, ?_⟩
  · intro g member
    rw [games, List.mem_append, List.mem_map] at member
    rcases member with ⟨h, old, rfl⟩ | new
    · rw [(kept h old).1]
      exact c.gameNamed h old
    · exact (fresh g new).2.2
  · intro p member
    obtain ⟨g, old, named, owned, analysed⟩ := c.puzzleGame p (write.puzzles ▸ member)
    obtain ⟨sameId, sameOwner, sameDate, -⟩ := kept g old
    exact ⟨f g, stays g old, sameId ▸ named, sameOwner ▸ owned, sameDate ▸ analysed⟩
  · intro p member
    obtain ⟨k, drawn, named⟩ := c.puzzleDrawn p (write.puzzles ▸ member)
    exact ⟨k, le_trans drawn write.issued, named⟩
  · rw [write.attempts, write.puzzles]
    exact c.attemptPuzzle

end Tables.Consistent

/-! ## A replace keeps a store consistent -/

section Swap

variable {owner gameId : String} {rows : List PuzzleRow} {stamp : String} {fresh : List Puzzle}
  {t t' : Tables}

/-- Marking the game analysed keeps every game's id and owner, leaves analysed games analysed and
the marked game analysed. -/
theorem mark_fields (g : Game) :
    let marked := if g.id == gameId then { g with analyzedAt := some stamp } else g
    marked.id = g.id ∧ marked.owner = g.owner ∧
      (g.analyzedAt.isSome ∨ g.id = gameId → marked.analyzedAt.isSome) := by
  by_cases named : g.id = gameId <;> simp [named]

/-- A swap keeps a store consistent: the new puzzles belong to the marked game and their
identifiers are newer than every one in the store. -/
theorem Tables.Consistent.swapped (c : t.Consistent)
    (swap : Swapped owner gameId rows stamp fresh t t') : t'.Consistent := by
  obtain ⟨g, found⟩ := Option.isSome_iff_exists.mp swap.owned
  obtain ⟨present, named, owned⟩ := ownGame?_eq_some found
  have marked : ∀ h ∈ t.games, ∃ h' ∈ t'.games, h'.id = h.id ∧ h'.owner = h.owner ∧
      (h.analyzedAt.isSome ∨ h.id = gameId → h'.analyzedAt.isSome) := fun h member =>
    ⟨_, swap.games ▸ List.mem_map_of_mem member, mark_fields h⟩
  have kept : ∀ p ∈ t'.puzzles, p ∈ t.puzzles ∧ p.belongsTo owner gameId = false ∨ p ∈ fresh := by
    intro p member
    simpa [swap.puzzles] using member
  have ids : t'.games.map (·.id) = t.games.map (·.id) := by
    rw [swap.games, List.map_map]
    exact List.map_congr_left fun h _ => (mark_fields h).1
  refine ⟨ids ▸ c.gameIds, ?_, ?_, ?_, ?_, ?_⟩
  · intro h member
    rw [swap.games, List.mem_map] at member
    obtain ⟨h, old, rfl⟩ := member
    rw [(mark_fields h).1]
    exact c.gameNamed h old
  · intro p member
    rcases kept p member with ⟨old, -⟩ | new
    · obtain ⟨h, game, sameId, sameOwner, analysed⟩ := c.puzzleGame p old
      obtain ⟨h', game', sameId', sameOwner', analysed'⟩ := marked h game
      exact ⟨h', game', sameId'.trans sameId, sameOwner'.trans sameOwner, analysed' (.inl analysed)⟩
    · have mine := swap.belongs p new
      simp only [Puzzle.belongsTo, Bool.and_eq_true, beq_iff_eq] at mine
      obtain ⟨g', game', sameId', sameOwner', analysed'⟩ := marked g present
      exact ⟨g', game', by rw [sameId', named, mine.2], by rw [sameOwner', owned, mine.1],
        analysed' (.inr named)⟩
  · rw [swap.puzzles, List.map_append, List.nodup_append]
    refine ⟨c.puzzleIds.sublist (List.filter_sublist.map _), swap.ids, ?_⟩
    intro a old b new same
    obtain ⟨p, oldMember, rfl⟩ := List.mem_map.mp old
    obtain ⟨q, newMember, rfl⟩ := List.mem_map.mp new
    obtain ⟨k, drawn, pNamed⟩ := c.puzzleDrawn p (List.mem_filter.mp oldMember).1
    obtain ⟨k', later, -, qNamed⟩ := swap.drawn q newMember
    have := uuidText_injective (pNamed.symm.trans (same.trans qNamed))
    omega
  · intro p member
    rcases kept p member with ⟨old, -⟩ | new
    · obtain ⟨k, drawn, named⟩ := c.puzzleDrawn p old
      exact ⟨k, le_trans drawn swap.issued, named⟩
    · obtain ⟨k, -, drawn, named⟩ := swap.drawn p new
      exact ⟨k, drawn, named⟩
  · intro a member
    rw [swap.attempts, List.mem_filter] at member
    obtain ⟨old, stays⟩ := member
    obtain ⟨p, puzzle, sameId, sameUser⟩ := c.attemptPuzzle a old
    have other : p.belongsTo owner gameId = false := by
      by_contra gone
      simp only [Bool.not_eq_false] at gone
      simp at stays
      exact stays p puzzle gone sameId
    exact ⟨p, by simp [swap.puzzles, puzzle, other], sameId, sameUser⟩

/-- A replace keeps a store consistent, whether or not it goes through. -/
theorem replacePuzzles_consistent (c : t.Consistent) :
    ((replacePuzzles owner gameId rows).run.run t).2.Consistent := by
  rcases ran : (replacePuzzles owner gameId rows).run.run t with ⟨_ | count, t'⟩
  · obtain ⟨same, issued, -⟩ := replacePuzzles_error ran
    exact c.of_sameRows same issued
  · obtain ⟨stamp, fresh, swap, -⟩ := replacePuzzles_ok ran
    exact c.swapped swap

end Swap

/-! ## Recording an attempt -/

section Submit

variable {owner puzzleId : String} {move : Option String} {timeSpent : Value} {t : Tables}

theorem submitAttempt_run_of_empty
    (empty : (Training.normalizeMove (move.getD "")).isEmpty = true) :
    (submitAttempt owner puzzleId move timeSpent).run.run t = (.error .emptyMove, t) := by
  simp only [submitAttempt, empty, if_true, Step.run_bind, Step.run_throw]

theorem submitAttempt_run_of_missing
    (filled : (Training.normalizeMove (move.getD "")).isEmpty = false)
    (missing : t.ownPuzzle? owner puzzleId = none) :
    (submitAttempt owner puzzleId move timeSpent).run.run t =
      (.error (.puzzleNotFound puzzleId), t) := by
  simp only [submitAttempt, filled, Bool.false_eq_true, if_false, Step.run_bind, getPuzzle_run,
    missing]

section Found

variable (filled : (Training.normalizeMove (move.getD "")).isEmpty = false) {p : Puzzle}
  (found : t.ownPuzzle? owner puzzleId = some p)
include filled found

/-- A filled move on one of the user's puzzles draws the next identifier before its time is read;
a time that cannot be read fails the submission there. -/
theorem submitAttempt_run_of_unreadable {f : RecordFault}
    (unreadable : coerceTimeSpent timeSpent = .error f) :
    (submitAttempt owner puzzleId move timeSpent).run.run t =
      (.error (.record f), { t with stamps := t.stamps.nextId.2 }) := by
  simp only [submitAttempt, filled, Bool.false_eq_true, if_false, Step.run_bind, getPuzzle_run,
    found, freshId_run, unreadable, Step.run_throw]

/-- A time too large for the integer column fails the submission after the clock is read. -/
theorem submitAttempt_run_of_overflow {time : Option Int}
    (read : coerceTimeSpent timeSpent = .ok time)
    (large : (time.any fun ms => (maxInteger : Int) < ms) = true) :
    (submitAttempt owner puzzleId move timeSpent).run.run t =
      (.error .integerOverflow, { t with stamps := t.stamps.nextId.2.nextTime.2 }) := by
  simp only [submitAttempt, filled, Bool.false_eq_true, if_false, Step.run_bind, getPuzzle_run,
    found, freshId_run, read, Step.run_pure, now_run, large, if_true, Step.run_throw]

/-- A filled move on one of the user's puzzles, with a time the store can hold, is graded and
appended as an attempt under the next identifier, stamped by the next clock reading. -/
theorem submitAttempt_run_of_found {time : Option Int} (read : coerceTimeSpent timeSpent = .ok time)
    (fits : (time.any fun ms => (maxInteger : Int) < ms) = false) :
    let a : Training.Attempt :=
      { id := uuidText (t.stamps.issued + 1), puzzleId := puzzleId, userId := owner,
        move := Training.normalizeMove (move.getD ""),
        wasCorrect :=
          Training.gradeMove (Training.normalizeMove (move.getD "")) p.bestMove p.acceptedMoves,
        timeSpent := time, attemptedAt := t.stamps.nextId.2.nextTime.1 }
    (submitAttempt owner puzzleId move timeSpent).run.run t =
      (.ok (a, Training.aggregate (newestFirst ((t.attempts ++ [a]).filter fun x =>
          x.userId == owner && x.puzzleId == puzzleId))),
       { t with attempts := t.attempts ++ [a], stamps := t.stamps.nextId.2.nextTime.2 }) := by
  simp only [submitAttempt, filled, Bool.false_eq_true, if_false, Step.run_bind, Step.run_pure,
    getPuzzle_run, found, freshId_run, read, now_run, fits, addAttempt, Step.run_modify]
  rfl

end Found

/-- A submission either fails, writing no row and at most drawing from the counters, or appends
one attempt of the user on one of their puzzles, with the time read, which the integer column can
hold, and draws an identifier and a clock reading. -/
theorem submitAttempt_cases :
    (∃ e t', (submitAttempt owner puzzleId move timeSpent).run.run t = (.error e, t') ∧
        t.SameRows t' ∧ t.stamps.issued ≤ t'.stamps.issued) ∨
      ∃ p a, t.ownPuzzle? owner puzzleId = some p ∧ a.puzzleId = puzzleId ∧
        a.userId = owner ∧ coerceTimeSpent timeSpent = .ok a.timeSpent ∧
        (a.timeSpent.any fun ms => (maxInteger : Int) < ms) = false ∧
        (submitAttempt owner puzzleId move timeSpent).run.run t =
          (.ok (a, Training.aggregate (newestFirst ((t.attempts ++ [a]).filter fun x =>
              x.userId == owner && x.puzzleId == puzzleId))),
           { t with attempts := t.attempts ++ [a], stamps := t.stamps.nextId.2.nextTime.2 }) := by
  have drawn (st : Stamps) (issued : t.stamps.issued ≤ st.issued) :
      t.SameRows { t with stamps := st } ∧ t.stamps.issued ≤ st.issued :=
    ⟨Tables.sameRows_stamps t st, issued⟩
  cases filled : (Training.normalizeMove (move.getD "")).isEmpty
  · rcases found : t.ownPuzzle? owner puzzleId with _ | p
    · exact .inl ⟨_, _, submitAttempt_run_of_missing filled found, Tables.SameRows.refl t,
        le_refl _⟩
    rcases read : coerceTimeSpent timeSpent with f | time
    · exact .inl ⟨_, _, submitAttempt_run_of_unreadable filled found read,
        drawn _ (by simp)⟩
    cases large : time.any fun ms => (maxInteger : Int) < ms
    · exact .inr ⟨p, _, rfl, rfl, rfl, rfl, large,
        submitAttempt_run_of_found filled found read large⟩
    · exact .inl ⟨_, _, submitAttempt_run_of_overflow filled found read large,
        drawn _ (by simp [Stamps.nextTime])⟩
  · exact .inl ⟨_, _, submitAttempt_run_of_empty filled, Tables.SameRows.refl t, le_refl _⟩

/-- Recording an attempt keeps a store consistent: the attempt is on a puzzle of its user. -/
theorem submitAttempt_consistent (c : t.Consistent) :
    ((submitAttempt owner puzzleId move timeSpent).run.run t).2.Consistent := by
  rcases @submitAttempt_cases owner puzzleId move timeSpent t with ⟨e, t', ran, same, issued⟩ |
    ⟨p, a, found, on, mine, -, -, ran⟩
  · rw [ran]
    exact c.of_sameRows same issued
  obtain ⟨present, named, owned⟩ := ownPuzzle?_eq_some found
  rw [ran]
  refine ⟨c.gameIds, c.gameNamed, c.puzzleGame, c.puzzleIds, ?_, ?_⟩
  · intro q member
    obtain ⟨k, drawn, named⟩ := c.puzzleDrawn q member
    exact ⟨k, by simp [Stamps.nextTime]; omega, named⟩
  · intro x member
    rcases List.mem_append.mp member with old | new
    · exact c.attemptPuzzle x old
    · rw [List.mem_singleton] at new
      subst new
      exact ⟨p, present, named.trans on.symm, owned.trans mine.symm⟩

end Submit

/-! ## Reachable stores -/

/-- One write to a store: storing a game, replacing a game's puzzle set, or recording an attempt,
whether or not it goes through. -/
inductive Write : Tables → Tables → Prop
  | upsert (owner pgn : String) (gameId userColor : Option String) (opening : Openings.Info)
      (provider playedAt : Option String) (t : Tables) :
      Write t ((upsertGame owner pgn gameId userColor opening provider playedAt).run.run t).2
  | replace (owner gameId : String) (rows : List PuzzleRow) (t : Tables) :
      Write t ((replacePuzzles owner gameId rows).run.run t).2
  | submit (owner puzzleId : String) (move : Option String) (timeSpent : Value) (t : Tables) :
      Write t ((submitAttempt owner puzzleId move timeSpent).run.run t).2

/-- The stores that writes reach from the empty one. -/
def Reachable (t : Tables) : Prop := Relation.ReflTransGen Write {} t

theorem Write.consistent {t t' : Tables} (write : Write t t') (c : t.Consistent) :
    t'.Consistent := by
  cases write with
  | upsert owner pgn gameId userColor opening provider playedAt =>
    exact c.gameWrite
      (upsertGame_write owner pgn gameId userColor opening provider playedAt c.gameIds)
  | replace owner gameId rows => exact replacePuzzles_consistent c
  | submit owner puzzleId move timeSpent => exact submitAttempt_consistent c

/-- Every reachable store is consistent. -/
theorem Reachable.consistent {t : Tables} (reach : Reachable t) : t.Consistent := by
  induction reach with
  | refl => exact Tables.Consistent.empty
  | tail _ write consistent => exact write.consistent consistent

/-! ## Importing, ingesting and syncing are writes -/

section Composite

open Analysis

variable {σ α β : Type} {t : Tables}

/-- An import stores the game when its text reads and the book can be walked for it, and changes
nothing otherwise. -/
theorem importGame_tables (owner pgn : String) (username gameId provider : Option String)
    (book : Openings.Book) (t : Tables) :
    ((importGame owner pgn username gameId provider book).run.run t).2 = t ∨
      ∃ pgn' gameId' userColor opening provider' playedAt,
        ((importGame owner pgn username gameId provider book).run.run t).2 =
          ((upsertGame owner pgn' gameId' userColor opening provider' playedAt).run.run t).2 := by
  unfold Store.importGame
  rcases Pgn.parseGame pgn with e | g
  · exact .inl rfl
  dsimp only
  rcases book.classify g.tags g.sans with f | opening
  · exact .inl rfl
  · exact .inr ⟨_, _, _, _, _, _, rfl⟩

theorem Reachable.importGame (reach : Reachable t) (owner pgn : String)
    (username gameId provider : Option String) (book : Openings.Book) :
    Reachable ((importGame owner pgn username gameId provider book).run.run t).2 := by
  rcases importGame_tables owner pgn username gameId provider book t with
    same | ⟨_, _, _, _, _, _, stored⟩
  · rwa [same]
  · rw [stored]
    exact reach.tail (Write.upsert _ _ _ _ _ _ _ t)

/-- An ingest changes the store only by replacing the game's puzzle set. -/
theorem ingest_tables (owner gameId : String) (records : List Value) (t : Tables) :
    ((ingest owner gameId records).run.run t).2 = t ∨
      ∃ rows, ((ingest owner gameId records).run.run t).2 =
        ((replacePuzzles owner gameId rows).run.run t).2 := by
  rcases read : acceptedRows records with f | rows
  · exact .inl (by rw [ingest_run_of_fault read])
  refine .inr ⟨rows, ?_⟩
  rcases replaced : (replacePuzzles owner gameId rows).run.run t with ⟨_ | inserted, t'⟩
  · rw [ingest_run_of_refused read replaced]
  · rw [ingest_run_of_inserted read replaced]

theorem Reachable.ingest (reach : Reachable t) (owner gameId : String) (records : List Value) :
    Reachable ((ingest owner gameId records).run.run t).2 := by
  rcases ingest_tables owner gameId records t with same | ⟨rows, replaced⟩
  · rwa [same]
  · rw [replaced]
    exact reach.tail (Write.replace owner gameId rows t)

theorem Step.lift_run (x : Step α) (t : Tables) (s : σ) :
    ((Step.lift x : SyncM σ α).run.run t).run s = (x.run.run t, s) := rfl

theorem SyncM.run_bind (x : SyncM σ α) (f : α → SyncM σ β) (t : Tables) (s : σ) :
    ((x >>= f).run.run t).run s = match (x.run.run t).run s with
      | ((.ok a, t'), s') => ((f a).run.run t').run s'
      | ((.error e, t'), s') => ((.error e, t'), s') := by
  simp only [ExceptT.run_bind, StateT.run_bind]
  rcases (x.run.run t).run s with ⟨⟨r, t'⟩, s'⟩
  rcases r with e | a <;> rfl

theorem SyncM.run_lift (x : StateM σ α) (t : Tables) (s : σ) :
    ((monadLift x : SyncM σ α).run.run t).run s = ((.ok (x.run s).1, t), (x.run s).2) := rfl

/-- A sync touches the store only through one ingest into the game, and fails when that ingest
does; otherwise it fails before touching the store. -/
theorem syncGame_cases (owner gameId : String) (c : Config) (ev : Option (Evaluator σ))
    (supplied : Evaluations) (book : Openings.Book) (t : Tables) (s : σ) :
    ((((syncGame owner gameId c ev supplied book).run.run t).run s).1.2 = t ∧
      (((syncGame owner gameId c ev supplied book).run.run t).run s).1.1.toBool = false) ∨
    ∃ records, ((ingest owner gameId records).run.run t).2 =
        (((syncGame owner gameId c ev supplied book).run.run t).run s).1.2 ∧
      ((ingest owner gameId records).run.run t).1.toBool =
        (((syncGame owner gameId c ev supplied book).run.run t).run s).1.1.toBool := by
  simp only [syncGame, SyncM.run_bind, Step.lift_run, getGame_run]
  rcases t.ownGame? owner gameId with _ | g
  · exact .inl ⟨rfl, rfl⟩
  simp only [SyncM.run_lift]
  rcases (analyzeGame g.pgn c ev supplied none g.userColor book).run s with ⟨r, s'⟩
  rcases r with f | a
  · exact .inl ⟨rfl, rfl⟩
  refine .inr ⟨a.puzzles.map Analysis.Puzzle.toValue, ?_⟩
  simp only [SyncM.run_bind, Step.lift_run]
  rcases (ingest owner gameId (a.puzzles.map Analysis.Puzzle.toValue)).run.run t with
    ⟨_ | report, t'⟩ <;> exact ⟨rfl, rfl⟩

theorem Reachable.syncGame (reach : Reachable t) (owner gameId : String) (c : Config)
    (ev : Option (Evaluator σ)) (supplied : Evaluations) (book : Openings.Book) (s : σ) :
    Reachable (((syncGame owner gameId c ev supplied book).run.run t).run s).1.2 := by
  rcases syncGame_cases owner gameId c ev supplied book t s with ⟨same, -⟩ | ⟨records, ingested, -⟩
  · rwa [same]
  · rw [← ingested]
    exact reach.ingest owner gameId records

theorem SyncM.run_tryCatch (x : SyncM σ α) (t : Tables) (s : σ) :
    ((tryCatch (Except.ok <$> x) (fun e => pure (Except.error e)) :
        SyncM σ (Except Error α)).run.run t).run s =
      ((.ok ((x.run.run t).run s).1.1, ((x.run.run t).run s).1.2), ((x.run.run t).run s).2) := by
  simp only [ExceptT.run_tryCatch, StateT.run_bind, ExceptT.run_map, StateT.run_map]
  rcases (x.run.run t).run s with ⟨⟨_ | a, t'⟩, s'⟩ <;> rfl

theorem Reachable.syncEach (reach : Reachable t) (owner : String) (c : Config)
    (ev : Option (Evaluator σ)) (book : Openings.Book) (ids : List String) (s : σ) :
    Reachable (((syncEach owner c ev book ids).run.run t).run s).1.2 := by
  induction ids generalizing t s with
  | nil => exact reach
  | cons id rest ih =>
    simp only [Store.syncEach, SyncM.run_bind, SyncM.run_tryCatch]
    have synced := reach.syncGame owner id c ev [] book s
    generalize ((Store.syncGame owner id c ev [] book).run.run t).run s = ran at synced ⊢
    obtain ⟨⟨r, t'⟩, s'⟩ := ran
    dsimp only
    have later := ih synced s'
    generalize ((Store.syncEach owner c ev book rest).run.run t').run s' = run at later ⊢
    obtain ⟨⟨_ | others, t''⟩, s''⟩ := run <;> exact later

theorem Reachable.syncGames (reach : Reachable t) (owner : String) (ids : List String)
    (c : Config) (ev : Option (Evaluator σ)) (book : Openings.Book) (s : σ) :
    Reachable (((syncGames owner ids c ev book).run.run t).run s).1.2 := by
  simp only [Store.syncGames, SyncM.run_bind]
  have each := reach.syncEach owner c ev book ids.eraseDups s
  generalize ((Store.syncEach owner c ev book ids.eraseDups).run.run t).run s = ran at each ⊢
  obtain ⟨⟨_ | results, t'⟩, s'⟩ := ran
  · exact each
  · dsimp only
    split <;> exact each

/-- A sync that fails changes no row: it failed before touching the store, or its ingest failed. -/
theorem syncGame_error {owner gameId : String} {c : Config} {ev : Option (Evaluator σ)}
    {supplied : Evaluations} {book : Openings.Book} {s s' : σ} {e : Error} {t' : Tables}
    (ran : ((syncGame owner gameId c ev supplied book).run.run t).run s = ((.error e, t'), s')) :
    t.SameRows t' := by
  rcases syncGame_cases owner gameId c ev supplied book t s with
    ⟨same, -⟩ | ⟨records, ingested, failed⟩
  · rw [ran] at same
    exact same ▸ Tables.SameRows.refl t
  · rw [ran] at ingested failed
    generalize ingestion : (ingest owner gameId records).run.run t = outcome at ingested failed
    obtain ⟨_ | report, t''⟩ := outcome
    · dsimp only at ingested
      rw [← ingested]
      exact (ingest_error ingestion).1
    · cases failed

end Composite


/-! ## What a replace leaves alone -/

section Frame

variable {owner gameId : String} {rows : List PuzzleRow} {stamp : String} {fresh : List Puzzle}
  {t t' : Tables}

/-- Every game but the replaced one stays as it was. -/
theorem Swapped.otherGames (swap : Swapped owner gameId rows stamp fresh t t') :
    ∀ g ∈ t.games, g.id ≠ gameId → g ∈ t'.games := by
  intro g member other
  rw [swap.games, List.mem_map]
  exact ⟨g, member, by simp [other]⟩

/-- An attempt stays exactly when it is on none of the game's old puzzles. -/
theorem Swapped.mem_attempts (swap : Swapped owner gameId rows stamp fresh t t') :
    ∀ a ∈ t.attempts,
      a ∈ t'.attempts ↔ ∀ p ∈ t.puzzles, p.id = a.puzzleId → p.belongsTo owner gameId = false := by
  intro a member
  rw [swap.attempts, List.mem_filter]
  simp only [member, true_and, Bool.not_eq_true', List.contains_eq_mem, decide_eq_false_iff_not,
    List.mem_map, List.mem_filter, not_exists, not_and, and_imp]
  constructor
  · intro gone p puzzle named
    by_contra mine
    exact gone p puzzle (by simpa using mine) named
  · intro stays p puzzle mine named
    simp [stays p puzzle named] at mine

/-- In a consistent store a game not yet analysed has no puzzles. -/
theorem Tables.Consistent.unanalysed (c : t.Consistent) :
    ∀ g ∈ t.games, g.analyzedAt = none → ∀ p ∈ t.puzzles, p.gameId ≠ g.id := by
  intro g member fresh p puzzle named
  obtain ⟨h, game, sameId, -, analysed⟩ := c.puzzleGame p puzzle
  have : h = g := List.inj_on_of_nodup_map c.gameIds game member (sameId.trans named)
  subst this
  simp [fresh] at analysed

/-- Storing a game keeps every puzzle and every game's analysis date. -/
theorem upsertGame_keeps (owner pgn : String) (gameId userColor : Option String)
    (opening : Openings.Info) (provider playedAt : Option String)
    (ids : (t.games.map (·.id)).Nodup) :
    ((upsertGame owner pgn gameId userColor opening provider playedAt).run.run t).2.puzzles =
        t.puzzles ∧
      ∀ g ∈ t.games,
        ∃ g' ∈ ((upsertGame owner pgn gameId userColor opening provider playedAt).run.run
          t).2.games, g'.id = g.id ∧ g'.analyzedAt = g.analyzedAt := by
  have write := upsertGame_write owner pgn gameId userColor opening provider playedAt ids
  obtain ⟨f, added, games, kept, -, -⟩ := write.games
  refine ⟨write.puzzles, fun g member => ⟨f g, ?_, (kept g member).1, (kept g member).2.2.1⟩⟩
  rw [games]
  exact List.mem_append_left _ (List.mem_map_of_mem member)

end Frame

/-! ## Two small stores -/

/-- A well-formed puzzle record. -/
def plainRecord : Value :=
  .obj [("source_ply", .int 0), ("fen", .str "f"), ("best_move_uci", .str "e2e4"),
        ("best_line_uci", .arr [.str "e2e4"]), ("tags", .arr [])]

/-- The store where `user-1` has stored the game `g` and ingested one puzzle into it. -/
def onePuzzleTables : Tables :=
  ((ingest "user-1" "g" [plainRecord]).run.run
    ((upsertGame "user-1" "" (some "g") none {} none none).run.run {}).2).2

theorem reachable_onePuzzleTables : Reachable onePuzzleTables :=
  Reachable.ingest (Relation.ReflTransGen.single
    (Write.upsert "user-1" "" (some "g") none {} none none {})) "user-1" "g" [plainRecord]

/-- `user-1`'s store after one wrong move on the one puzzle they have. -/
def failedOnceTables : Tables :=
  ((submitAttempt "user-1" (uuidText 1) (some "a2a3") .null).run.run onePuzzleTables).2

theorem reachable_failedOnceTables : Reachable failedOnceTables :=
  reachable_onePuzzleTables.tail (Write.submit "user-1" (uuidText 1) (some "a2a3") .null _)

/-! ## The replace laws -/

/-- What replaces, syncs and game writes do to a store `t`. -/
structure ReplaceLaws (t : Tables) : Prop where
  /-- A replace that goes through swaps the game's puzzle set for the stored form of the first row
  of each key, deletes the attempts on the game's old puzzles, marks the game analysed, and leaves
  every other game, puzzle and attempt. -/
  swaps : ∀ owner gameId rows count t',
    (replacePuzzles owner gameId rows).run.run t = (.ok count, t') →
    ∃ stamp fresh, Swapped owner gameId rows stamp fresh t t' ∧ count = fresh.length ∧
      t'.puzzles.filter (Puzzle.belongsTo owner gameId) = fresh ∧
      t'.puzzles.filter (fun p => !p.belongsTo owner gameId) =
        t.puzzles.filter (fun p => !p.belongsTo owner gameId) ∧
      (∀ g ∈ t.games, g.id ≠ gameId → g ∈ t'.games) ∧
      ∀ a ∈ t.attempts,
        a ∈ t'.attempts ↔ ∀ p ∈ t.puzzles, p.id = a.puzzleId → p.belongsTo owner gameId = false
  /-- A replace that fails changes no row. -/
  replaceFails : ∀ owner gameId rows e t',
    (replacePuzzles owner gameId rows).run.run t = (.error e, t') → t.SameRows t'
  /-- A sync that fails, in its lookup, its analysis or its ingest, changes no row. -/
  syncFails : ∀ (σ : Type) owner gameId c (ev : Option (Analysis.Evaluator σ)) supplied book s e t' s',
    ((syncGame owner gameId c ev supplied book).run.run t).run s = ((.error e, t'), s') →
    t.SameRows t'
  /-- Replacing twice by the same rows stores the same puzzles, identifiers and times aside. -/
  repeats : ∀ owner gameId rows n₁ n₂ t₁ t₂,
    (replacePuzzles owner gameId rows).run.run t = (.ok n₁, t₁) →
    (replacePuzzles owner gameId rows).run.run t₁ = (.ok n₂, t₂) →
    n₂ = n₁ ∧ (t₂.puzzles.filter (Puzzle.belongsTo owner gameId)).map Puzzle.unstamped =
      (t₁.puzzles.filter (Puzzle.belongsTo owner gameId)).map Puzzle.unstamped
  /-- A later replace supersedes an earlier one: the game's puzzles are, identifiers and times
  aside, those the later replace alone would store. -/
  supersedes : ∀ owner gameId rows rows' n₁ n₂ t₁ t₂,
    (replacePuzzles owner gameId rows).run.run t = (.ok n₁, t₁) →
    (replacePuzzles owner gameId rows').run.run t₁ = (.ok n₂, t₂) →
    ∃ t', (replacePuzzles owner gameId rows').run.run t = (.ok n₂, t') ∧
      (t'.puzzles.filter (Puzzle.belongsTo owner gameId)).map Puzzle.unstamped =
        (t₂.puzzles.filter (Puzzle.belongsTo owner gameId)).map Puzzle.unstamped
  /-- A game not yet analysed has no puzzles. -/
  unanalysed : ∀ g ∈ t.games, g.analyzedAt = none → ∀ p ∈ t.puzzles, p.gameId ≠ g.id
  /-- Storing a game, again or anew, keeps every puzzle and every game's analysis date. -/
  upsertKeeps : ∀ owner pgn gameId userColor opening provider playedAt,
    ((upsertGame owner pgn gameId userColor opening provider playedAt).run.run t).2.puzzles =
        t.puzzles ∧
      ∀ g ∈ t.games, ∃ g' ∈ ((upsertGame owner pgn gameId userColor opening provider playedAt).run.run
        t).2.games, g'.id = g.id ∧ g'.analyzedAt = g.analyzedAt

/-- The replace laws hold in every reachable store. -/
theorem reachable_replaceLaws {t : Tables} (reach : Reachable t) : ReplaceLaws t where
  swaps owner gameId rows count t' ran := by
    obtain ⟨stamp, fresh, swap, counted⟩ := replacePuzzles_ok ran
    exact ⟨stamp, fresh, swap, counted, swap.gamePuzzles, swap.otherPuzzles, swap.otherGames,
      swap.mem_attempts⟩
  replaceFails _ _ _ _ _ ran := (replacePuzzles_error ran).1
  syncFails _ _ _ _ _ _ _ _ _ _ _ ran := syncGame_error ran
  repeats owner gameId rows n₁ n₂ t₁ t₂ first second := by
    obtain ⟨t', again, same⟩ := replacePuzzles_supersedes first second
    rw [first, Prod.mk.injEq, Except.ok.injEq] at again
    obtain ⟨rfl, rfl⟩ := again
    exact ⟨rfl, same.symm⟩
  supersedes _ _ _ _ _ _ _ _ first second := replacePuzzles_supersedes first second
  unanalysed := reach.consistent.unanalysed
  upsertKeeps owner pgn gameId userColor opening provider playedAt :=
    upsertGame_keeps owner pgn gameId userColor opening provider playedAt reach.consistent.gameIds

/-- The laws hold in a store with a game, a puzzle and an attempt on it. -/
theorem replaceLaws_failedOnce : Reachable failedOnceTables ∧ ReplaceLaws failedOnceTables :=
  ⟨reachable_failedOnceTables, reachable_replaceLaws reachable_failedOnceTables⟩

end Store
end Tactician
