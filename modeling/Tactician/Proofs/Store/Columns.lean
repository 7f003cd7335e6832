import Mathlib
import Tactician.Proofs.Store.RoundTrip

/-!
# Integers the store binds

The store's integer columns hold signed 64-bit integers.  Two values reach them from callers with
no upper bound checked before: the time spent on an attempt, and the number of puzzles a page
skips.  A submission whose time the column cannot hold, and a listing whose page lies too far
out, fail instead of returning and write nothing; a time given as an integer too large for a
double fails already when it is read.  So the store never holds a time outside the column's range.

Main statement (`reachable_bindsInRange`): in a reachable store every recorded time lies between
zero and the column's largest value; a non-empty move on one of the user's puzzles goes in, as
exactly one attempt with the time read, exactly when that time is read and fits the column; a
submission that fails writes no row; a listing changes nothing and returns exactly when the
number of puzzles its page skips fits the column.  A time of `10 ^ 25` and a page of `10 ^ 18`
both fail (`huge_time_and_page_overflow`).
-/

namespace Tactician
namespace Store

/-! ## Times -/

/-- A time that is read and, when one is given, fits an integer column. -/
def TimeFits (raw : Value) : Prop :=
  ∃ time, coerceTimeSpent raw = .ok time ∧ ∀ ms ∈ time, ms ≤ maxInteger

/-- A time read is never negative. -/
theorem coerceTimeSpent_nonneg {raw : Value} {time : Option Int}
    (read : coerceTimeSpent raw = .ok time) : ∀ ms ∈ time, 0 ≤ ms := by
  intro ms given
  rcases raw with _ | _ | i | f | _ | _ | _ <;> simp only [coerceTimeSpent] at read
  · cases read
    cases given
  · cases read
    cases given
  · split at read
    · cases read
      cases given
      exact le_max_left 0 i
    · cases read
  · cases read
    obtain ⟨whole, -, rfl⟩ := Option.mem_map.mp given
    exact le_max_left 0 whole
  all_goals
    cases read
    cases given

theorem timeFits_of_fits {raw : Value} {time : Option Int} (read : coerceTimeSpent raw = .ok time)
    (fits : (time.any fun ms => (maxInteger : Int) < ms) = false) : TimeFits raw :=
  ⟨time, read, fun ms given => by
    rcases time with _ | whole
    · cases given
    · cases given
      simpa using fits⟩

/-- What every recorded time is: zero or more, and at most the column's largest value. -/
def Tables.TimesFit (t : Tables) : Prop :=
  ∀ a ∈ t.attempts, ∀ ms ∈ a.timeSpent, 0 ≤ ms ∧ ms ≤ maxInteger

theorem Tables.TimesFit.of_subset {t t' : Tables} (fit : t.TimesFit)
    (kept : ∀ a ∈ t'.attempts, a ∈ t.attempts) : t'.TimesFit :=
  fun a member => fit a (kept a member)

/-- Every write keeps the recorded times in range: a stored game and a replaced puzzle set add no
attempt, and a submission adds one only with a time read that fits. -/
theorem Write.timesFit {t t' : Tables} (reach : Reachable t) (write : Write t t')
    (fit : t.TimesFit) : t'.TimesFit := by
  cases write with
  | upsert owner pgn gameId userColor opening provider playedAt =>
    have same := (upsertGame_write owner pgn gameId userColor opening provider playedAt
      reach.consistent.gameIds).attempts
    exact fit.of_subset fun a member => same ▸ member
  | replace owner gameId rows =>
    rcases ran : (replacePuzzles owner gameId rows).run.run t with ⟨_ | count, t'⟩
    · exact fit.of_subset fun a member => (replacePuzzles_error ran).1.attempts ▸ member
    · obtain ⟨stamp, fresh, swap, -⟩ := replacePuzzles_ok ran
      exact fit.of_subset fun a member => List.mem_of_mem_filter (swap.attempts ▸ member)
  | submit owner puzzleId move timeSpent =>
    rcases @submitAttempt_cases owner puzzleId move timeSpent t with ⟨e, t', ran, same, -⟩ |
      ⟨p, a, -, -, -, read, fits, ran⟩
    · rw [ran]
      exact fit.of_subset fun x member => same.attempts ▸ member
    rw [ran]
    intro x member ms given
    rcases List.mem_append.mp member with old | new
    · exact fit x old ms given
    rw [List.mem_singleton] at new
    subst new
    obtain ⟨time, read', bound⟩ := timeFits_of_fits read fits
    rw [read] at read'
    cases read'
    exact ⟨coerceTimeSpent_nonneg read ms given, bound ms given⟩

theorem Reachable.timesFit {t : Tables} (reach : Reachable t) : t.TimesFit := by
  induction reach with
  | refl => intro a member; cases member
  | tail earlier write fit => exact write.timesFit earlier fit

/-! ## Submitting and listing -/

section Submit

variable {owner puzzleId : String} {move : Option String} {raw : Value} {t : Tables}

/-- A non-empty move on one of the user's puzzles goes in exactly when its time fits the column. -/
theorem submitAttempt_ok_iff (owned : (t.ownPuzzle? owner puzzleId).isSome)
    (filled : Training.normalizeMove (move.getD "") ≠ "") :
    (∃ r, ((submitAttempt owner puzzleId move raw).run.run t).1 = .ok r) ↔ TimeFits raw := by
  obtain ⟨p, found⟩ := Option.isSome_iff_exists.mp owned
  have filled' : (Training.normalizeMove (move.getD "")).isEmpty = false := by
    simpa [String.isEmpty_iff] using filled
  rcases read : coerceTimeSpent raw with f | time
  · rw [submitAttempt_run_of_unreadable filled' found read]
    refine ⟨fun ⟨_, ran⟩ => (by cases ran), fun ⟨time, read', _⟩ => ?_⟩
    rw [read] at read'
    cases read'
  cases large : time.any fun ms => (maxInteger : Int) < ms
  · exact ⟨fun _ => timeFits_of_fits read large,
      fun _ => ⟨_, by rw [submitAttempt_run_of_found filled' found read large]⟩⟩
  · rw [submitAttempt_run_of_overflow filled' found read large]
    refine ⟨fun ⟨_, ran⟩ => (by cases ran), fun ⟨time', read', bound⟩ => ?_⟩
    rw [read, Except.ok.injEq] at read'
    subst read'
    rcases time with _ | ms
    · cases large
    · have within := bound ms rfl
      simp only [Option.any_some, decide_eq_true_eq] at large
      omega

/-- A submission that goes in appends exactly one attempt, with the time read, and answers with
the user's statistics on the puzzle afterwards. -/
theorem submitAttempt_appends {a : Training.Attempt} {stats : Training.Stats} {t' : Tables}
    (ran : (submitAttempt owner puzzleId move raw).run.run t = (.ok (a, stats), t')) :
    t'.attempts = t.attempts ++ [a] ∧ coerceTimeSpent raw = .ok a.timeSpent ∧
      stats = Training.aggregate (newestFirst (t'.attempts.filter fun x =>
        x.userId == owner && x.puzzleId == puzzleId)) := by
  rcases @submitAttempt_cases owner puzzleId move raw t with ⟨e, t'', failed, -, -⟩ |
    ⟨p, a', -, -, -, read, -, went⟩
  · rw [ran] at failed
    cases failed
  rw [ran, Prod.mk.injEq, Except.ok.injEq, Prod.mk.injEq] at went
  obtain ⟨⟨rfl, rfl⟩, rfl⟩ := went
  exact ⟨rfl, read, rfl⟩

theorem submitAttempt_refused {e : Error} {t' : Tables}
    (ran : (submitAttempt owner puzzleId move raw).run.run t = (.error e, t')) : t.SameRows t' := by
  rcases @submitAttempt_cases owner puzzleId move raw t with ⟨e', t'', failed, same, -⟩ |
    ⟨p, a, -, -, -, -, -, went⟩
  · rw [ran, Prod.mk.injEq] at failed
    rw [failed.2]
    exact same
  · rw [ran] at went
    cases went

end Submit

/-- A listing returns exactly when the number of puzzles its page skips fits an integer column. -/
theorem listPuzzles_ok_iff (owner : String) (page limit : Int) (f : Filter) (t : Tables) :
    (∃ r, ((listPuzzles owner page limit f).run.run t).1 = .ok r) ↔
      (max 1 page - 1) * max 1 (min maxPageSize limit) ≤ maxInteger := by
  rw [listPuzzles_run]
  by_cases far : (maxInteger : Int) < (max 1 page - 1) * max 1 (min maxPageSize limit)
  · rw [if_pos far]
    exact ⟨fun ⟨_, ran⟩ => (by cases ran), fun fits => absurd fits (not_le.mpr far)⟩
  · rw [if_neg far]
    exact ⟨fun _ => not_lt.mp far, fun _ => ⟨_, rfl⟩⟩

/-! ## The laws -/

/-- The integers a store binds fit its columns: every recorded time does; a non-empty move on one
of the user's puzzles goes in exactly when its time fits, as one attempt with that time, and a
failed submission writes no row; a listing changes nothing and returns exactly when the number
of puzzles its page skips fits. -/
structure BindsInRange (t : Tables) : Prop where
  times : t.TimesFit
  submitted : ∀ {owner puzzleId : String} {move : Option String} {raw : Value},
    (t.ownPuzzle? owner puzzleId).isSome → Training.normalizeMove (move.getD "") ≠ "" →
      ((∃ r, ((submitAttempt owner puzzleId move raw).run.run t).1 = .ok r) ↔ TimeFits raw)
  appended : ∀ {owner puzzleId : String} {move : Option String} {raw : Value}
    {a : Training.Attempt} {stats : Training.Stats} {t' : Tables},
    (submitAttempt owner puzzleId move raw).run.run t = (.ok (a, stats), t') →
      t'.attempts = t.attempts ++ [a] ∧ coerceTimeSpent raw = .ok a.timeSpent ∧
        stats = Training.aggregate (newestFirst (t'.attempts.filter fun x =>
          x.userId == owner && x.puzzleId == puzzleId))
  refused : ∀ {owner puzzleId : String} {move : Option String} {raw : Value} {e : Error}
    {t' : Tables}, (submitAttempt owner puzzleId move raw).run.run t = (.error e, t') →
      t.SameRows t'
  listed : ∀ (owner : String) (page limit : Int) (f : Filter),
    ((listPuzzles owner page limit f).run.run t).2 = t ∧
      ((∃ r, ((listPuzzles owner page limit f).run.run t).1 = .ok r) ↔
        (max 1 page - 1) * max 1 (min maxPageSize limit) ≤ maxInteger)

theorem reachable_bindsInRange {t : Tables} (reach : Reachable t) : BindsInRange t where
  times := reach.timesFit
  submitted := submitAttempt_ok_iff
  appended := submitAttempt_appends
  refused := submitAttempt_refused
  listed owner page limit f := ⟨listPuzzles_tables page limit f, listPuzzles_ok_iff owner page limit f t⟩

theorem bindsInRange_onePuzzle : Reachable onePuzzleTables ∧ BindsInRange onePuzzleTables :=
  ⟨reachable_onePuzzleTables, reachable_bindsInRange reachable_onePuzzleTables⟩

/-- On `user-1`'s puzzle, a move with a time of `10 ^ 25` milliseconds is read but fails when the
attempt is written, and the page `10 ^ 18` of twenty fails before it is cut. -/
theorem huge_time_and_page_overflow :
    Reachable onePuzzleTables ∧ (onePuzzleTables.ownPuzzle? "user-1" (uuidText 1)).isSome ∧
      coerceTimeSpent (.int (10 ^ 25)) = .ok (some (10 ^ 25)) ∧
      ((submitAttempt "user-1" (uuidText 1) (some "e2e4") (.int (10 ^ 25))).run.run
        onePuzzleTables).1 = .error .integerOverflow ∧
      ((listPuzzles "user-1" (10 ^ 18) 20 {}).run.run onePuzzleTables).1 =
        .error .integerOverflow := by
  obtain ⟨p, found⟩ : ∃ p, onePuzzleTables.ownPuzzle? "user-1" (uuidText 1) = some p :=
    Option.isSome_iff_exists.mp (by decide +kernel)
  have read : coerceTimeSpent (.int (10 ^ 25)) = .ok (some (10 ^ 25)) := by
    decide +kernel
  refine ⟨reachable_onePuzzleTables, by rw [found]; rfl, read, ?_, ?_⟩
  · rw [submitAttempt_run_of_overflow (by decide +kernel) found read (by decide)]
  · rw [listPuzzles_run, if_pos (by decide)]

end Store
end Tactician
