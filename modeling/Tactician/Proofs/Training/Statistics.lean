import Mathlib
import Tactician.Proofs.Store.Progress

/-!
# Statistics grow one attempt at a time

The statistics of a solver on a puzzle are folded afresh over the whole history on every read
(`Training.aggregate`).  Read as an update, they change on each new attempt as a running tally
would (`Stats.Advances`): one more attempt, one more correct one when it was right, the newest
verdict and stamp replaced, the oldest verdict set once, the streak extended when the verdict
repeats and restarted otherwise, and solved once any attempt was right.

Main statement: `aggregate_incremental`.  The fold over a history with one attempt in front is
that update of the fold over the history; a non-empty history has a streak between one and its
length and no more correct attempts than attempts; and when the clock never runs back, the
statistics a submission returns are the update, by the attempt just made, of the statistics the
puzzle had before, because the store lists the new attempt first.
-/

namespace Tactician
namespace Training

/-! ### The fold, field by field -/

section Fields

variable (h : List Attempt)

@[simp] theorem aggregate_total : (aggregate h).total = h.length := by
  cases h <;> simp [aggregate, List.getLast?_cons]

@[simp] theorem aggregate_correct : (aggregate h).correct = (h.filter (·.wasCorrect)).length := by
  cases h <;> simp [aggregate, List.getLast?_cons]

@[simp] theorem aggregate_lastCorrect : (aggregate h).lastCorrect = h.head?.map (·.wasCorrect) := by
  cases h <;> simp [aggregate, List.getLast?_cons]

@[simp] theorem aggregate_lastAttemptedAt :
    (aggregate h).lastAttemptedAt = h.head?.map (·.attemptedAt) := by
  cases h <;> simp [aggregate, List.getLast?_cons]

@[simp] theorem aggregate_firstCorrect :
    (aggregate h).firstCorrect = h.getLast?.map (·.wasCorrect) := by
  cases h with
  | nil => simp [aggregate]
  | cons a rest => simp [aggregate, List.getLast?_cons]

@[simp] theorem aggregate_streak : (aggregate h).streak = frontRun (h.map (·.wasCorrect)) := by
  cases h <;> simp [aggregate, List.getLast?_cons, frontRun]

@[simp] theorem aggregate_solved_eq : (aggregate h).solved = h.any (·.wasCorrect) := by
  cases h with
  | nil => simp [aggregate]
  | cons a rest =>
    simp only [aggregate, List.head?_cons, List.getLast?_cons, List.any_eq]
    simp [List.filter_eq_nil_iff, Nat.pos_iff_ne_zero]

@[simp] theorem aggregate_failed_eq :
    (aggregate h).failed = (!h.isEmpty && !(aggregate h).solved) := by
  cases h with
  | nil => simp [aggregate]
  | cons a rest =>
    simp only [aggregate, List.head?_cons, List.getLast?_cons]
    rw [Bool.eq_iff_iff]
    cases correct : a.wasCorrect <;> simp [correct, List.filter_eq_nil_iff]

end Fields

/-! ### The streak -/

theorem frontRun_cons_cons (x y : Bool) (rest : List Bool) :
    frontRun (x :: y :: rest) = if y = x then frontRun (y :: rest) + 1 else 1 := by
  by_cases same : y = x
  · subst same
    simp [frontRun]
    omega
  · simp [frontRun, same]

theorem one_le_frontRun {xs : List Bool} (filled : xs ≠ []) : 1 ≤ frontRun xs := by
  cases xs with
  | nil => exact absurd rfl filled
  | cons x rest => simp [frontRun]

theorem frontRun_le_length (xs : List Bool) : frontRun xs ≤ xs.length := by
  cases xs with
  | nil => simp [frontRun]
  | cons x rest =>
    have run := (List.takeWhile_sublist (· == x) (l := rest)).length_le
    simp [frontRun]
    omega

/-! ### The update -/

/-- How statistics `s` become `s'` when the attempt `a` is made on top of the history they were
folded from: the history was empty exactly when `s` counts no attempt, and its newest verdict is
`s.lastCorrect`. -/
structure Stats.Advances (s : Stats) (a : Attempt) (s' : Stats) : Prop where
  total : s'.total = s.total + 1
  correct : s'.correct = s.correct + if a.wasCorrect then 1 else 0
  lastCorrect : s'.lastCorrect = some a.wasCorrect
  lastAttemptedAt : s'.lastAttemptedAt = some a.attemptedAt
  firstCorrect : s'.firstCorrect = if s.total = 0 then some a.wasCorrect else s.firstCorrect
  streak : s'.streak = if s.lastCorrect = some a.wasCorrect then s.streak + 1 else 1
  solved : s'.solved = (s.solved || a.wasCorrect)
  failed : s'.failed = !s'.solved

/-- The oldest verdict of a history with an attempt in front: the attempt's own when the history
is empty. -/
theorem firstCorrect_cons (h : List Attempt) (a : Attempt) :
    (aggregate (a :: h)).firstCorrect =
      if (aggregate h).total = 0 then some a.wasCorrect else (aggregate h).firstCorrect := by
  cases h with
  | nil => simp
  | cons b rest => simp [List.getLast?_cons]

/-- The streak of a history with an attempt in front: one longer when the attempt repeats the
newest verdict, else one. -/
theorem streak_cons (h : List Attempt) (a : Attempt) :
    (aggregate (a :: h)).streak =
      if (aggregate h).lastCorrect = some a.wasCorrect then (aggregate h).streak + 1 else 1 := by
  cases h with
  | nil => simp [frontRun]
  | cons b rest =>
    simp only [aggregate_streak, List.map_cons, aggregate_lastCorrect, List.head?_cons,
      Option.map_some, Option.some.injEq]
    exact frontRun_cons_cons _ _ _

theorem aggregate_cons_advances (h : List Attempt) (a : Attempt) :
    (aggregate h).Advances a (aggregate (a :: h)) where
  total := by simp
  correct := by cases correct : a.wasCorrect <;> simp [correct]
  lastCorrect := by simp
  lastAttemptedAt := by simp
  firstCorrect := firstCorrect_cons h a
  streak := streak_cons h a
  solved := by simp [Bool.or_comm]
  failed := by simp

/-- A non-empty history has a streak between one and its length, and no more correct attempts
than attempts. -/
theorem aggregate_bounds {h : List Attempt} (filled : h ≠ []) :
    1 ≤ (aggregate h).streak ∧ (aggregate h).streak ≤ (aggregate h).total ∧
      (aggregate h).correct ≤ (aggregate h).total := by
  refine ⟨?_, ?_, ?_⟩
  · simpa using one_le_frontRun (by simpa using filled)
  · simpa using frontRun_le_length (h.map (·.wasCorrect))
  · simpa using List.length_filter_le _ _

end Training

/-! ### The store lists the newest attempt first -/

namespace Store

/-- The clock never runs back: no stored attempt is stamped later than the clock's next
reading. -/
def Tables.ClockAhead (t : Tables) : Prop :=
  ∀ b ∈ t.attempts, b.attemptedAt ≤ t.stamps.nextTime.1

instance : DecidablePred Tables.ClockAhead := fun t =>
  inferInstanceAs (Decidable (∀ b ∈ t.attempts, b.attemptedAt ≤ t.stamps.nextTime.1))

/-- An attempt stamped no earlier than every other comes first, and a later insertion wins a tie
of stamps. -/
theorem newestFirst_append_latest {xs : List Training.Attempt} {a : Training.Attempt}
    (latest : ∀ b ∈ xs, b.attemptedAt ≤ a.attemptedAt) :
    newestFirst (xs ++ [a]) = a :: newestFirst xs := by
  have trans : ∀ x y z : Training.Attempt, decide (y.attemptedAt ≤ x.attemptedAt) = true →
      decide (z.attemptedAt ≤ y.attemptedAt) = true →
      decide (z.attemptedAt ≤ x.attemptedAt) = true := by
    intro x y z xy yz
    simp only [decide_eq_true_eq] at *
    exact le_trans yz xy
  have total : ∀ x y : Training.Attempt,
      (decide (y.attemptedAt ≤ x.attemptedAt) || decide (x.attemptedAt ≤ y.attemptedAt)) =
        true := by
    intro x y
    simpa using le_total y.attemptedAt x.attemptedAt
  obtain ⟨before, after, sorted, rest, later⟩ := List.mergeSort_cons trans total a xs.reverse
  have none : before = [] := by
    refine List.eq_nil_iff_forall_not_mem.mpr fun b member => ?_
    have old : b ∈ xs := by
      have := List.mem_mergeSort.mp (rest ▸ List.mem_append_left after member)
      simpa using this
    simpa [latest b old] using later b member
  subst none
  simp only [newestFirst, List.reverse_append, List.reverse_singleton, List.singleton_append]
  rw [sorted, List.nil_append, rest, List.nil_append]

/-- The statistics a submission returns, on a store whose clock never runs back: the fold over
the puzzle's history before the submission, with the new attempt in front. -/
theorem submitAttempt_stats {t t' : Tables} {owner puzzleId : String} {move : Option String}
    {timeSpent : Value} {a : Training.Attempt} {s : Training.Stats} (clock : t.ClockAhead)
    (ran : (submitAttempt owner puzzleId move timeSpent).run.run t = (.ok (a, s), t')) :
    s = Training.aggregate (a :: newestFirst
      (t.attempts.filter fun x => x.userId == owner && x.puzzleId == puzzleId)) := by
  cases filled : (Training.normalizeMove (move.getD "")).isEmpty
  · rcases found : t.ownPuzzle? owner puzzleId with _ | p
    · rw [submitAttempt_run_of_missing filled found] at ran
      cases ran
    rcases read : coerceTimeSpent timeSpent with f | time
    · rw [submitAttempt_run_of_unreadable filled found read] at ran
      cases ran
    cases large : time.any fun ms => (maxInteger : Int) < ms
    · rw [submitAttempt_run_of_found filled found read large] at ran
      obtain ⟨returned, -⟩ := Prod.mk.inj ran
      obtain ⟨rfl, rfl⟩ := Prod.mk.inj (Except.ok.inj returned)
      simp only [List.filter_append, List.filter_singleton, beq_self_eq_true, Bool.and_self,
        cond_true]
      exact congrArg Training.aggregate (newestFirst_append_latest fun b member =>
        clock b (List.mem_filter.mp member).1)
    · rw [submitAttempt_run_of_overflow filled found read large] at ran
      cases ran
  · rw [submitAttempt_run_of_empty filled] at ran
    cases ran

end Store

namespace Training

open Store

theorem aggregate_incremental :
    (∀ (h : List Attempt) (a : Attempt),
      (aggregate h).total = h.length ∧ (aggregate h).lastCorrect = h.head?.map (·.wasCorrect) ∧
        (aggregate h).Advances a (aggregate (a :: h))) ∧
    (∀ h : List Attempt, h ≠ [] →
      1 ≤ (aggregate h).streak ∧ (aggregate h).streak ≤ (aggregate h).total ∧
        (aggregate h).correct ≤ (aggregate h).total) ∧
    (∀ (t t' : Tables) (owner puzzleId : String) (move : Option String) (timeSpent : Value)
      (a : Attempt) (s : Stats), t.ClockAhead →
      (submitAttempt owner puzzleId move timeSpent).run.run t = (.ok (a, s), t') →
      ∃ h, ((attemptsOn owner puzzleId).run.run t).1 = .ok h ∧ s = aggregate (a :: h) ∧
        (aggregate h).Advances a s) := by
  refine ⟨fun h a => ⟨aggregate_total h, aggregate_lastCorrect h, aggregate_cons_advances h a⟩,
    fun h filled => aggregate_bounds filled, ?_⟩
  intro t t' owner puzzleId move timeSpent a s clock ran
  have stats := submitAttempt_stats clock ran
  refine ⟨_, by rw [attemptsOn_run], stats, ?_⟩
  rw [stats]
  exact aggregate_cons_advances _ a

/-- `user-1`'s second move on their puzzle, after one wrong move: the clock has run forward. -/
theorem aggregate_incremental_secondMove :
    failedOnceTables.ClockAhead ∧
      ∃ a s t', (submitAttempt "user-1" (uuidText 1) (some "e2e4") .null).run.run failedOnceTables =
          (.ok (a, s), t') ∧
        ∃ h, ((attemptsOn "user-1" (uuidText 1)).run.run failedOnceTables).1 = .ok h ∧
          s = aggregate (a :: h) ∧ (aggregate h).Advances a s := by
  have clock : failedOnceTables.ClockAhead := by decide +kernel
  have filled : (normalizeMove ((some "e2e4").getD "")).isEmpty = false := by decide +kernel
  obtain ⟨p, found⟩ := Option.isSome_iff_exists.mp
    (by decide +kernel : (failedOnceTables.ownPuzzle? "user-1" (uuidText 1)).isSome)
  have read : coerceTimeSpent .null = .ok none := rfl
  have ran := submitAttempt_run_of_found filled found read rfl
  exact ⟨clock, _, _, _, ran, aggregate_incremental.2.2 _ _ _ _ _ _ _ _ clock ran⟩

end Training
end Tactician
