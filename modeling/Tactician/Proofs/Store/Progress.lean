import Mathlib
import Tactician.Proofs.Store.Isolation

/-!
# A user's progress, four ways

Whether a user attempted, solved or failed a puzzle is computed four ways: the record filters of
the puzzle lists (`Filter.recordOk`), the distinct puzzle ids of the attempts the overview joins
with their puzzles, the statistics folded over one puzzle's history (`Training.aggregate`), and
the flag a preferring draw sorts by.  In a reachable store every attempt is on a puzzle of the
user who made it, and puzzle ids are distinct, so the four agree.

Main statement: `reachable_progressAgrees`.  The overview's totals are the totals of the lists
with the matching record filters, its tallies by framing and by bucket partition the user's
puzzles, a puzzle's statistics say solved or failed exactly when the solved or the failed list
holds it, and a draw that prefers failed puzzles gives every such puzzle before any other.
-/

namespace Tactician
namespace Store

open Analysis

/-! ### Counting distinct ids -/

theorem nodup_eraseDups {α : Type} [BEq α] [LawfulBEq α] : ∀ l : List α, l.eraseDups.Nodup
  | [] => List.nodup_nil
  | a :: rest => by
    rw [List.eraseDups_cons]
    refine List.nodup_cons.mpr ⟨?_, nodup_eraseDups _⟩
    simp [List.mem_eraseDups]
termination_by l => l.length
decreasing_by exact Nat.lt_succ_of_le (List.length_filter_le _ _)

/-- Distinct ids count the puzzles they name, when puzzle ids are distinct too. -/
theorem length_eq_of_ids {ids : List String} (distinct : ids.Nodup) {ps : List Puzzle}
    (named : (ps.map (·.id)).Nodup) (mem : ∀ x, x ∈ ids ↔ ∃ p ∈ ps, p.id = x) :
    ids.length = ps.length := by
  have perm : ids.Perm (ps.map (·.id)) :=
    (List.perm_ext_iff_of_nodup distinct named).mpr fun x => by simp [mem]
  rw [perm.length_eq, List.length_map]

theorem length_filter_contains {ids : List String} (distinct : ids.Nodup) {ps : List Puzzle}
    (named : (ps.map (·.id)).Nodup) (covered : ∀ x ∈ ids, ∃ p ∈ ps, p.id = x) :
    ids.length = (ps.filter (ids.contains ·.id)).length := by
  refine length_eq_of_ids distinct (named.sublist (List.filter_sublist.map _)) fun x => ?_
  constructor
  · intro member
    obtain ⟨p, puzzle, rfl⟩ := covered x member
    exact ⟨p, List.mem_filter.mpr ⟨puzzle, List.elem_iff.mpr member⟩, rfl⟩
  · rintro ⟨p, kept, rfl⟩
    exact List.elem_iff.mp (List.mem_filter.mp kept).2

/-! ### The record filters -/

section Record

variable {t : Tables} {u : String}

@[simp] theorem recordOk_attempted (p : Puzzle) :
    ({ solved := true, failed := true } : Filter).recordOk t p = t.attempted p := rfl

@[simp] theorem recordOk_solved (p : Puzzle) :
    ({ solved := true } : Filter).recordOk t p = t.solved p := rfl

@[simp] theorem recordOk_failed (p : Puzzle) :
    ({ failed := true } : Filter).recordOk t p = (t.attempted p && !t.solved p) := rfl

/-- A filter that asks about the record alone narrows by owner and record. -/
theorem admits_record (p : Puzzle) (s fl : Bool) :
    ({ solved := s, failed := fl } : Filter).admits t u p =
      (p.owner == u && ({ solved := s, failed := fl } : Filter).recordOk t p) := by
  have blank : (Text.trim "").isEmpty = true := by decide
  have empty : ("" : String).isEmpty = true := by decide
  simp [Filter.admits, Filter.openingOk, Filter.wantedTags, blank, empty]

theorem mem_matching_record {p : Puzzle} {s fl : Bool} :
    p ∈ t.matching u { solved := s, failed := fl } ↔
      p ∈ t.puzzles ∧ p.owner = u ∧
        ({ solved := s, failed := fl } : Filter).recordOk t p = true := by
  simp [Tables.matching, admits_record]

theorem matching_all : t.matching u {} = t.puzzles.filter (·.owner == u) := by
  simp only [Tables.matching]
  refine List.filter_congr fun p _ => ?_
  simp [admits_record, Filter.recordOk]

theorem Tables.attempted_iff {p : Puzzle} :
    t.attempted p = true ↔ ∃ a ∈ t.attempts, a.puzzleId = p.id ∧ a.userId = p.owner := by
  simp [Tables.attempted]

theorem Tables.solved_iff {p : Puzzle} :
    t.solved p = true ↔
      ∃ a ∈ t.attempts, a.puzzleId = p.id ∧ a.userId = p.owner ∧ a.wasCorrect = true := by
  simp [Tables.solved, and_assoc]

theorem Tables.attempted_of_solved {p : Puzzle} (solved : t.solved p = true) :
    t.attempted p = true := by
  obtain ⟨a, attempt, on, owned, -⟩ := Tables.solved_iff.mp solved
  exact Tables.attempted_iff.mpr ⟨a, attempt, on, owned⟩

/-- The attempted puzzles split into the solved ones and the failed ones. -/
theorem length_matching_split :
    (t.matching u { failed := true }).length + (t.matching u { solved := true }).length =
      (t.matching u { solved := true, failed := true }).length := by
  have split := (List.filter_append_perm (t.solved ·)
    (t.matching u { solved := true, failed := true })).length_eq
  have solvedPart : (t.matching u { solved := true, failed := true }).filter (t.solved ·) =
      t.matching u { solved := true } := by
    simp only [Tables.matching, List.filter_filter]
    refine List.filter_congr fun p _ => ?_
    cases solved : t.solved p
    · simp [admits_record, solved]
    · simp [admits_record, solved, Tables.attempted_of_solved solved]
  have failedPart : (t.matching u { solved := true, failed := true }).filter (!t.solved ·) =
      t.matching u { failed := true } := by
    simp only [Tables.matching, List.filter_filter]
    refine List.filter_congr fun p _ => ?_
    cases solved : t.solved p <;> simp [admits_record, solved]
  rw [List.length_append, solvedPart, failedPart] at split
  omega

theorem listPuzzles_total {page limit : Int} (f : Filter)
    (fits : (max 1 page - 1) * max 1 (min maxPageSize limit) ≤ maxInteger) :
    ∃ ps, ((listPuzzles u page limit f).run.run t).1 = .ok ((t.matching u f).length, ps) :=
  ⟨_, by rw [listPuzzles_run, if_neg (not_lt.mpr fits)]⟩

end Record

/-! ### The ids the overview collects -/

section Overview

variable {t : Tables} {u : String}

theorem Tables.Consistent.filter_ids (c : t.Consistent) (keep : Puzzle → Bool) :
    ((t.puzzles.filter keep).map (·.id)).Nodup :=
  c.puzzleIds.sublist (List.filter_sublist.map _)

/-- In a consistent store the join finds every attempt's puzzle, so it drops no attempt. -/
theorem mem_userAttempts (c : t.Consistent) {a : Training.Attempt} :
    (∃ p, (a, p) ∈ t.userAttempts u) ↔ a ∈ t.attempts ∧ a.userId = u := by
  simp only [Tables.userAttempts, List.mem_filterMap, Option.map_eq_some_iff, Prod.mk.injEq,
    mem_newestFirst, List.mem_filter, beq_iff_eq]
  constructor
  · rintro ⟨_, _, ⟨member, owned⟩, _, -, rfl, rfl⟩
    exact ⟨member, owned⟩
  · rintro ⟨member, owned⟩
    obtain ⟨p, puzzle, named, -⟩ := c.attemptPuzzle a member
    have present : (t.puzzles.find? (·.id == a.puzzleId)).isSome :=
      List.find?_isSome.mpr ⟨p, puzzle, beq_iff_eq.mpr named⟩
    obtain ⟨q, found⟩ := Option.isSome_iff_exists.mp present
    exact ⟨q, a, ⟨member, owned⟩, q, found, rfl, rfl⟩

theorem mem_userAttempts_ids (c : t.Consistent) (keep : Training.Attempt → Bool) {x : String} :
    x ∈ ((t.userAttempts u).filter (keep ·.1)).map (·.1.puzzleId) ↔
      ∃ a ∈ t.attempts, a.userId = u ∧ keep a = true ∧ a.puzzleId = x := by
  simp only [List.mem_map, List.mem_filter, Prod.exists]
  constructor
  · rintro ⟨a, p, ⟨joined, kept⟩, rfl⟩
    obtain ⟨attempt, owned⟩ := (mem_userAttempts c).mp ⟨p, joined⟩
    exact ⟨a, attempt, owned, kept, rfl⟩
  · rintro ⟨a, attempt, owned, kept, rfl⟩
    obtain ⟨p, joined⟩ := (mem_userAttempts c).mpr ⟨attempt, owned⟩
    exact ⟨a, p, ⟨joined, kept⟩, rfl⟩

/-- The user's attempts of a kind name exactly the user's puzzles with such an attempt. -/
theorem exists_attempt_iff (c : t.Consistent) (keep : Training.Attempt → Bool) {x : String} :
    (∃ a ∈ t.attempts, a.userId = u ∧ keep a = true ∧ a.puzzleId = x) ↔
      ∃ p ∈ t.puzzles, p.owner = u ∧
        (∃ a ∈ t.attempts, a.puzzleId = p.id ∧ a.userId = p.owner ∧ keep a = true) ∧ p.id = x := by
  constructor
  · rintro ⟨a, attempt, owned, kept, rfl⟩
    obtain ⟨p, puzzle, named, owner⟩ := c.attemptPuzzle a attempt
    exact ⟨p, puzzle, owner.trans owned, ⟨a, attempt, named.symm, owner.symm, kept⟩, named⟩
  · rintro ⟨p, -, owner, ⟨a, attempt, named, owned, kept⟩, rfl⟩
    exact ⟨a, attempt, owned.trans owner, kept, named⟩

theorem mem_attemptedIds (c : t.Consistent) {x : String} :
    x ∈ ((t.userAttempts u).map (·.1.puzzleId)).eraseDups ↔
      ∃ p ∈ t.matching u { solved := true, failed := true }, p.id = x := by
  have joined := mem_userAttempts_ids (u := u) c (fun _ => true) (x := x)
  rw [List.filter_true] at joined
  rw [List.mem_eraseDups, joined, exists_attempt_iff c (fun _ => true)]
  simp [mem_matching_record, Tables.attempted_iff, and_assoc]

theorem mem_solvedIds (c : t.Consistent) {x : String} :
    x ∈ (((t.userAttempts u).filter (·.1.wasCorrect)).map (·.1.puzzleId)).eraseDups ↔
      ∃ p ∈ t.matching u { solved := true }, p.id = x := by
  rw [List.mem_eraseDups, mem_userAttempts_ids c, exists_attempt_iff c]
  simp [mem_matching_record, Tables.solved_iff, and_assoc]

theorem length_attemptedIds (c : t.Consistent) :
    ((t.userAttempts u).map (·.1.puzzleId)).eraseDups.length =
      (t.matching u { solved := true, failed := true }).length :=
  length_eq_of_ids (nodup_eraseDups _) (c.filter_ids _) fun _ => mem_attemptedIds c

theorem length_solvedIds (c : t.Consistent) :
    (((t.userAttempts u).filter (·.1.wasCorrect)).map (·.1.puzzleId)).eraseDups.length =
      (t.matching u { solved := true }).length :=
  length_eq_of_ids (nodup_eraseDups _) (c.filter_ids _) fun _ => mem_solvedIds c

theorem own_of_matching {f : Filter} {x : String} (named : ∃ p ∈ t.matching u f, p.id = x) :
    ∃ p ∈ t.puzzles.filter (·.owner == u), p.id = x := by
  obtain ⟨p, member, rfl⟩ := named
  obtain ⟨puzzle, owned⟩ := mem_matching member
  exact ⟨p, List.mem_filter.mpr ⟨puzzle, beq_iff_eq.mpr owned⟩, rfl⟩

end Overview

/-! ### Tallies -/

/-- Groups with distinct keys whose counts add up to `puzzles`, `attempted` and `solved`. -/
structure SumsTo (groups : List (String × Tally)) (puzzles attempted solved : Nat) : Prop where
  keys : (groups.map (·.1)).Nodup
  puzzles : (groups.map (·.2.puzzles)).sum = puzzles
  attempted : (groups.map (·.2.attempted)).sum = attempted
  solved : (groups.map (·.2.solved)).sum = solved

theorem SumsTo.nil : SumsTo [] 0 0 0 :=
  ⟨List.nodup_nil, rfl, rfl, rfl⟩

theorem keys_addToTally (key : String) (attempted solved : Bool) :
    ∀ groups : List (String × Tally), (addToTally key attempted solved groups).map (·.1) =
      if key ∈ groups.map (·.1) then groups.map (·.1) else groups.map (·.1) ++ [key]
  | [] => by simp [addToTally]
  | (k, g) :: rest => by
    by_cases same : k = key
    · simp [addToTally, same]
    · have ih := keys_addToTally key attempted solved rest
      by_cases old : key ∈ rest.map (·.1) <;> simp_all [addToTally, Ne.symm same]

theorem sums_addToTally (key : String) (attempted solved : Bool) :
    ∀ groups : List (String × Tally),
      ((addToTally key attempted solved groups).map (·.2.puzzles)).sum =
          (groups.map (·.2.puzzles)).sum + 1 ∧
        ((addToTally key attempted solved groups).map (·.2.attempted)).sum =
          (groups.map (·.2.attempted)).sum + (if attempted then 1 else 0) ∧
        ((addToTally key attempted solved groups).map (·.2.solved)).sum =
          (groups.map (·.2.solved)).sum + (if solved then 1 else 0)
  | [] => by simp [addToTally]
  | (k, g) :: rest => by
    obtain ⟨puzzles, attempts, solves⟩ := sums_addToTally key attempted solved rest
    by_cases same : k = key
    · simp [addToTally, same]
      omega
    · simp [addToTally, same, puzzles, attempts, solves]
      omega

/-- Adding one puzzle to a tally adds one to its puzzles and to the counts it is in. -/
theorem SumsTo.addToTally {groups : List (String × Tally)} {n a s : Nat}
    (sums : SumsTo groups n a s) (key : String) (attempted solved : Bool) :
    SumsTo (addToTally key attempted solved groups) (n + 1) (a + if attempted then 1 else 0)
      (s + if solved then 1 else 0) := by
  obtain ⟨puzzles, attempts, solves⟩ := sums_addToTally key attempted solved groups
  refine ⟨?_, by rw [puzzles, sums.puzzles], by rw [attempts, sums.attempted],
    by rw [solves, sums.solved]⟩
  rw [keys_addToTally]
  split
  · exact sums.keys
  · next fresh => exact sums.keys.append (List.nodup_singleton key) (by simpa using fresh)

theorem SumsTo.foldl {groups : List (String × Tally)} {n a s : Nat} (sums : SumsTo groups n a s)
    (key : Puzzle → String) (attempted solved : Puzzle → Bool) (ps : List Puzzle) :
    SumsTo (ps.foldl (fun acc p => Store.addToTally (key p) (attempted p) (solved p) acc) groups)
      (n + ps.length) (a + (ps.filter attempted).length) (s + (ps.filter solved).length) := by
  induction ps generalizing groups n a s with
  | nil => simpa using sums
  | cons p rest ih =>
    have counted : ∀ (keep : Puzzle → Bool) (m : Nat), m + ((p :: rest).filter keep).length =
        (m + if keep p then 1 else 0) + (rest.filter keep).length := by
      intro keep m
      cases kept : keep p
      · simp [kept]
      · simp [kept]
        omega
    have length : n + (rest.length + 1) = n + 1 + rest.length := by omega
    rw [List.foldl_cons, List.length_cons, length, counted attempted, counted solved]
    exact ih (sums.addToTally (key p) (attempted p) (solved p))

/-- A tally of puzzles by any key partitions them, counting the attempted and the solved ones by
the ids it is given. -/
theorem SumsTo.tallyBy {attemptedIds solvedIds : List String} (attemptedOnce : attemptedIds.Nodup)
    (solvedOnce : solvedIds.Nodup) {ps : List Puzzle} (named : (ps.map (·.id)).Nodup)
    (attemptedOwn : ∀ x ∈ attemptedIds, ∃ p ∈ ps, p.id = x)
    (solvedOwn : ∀ x ∈ solvedIds, ∃ p ∈ ps, p.id = x) (key : Puzzle → String) :
    SumsTo (tallyBy key attemptedIds solvedIds ps) ps.length attemptedIds.length
      solvedIds.length := by
  have sums := SumsTo.nil.foldl key (attemptedIds.contains ·.id) (solvedIds.contains ·.id) ps
  simp only [Nat.zero_add] at sums
  rw [length_filter_contains attemptedOnce named attemptedOwn,
    length_filter_contains solvedOnce named solvedOwn]
  exact sums

/-! ### One puzzle's statistics -/

theorem aggregate_solved (xs : List Training.Attempt) :
    (Training.aggregate xs).solved = true ↔ ∃ a ∈ xs, a.wasCorrect = true := by
  cases xs with
  | nil => simp [Training.aggregate]
  | cons a rest => simp [Training.aggregate, List.getLast?_cons]

theorem aggregate_failed (xs : List Training.Attempt) :
    (Training.aggregate xs).failed = true ↔
      (∃ a, a ∈ xs) ∧ ∀ a ∈ xs, a.wasCorrect = false := by
  cases xs with
  | nil => simp [Training.aggregate]
  | cons a rest => simp [Training.aggregate, List.getLast?_cons]

section History

variable {t : Tables} {u : String} {p : Puzzle}

theorem mem_attemptHistory (owned : p.owner = u) {a : Training.Attempt} :
    a ∈ newestFirst (t.attempts.filter fun a => a.userId == u && a.puzzleId == p.id) ↔
      a ∈ t.attempts ∧ a.puzzleId = p.id ∧ a.userId = p.owner := by
  simp only [mem_newestFirst, List.mem_filter, Bool.and_eq_true, beq_iff_eq, owned]
  tauto

theorem aggregate_attemptsOn_solved (puzzle : p ∈ t.puzzles) (owned : p.owner = u) :
    (Training.aggregate (newestFirst
        (t.attempts.filter fun a => a.userId == u && a.puzzleId == p.id))).solved = true ↔
      p ∈ t.matching u { solved := true } := by
  rw [aggregate_solved, mem_matching_record, recordOk_solved, Tables.solved_iff]
  simp only [mem_attemptHistory owned, puzzle, owned, true_and, and_assoc]

theorem aggregate_attemptsOn_failed (puzzle : p ∈ t.puzzles) (owned : p.owner = u) :
    (Training.aggregate (newestFirst
        (t.attempts.filter fun a => a.userId == u && a.puzzleId == p.id))).failed = true ↔
      p ∈ t.matching u { failed := true } := by
  rw [aggregate_failed, mem_matching_record, recordOk_failed, Bool.and_eq_true, Bool.not_eq_true',
    Tables.attempted_iff, ← Bool.not_eq_true, Tables.solved_iff]
  simp only [mem_attemptHistory owned, puzzle, owned, true_and, not_exists, not_and,
    Bool.not_eq_true, and_imp]

end History

/-! ### Drawing failed puzzles first -/

section Draw

variable {t : Tables} {u : String}

theorem drawPuzzles_preferred_run (order : DrawOrder) (count : Int) (exclude : List String)
    (f : Filter) :
    ((drawPuzzles order u count exclude true f).run.run t).1 =
      .ok (let pool := ((t.matching u f).mergeSort fun a b => a.id ≤ b.id).filter
             fun p => !exclude.contains p.id
           (order.failed (pool.filter (({ failed := true } : Filter).recordOk t)) ++
              order.others (pool.filter (!({ failed := true } : Filter).recordOk t ·))).take
             (max 1 (min maxDrawCount count)).toNat) :=
  rfl

theorem mem_drawPool {f : Filter} {exclude : List String} {p : Puzzle} :
    p ∈ ((t.matching u f).mergeSort fun a b => a.id ≤ b.id).filter
        (fun p => !exclude.contains p.id) ↔
      p ∈ t.matching u f ∧ p.id ∉ exclude := by
  simp [List.mem_mergeSort]

theorem drawPool_nodup (c : t.Consistent) (f : Filter) (exclude : List String) :
    (((t.matching u f).mergeSort fun a b => a.id ≤ b.id).filter
      (fun p => !exclude.contains p.id)).Nodup :=
  (((c.filter_ids _).of_map _).perm (List.mergeSort_perm _ _).symm).filter _

/-- Any draw, in any order and with or without preference, changes nothing and takes distinct
puzzles of the pool, as many as it may or as the pool holds. -/
theorem drawPuzzles_draws_pool (c : t.Consistent) (order : DrawOrder) (count : Int)
    (exclude : List String) (preferFailed : Bool) (f : Filter) :
    ∃ ps, (drawPuzzles order u count exclude preferFailed f).run.run t = (.ok ps, t) ∧ ps.Nodup ∧
      (∀ p ∈ ps, p ∈ t.matching u f ∧ p.id ∉ exclude) ∧
      ps.length = min (max 1 (min maxDrawCount count)).toNat
        ((t.matching u f).filter fun p => !exclude.contains p.id).length := by
  have ordered := DrawOrder.ordered_perm order
    (((t.matching u f).mergeSort fun a b => a.id ≤ b.id).filter fun p => !exclude.contains p.id)
    (fun p => t.attempted p && !t.solved p) preferFailed
  have sorted := (List.mergeSort_perm (t.matching u f) fun a b => a.id ≤ b.id).filter
    fun p => !exclude.contains p.id
  refine ⟨_, rfl,
    (ordered.nodup_iff.mpr (drawPool_nodup c f exclude)).sublist (List.take_sublist _ _),
    fun p member => mem_drawPool.mp (ordered.mem_iff.mp (List.mem_of_mem_take member)), ?_⟩
  rw [List.length_take, ordered.length_eq, sorted.length_eq]

/-- A draw that prefers failed puzzles, in any order, takes from the non-excluded failed ones
first, each once, then from the others. -/
theorem drawPuzzles_prefers_failed (c : t.Consistent) (order : DrawOrder) (count : Int)
    (exclude : List String) (f : Filter) :
    ∃ ps, ((drawPuzzles order u count exclude true f).run.run t).1 = .ok ps ∧
      ∃ failed others : List Puzzle, (failed ++ others).Nodup ∧
        ps = (failed ++ others).take (max 1 (min maxDrawCount count)).toNat ∧
        (∀ p, p ∈ failed ↔
          p ∈ t.matching u f ∧ p.id ∉ exclude ∧ p ∈ t.matching u { failed := true }) ∧
        (∀ p, p ∈ others ↔
          p ∈ t.matching u f ∧ p.id ∉ exclude ∧ p ∉ t.matching u { failed := true }) := by
  have pooled := @mem_drawPool t u f exclude
  have failing : ∀ p, p ∈ t.matching u f →
      (p ∈ t.matching u { failed := true } ↔
        ({ failed := true } : Filter).recordOk t p = true) := by
    intro p member
    obtain ⟨puzzle, owned⟩ := mem_matching member
    simp [mem_matching_record, puzzle, owned, -recordOk_failed]
  refine ⟨_, drawPuzzles_preferred_run order count exclude f, _, _,
    ((order.failed_perm _).append (order.others_perm _)).nodup_iff.mpr
      ((List.filter_append_perm _ _).nodup_iff.mpr (drawPool_nodup c f exclude)), rfl,
    fun p => ?_, fun p => ?_⟩
  · rw [(order.failed_perm _).mem_iff, List.mem_filter, pooled, and_assoc]
    exact and_congr_right fun member => and_congr_right fun _ => (failing p member).symm
  · rw [(order.others_perm _).mem_iff, List.mem_filter, pooled, and_assoc, Bool.not_eq_true',
      ← Bool.not_eq_true]
    exact and_congr_right fun member => and_congr_right fun _ => (failing p member).not.symm

end Draw

/-! ### The four views agree -/

/-- How a user's overview `o` of a store `t` agrees with the user's puzzle lists, with the
statistics of each of the user's puzzles and with a draw that prefers failed puzzles. -/
structure ProgressAgrees (u : String) (t : Tables) (o : Overview) : Prop where
  puzzles : ∀ page limit, (max 1 page - 1) * max 1 (min maxPageSize limit) ≤ maxInteger →
    ∃ ps, ((listPuzzles u page limit {}).run.run t).1 = .ok (o.puzzles, ps)
  attempted : ∀ page limit, (max 1 page - 1) * max 1 (min maxPageSize limit) ≤ maxInteger →
    ∃ ps, ((listPuzzles u page limit { solved := true, failed := true }).run.run t).1 =
      .ok (o.attempted, ps)
  solved : ∀ page limit, (max 1 page - 1) * max 1 (min maxPageSize limit) ≤ maxInteger →
    ∃ ps, ((listPuzzles u page limit { solved := true }).run.run t).1 = .ok (o.solved, ps)
  failed : ∀ page limit, (max 1 page - 1) * max 1 (min maxPageSize limit) ≤ maxInteger →
    ∃ ps, ((listPuzzles u page limit { failed := true }).run.run t).1 =
      .ok (o.attempted - o.solved, ps)
  solvedAttempted : o.solved ≤ o.attempted
  correct : o.correctAttempts ≤ o.attempts
  byType : SumsTo o.byType o.puzzles o.attempted o.solved
  byKind : SumsTo o.byKind o.puzzles o.attempted o.solved
  history : ∀ p ∈ t.puzzles, p.owner = u → ∃ xs, ((attemptsOn u p.id).run.run t).1 = .ok xs ∧
    ((Training.aggregate xs).solved = true ↔ p ∈ t.matching u { solved := true }) ∧
    ((Training.aggregate xs).failed = true ↔ p ∈ t.matching u { failed := true })
  draw : ∀ order count exclude f,
    ∃ ps, ((drawPuzzles order u count exclude true f).run.run t).1 = .ok ps ∧
    ∃ failed others : List Puzzle, (failed ++ others).Nodup ∧
      ps = (failed ++ others).take (max 1 (min maxDrawCount count)).toNat ∧
      (∀ p, p ∈ failed ↔
        p ∈ t.matching u f ∧ p.id ∉ exclude ∧ p ∈ t.matching u { failed := true }) ∧
      (∀ p, p ∈ others ↔
        p ∈ t.matching u f ∧ p.id ∉ exclude ∧ p ∉ t.matching u { failed := true })

theorem reachable_progressAgrees {t : Tables} (reach : Reachable t) (u : String) :
    ∃ o, ((overview u).run.run t).1 = .ok o ∧ ProgressAgrees u t o := by
  have c := reach.consistent
  have attempted := length_attemptedIds (u := u) c
  have solved := length_solvedIds (u := u) c
  have split := length_matching_split (t := t) (u := u)
  have byKey := SumsTo.tallyBy (nodup_eraseDups _) (nodup_eraseDups _)
    (c.filter_ids (·.owner == u))
    (fun _ member => own_of_matching ((mem_attemptedIds c).mp member))
    (fun _ member => own_of_matching ((mem_solvedIds c).mp member))
  refine ⟨_, rfl, ?_⟩
  constructor
  · intro page limit fits
    rw [← matching_all]
    exact listPuzzles_total _ fits
  · intro page limit fits
    dsimp only
    rw [attempted]
    exact listPuzzles_total _ fits
  · intro page limit fits
    dsimp only
    rw [solved]
    exact listPuzzles_total _ fits
  · intro page limit fits
    dsimp only
    rw [attempted, solved, ← split, Nat.add_sub_cancel]
    exact listPuzzles_total _ fits
  · dsimp only
    omega
  · exact List.length_filter_le _ _
  · exact byKey _
  · exact byKey _
  · intro p puzzle owned
    exact ⟨_, rfl, aggregate_attemptsOn_solved puzzle owned,
      aggregate_attemptsOn_failed puzzle owned⟩
  · exact drawPuzzles_prefers_failed c

theorem progressAgrees_failedOnce :
    Reachable failedOnceTables ∧
      ∃ o, ((overview "user-1").run.run failedOnceTables).1 = .ok o ∧
        ProgressAgrees "user-1" failedOnceTables o :=
  ⟨reachable_failedOnceTables, reachable_progressAgrees reachable_failedOnceTables "user-1"⟩

end Store
end Tactician
