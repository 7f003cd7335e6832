import Mathlib
import Tactician.Proofs.Engine.Snapshots

/-!
# The analysis cache is least recently used

An evaluator answers blocking analyses through a cache keyed by position text, time and lines
(`analysisKey`).  Read against the analyses it served, key and answer in order, the cache holds
the latest answers under the most recently used keys, as many as its size allows, least recent
first (`CachesLRU`).  A call whose key is among them answers from the cache, taking no engine and
leaving the host as it was.  Any other call refuses a malformed position before any search, and
otherwise runs a search whose result, when it has one, becomes the most recent entry.

Main statement: `analyse_caches_recent_keys`.
-/

namespace Tactician
namespace Engine

open Analysis

/-! ### The most recently used keys -/

/-- The key of a blocking analysis: position text, time and lines. -/
def analysisKey (fen : String) (movetime lines : Int) : String :=
  fen ++ "::" ++ toString movetime ++ "::" ++ toString lines

/-- The `size` most recently used of the keys `used`, least recent first. -/
def recentKeys {α : Type} [DecidableEq α] (size : Nat) (used : List α) : List α :=
  used.dedup.drop (used.dedup.length - size)

section Recent

variable {α : Type} [DecidableEq α] {size : Nat} {used : List α} {k : α}

/-- Using a key once more moves it to the end of the keys in the order of their last use. -/
theorem dedup_append_singleton (l : List α) (k : α) :
    (l ++ [k]).dedup = l.dedup.erase k ++ [k] := by
  induction l with
  | nil => simp
  | cons a rest ih =>
    by_cases later : a ∈ rest
    · rw [List.cons_append, List.dedup_cons_of_mem (List.mem_append_left _ later), ih,
        List.dedup_cons_of_mem later]
    · by_cases same : a = k
      · subst same
        have unused : a ∉ rest.dedup := by rwa [List.mem_dedup]
        rw [List.cons_append, List.dedup_cons_of_mem (by simp), ih,
          List.dedup_cons_of_notMem later, List.erase_cons_head, List.erase_of_not_mem unused]
      · rw [List.cons_append, List.dedup_cons_of_notMem (by simp [later, same]), ih,
          List.dedup_cons_of_notMem later, List.erase_cons_tail (by simpa using same)]
        rfl

theorem nodup_recentKeys (size : Nat) (used : List α) : (recentKeys size used).Nodup :=
  (List.nodup_dedup used).sublist (List.drop_sublist _ _)

theorem length_recentKeys_le (size : Nat) (used : List α) :
    (recentKeys size used).length ≤ size := by
  simp only [recentKeys, List.length_drop]
  omega

/-- A use of a recent key moves it to the most recent end. -/
theorem recentKeys_append_of_mem (recent : k ∈ recentKeys size used) :
    recentKeys size (used ++ [k]) = (recentKeys size used).erase k ++ [k] := by
  have split := List.take_append_drop (used.dedup.length - size) used.dedup
  have fresh : k ∉ used.dedup.take (used.dedup.length - size) := fun stale =>
    List.disjoint_take_drop (List.nodup_dedup used) le_rfl stale recent
  have known : k ∈ used.dedup := List.mem_of_mem_drop recent
  have erased : used.dedup.erase k = used.dedup.take (used.dedup.length - size) ++
      (recentKeys size used).erase k := by
    conv_lhs => rw [← split]
    exact List.erase_append_right _ fresh
  rw [recentKeys, dedup_append_singleton, List.length_append, List.length_erase_of_mem known,
    erased, List.append_assoc, List.length_singleton]
  refine List.drop_left' ?_
  have pos := List.length_pos_of_mem known
  simp only [List.length_take]
  omega

/-- A use of a key that is not recent adds it at the most recent end, dropping the least recent
one when there were already `size`. -/
theorem recentKeys_append_of_not_mem (fresh : k ∉ recentKeys size used) :
    recentKeys size (used ++ [k]) =
      (recentKeys size used ++ [k]).drop ((recentKeys size used).length + 1 - size) := by
  have split := List.take_append_drop (used.dedup.length - size) used.dedup
  by_cases stale : k ∈ used.dedup.take (used.dedup.length - size)
  · have erased : used.dedup.erase k =
        (used.dedup.take (used.dedup.length - size)).erase k ++ recentKeys size used := by
      conv_lhs => rw [← split]
      exact List.erase_append_left _ stale
    have long : size < used.dedup.length := by
      have := List.length_pos_of_mem stale
      simp only [List.length_take] at this
      omega
    have known : k ∈ used.dedup := List.mem_of_mem_take stale
    have shorter := List.length_erase_of_mem stale
    rw [List.length_take] at shorter
    rw [recentKeys, dedup_append_singleton, List.length_append, List.length_erase_of_mem known,
      erased, List.append_assoc, List.length_singleton, List.drop_append,
      List.drop_eq_nil_of_le (by omega), List.nil_append, shorter]
    congr 1
    rw [recentKeys, List.length_drop]
    omega
  · have unknown : k ∉ used.dedup := by
      rw [← split, List.mem_append]
      exact fun known => known.elim stale fresh
    rw [recentKeys, dedup_append_singleton, List.erase_of_not_mem unknown]
    conv_lhs => rw [← split, List.append_assoc]
    rw [List.drop_append, List.drop_eq_nil_of_le (by simp only [List.length_append,
      List.length_take, List.length_drop, List.length_singleton]; omega), List.nil_append]
    congr 1
    simp only [recentKeys, List.length_append, List.length_take, List.length_drop,
      List.length_singleton]
    omega

end Recent

/-! ### One analysis -/

section Analyse

variable {σ : Type} (host : Host σ) (pool : Pool) (st : σ)

theorem takeEngine_run : ∃ r engines,
    (takeEngine host).run (pool, st) = (r, ({ pool with engines := engines }, st)) := by
  rcases pool with ⟨path, engines, cache, size⟩
  rcases engines with _ | ⟨alive, rest⟩
  · exact ⟨.ok (), [], rfl⟩
  cases alive
  · cases launched : host.launch path with
    | error e => exact ⟨_, rest ++ [false], by simp [takeEngine, launched]; rfl⟩
    | ok u => exact ⟨_, rest ++ [true], by simp [takeEngine, launched]; rfl⟩
  · exact ⟨.ok (), rest ++ [true], rfl⟩

theorem EngineM.run_modify (f : Pool × σ → Pool × σ) (s : Pool × σ) :
    (modify f : EngineM σ Unit).run s = ((), f s) := rfl

theorem EngineM.run_pure {α : Type} (a : α) (s : Pool × σ) :
    (pure a : EngineM σ α).run s = (a, s) := rfl

theorem EngineM.run_get (s : Pool × σ) : (get : EngineM σ (Pool × σ)).run s = (s, s) := rfl

theorem hostSearch_run (p : Chess.Position) (wanted : Nat) (args : String) :
    ∃ out st', (hostSearch host p wanted args).run (pool, st) = (out, (pool, st')) := by
  simp only [hostSearch, EngineM.run_bind, EngineM.run_get]
  rcases (host.go p.fenWithPassing wanted args).run st with ⟨out, s'⟩
  cases out <;> exact ⟨_, _, rfl⟩

theorem markLastDead_run :
    (markLastDead : EngineM σ Unit).run (pool, st) =
      ((), ({ pool with engines := pool.engines.dropLast ++ [false] }, st)) := rfl

theorem runSearch_keeps (fen : String) (p : Chess.Position) (lines : Int)
    (depth movetime : Option Int) :
    ((runSearch host fen p lines depth movetime).run (pool, st)).2.1.cache = pool.cache ∧
      ((runSearch host fen p lines depth movetime).run (pool, st)).2.1.cacheSize =
        pool.cacheSize := by
  simp only [runSearch, EngineM.run_bind]
  obtain ⟨r, engines, taken⟩ := takeEngine_run host pool st
  rw [taken]
  cases r with
  | error f => exact ⟨rfl, rfl⟩
  | ok u =>
    dsimp only
    split
    · exact ⟨rfl, rfl⟩
    · rw [EngineM.run_bind]
      obtain ⟨out, st', searched⟩ := hostSearch_run host { pool with engines := engines } st p
        (min (max 1 lines).toNat p.legalMoves.length) (goArguments depth movetime)
      rw [searched]
      cases out <;> exact ⟨rfl, rfl⟩

theorem analyse_cases (fen : String) (movetime lines : Int) :
    let out := (analyse host fen movetime lines).run (pool, st)
    (∃ k e, pool.cache.find? (·.1 == analysisKey fen movetime lines) = some (k, e) ∧
      out = (.ok e, ({ pool with
        cache := pool.cache.filter (·.1 != analysisKey fen movetime lines) ++
          [(analysisKey fen movetime lines, e)] }, st))) ∨
    (pool.cache.find? (·.1 == analysisKey fen movetime lines) = none ∧
      ∃ err, Chess.Position.ofFen fen = .error err ∧ out = (.error (.badFen err), (pool, st))) ∨
    (pool.cache.find? (·.1 == analysisKey fen movetime lines) = none ∧
      ∃ p, Chess.Position.ofFen fen = .ok p ∧
      let searched := (runSearch host fen p lines none (timeLimit (some movetime))).run (pool, st)
      out.1 = searchResult fen searched.1.1 searched.1.2 ∧ out.2.2 = searched.2.2 ∧
      out.2.1.engines = searched.2.1.engines ∧ out.2.1.cacheSize = pool.cacheSize ∧
      (∀ e, out.1 = .ok e → out.2.1.cache =
        (pool.cache ++ [(analysisKey fen movetime lines, e)]).drop
          ((pool.cache ++ [(analysisKey fen movetime lines, e)]).length - pool.cacheSize)) ∧
      (out.1.toOption = none → out.2.1.cache = pool.cache)) := by
  intro out
  simp only [out, analyse, analysisKey, EngineM.run_bind, EngineM.run_get]
  split
  · next k e found => exact .inl ⟨k, e, found, rfl⟩
  · next missing =>
    split
    · next err bad => exact .inr (.inl ⟨missing, err, bad, rfl⟩)
    · next p good =>
      refine .inr (.inr ⟨missing, p, good, ?_⟩)
      obtain ⟨kept, sized⟩ :=
        runSearch_keeps host pool st fen p lines none (timeLimit (some movetime))
      rw [EngineM.run_bind]
      generalize (runSearch host fen p lines none (timeLimit (some movetime))).run (pool, st) =
        searched at kept sized ⊢
      rcases searched with ⟨⟨record, failure⟩, pool1, st1⟩
      dsimp only at kept sized ⊢
      split
      · next e found =>
        simp only [EngineM.run_bind, EngineM.run_modify, EngineM.run_pure]
        refine ⟨trivial, trivial, trivial, sized, fun e' answered => ?_, fun unanswered => ?_⟩
        · rw [found, Except.ok.injEq] at answered
          rw [← answered, kept, sized]
        · rw [found] at unanswered
          cases unanswered
      · next nothing =>
        simp only [EngineM.run_pure]
        refine ⟨trivial, trivial, trivial, sized, fun e answered => absurd answered (nothing e),
          fun _ => kept⟩

end Analyse

/-! ### The cache against the analyses served -/

/-- The cache after serving the analyses `served`, key and answer in order: it holds the `size`
most recently used keys, least recent first, each with its latest answer. -/
structure CachesLRU (size : Nat) (served cache : List (String × Evaluation)) : Prop where
  keys : cache.map (·.1) = recentKeys size (served.map (·.1))
  answers : ∀ e ∈ cache, served.reverse.lookup e.1 = some e.2

namespace CachesLRU

variable {size : Nat} {served cache : List (String × Evaluation)} {key : String} {e : Evaluation}

theorem nil (size : Nat) : CachesLRU size [] [] := ⟨by simp [recentKeys], fun _ mem => by cases mem⟩

theorem length_le (lru : CachesLRU size served cache) : cache.length ≤ size := by
  have same := congrArg List.length lru.keys
  rw [List.length_map] at same
  exact same ▸ length_recentKeys_le size _

theorem nodup (lru : CachesLRU size served cache) : (cache.map (·.1)).Nodup :=
  lru.keys ▸ nodup_recentKeys _ _

/-- A recent key is found in the cache, with its latest answer. -/
theorem find?_of_recent (lru : CachesLRU size served cache)
    (recent : key ∈ recentKeys size (served.map (·.1))) :
    ∃ e, served.reverse.lookup key = some e ∧ cache.find? (·.1 == key) = some (key, e) := by
  rw [← lru.keys] at recent
  obtain ⟨⟨k, e⟩, mem, same⟩ := List.mem_map.mp recent
  have : k = key := same
  subst this
  refine ⟨e, lru.answers _ mem, ?_⟩
  cases found : cache.find? (·.1 == k) with
  | none => exact absurd (List.find?_eq_none.mp found _ mem) (by simp)
  | some x =>
    have xkey : x.1 = k := by simpa using List.find?_some found
    rw [List.inj_on_of_nodup_map lru.nodup (List.mem_of_find?_eq_some found) mem xkey]

/-- A key that is not recent is not in the cache. -/
theorem find?_of_not_recent (lru : CachesLRU size served cache)
    (stale : key ∉ recentKeys size (served.map (·.1))) : cache.find? (·.1 == key) = none :=
  List.find?_eq_none.mpr fun x mem same =>
    stale (lru.keys ▸ List.mem_map.mpr ⟨x, mem, by simpa using same⟩)

/-- A key is missing from the cache exactly when it is not recent. -/
theorem find?_eq_none_iff (lru : CachesLRU size served cache) :
    cache.find? (·.1 == key) = none ↔ key ∉ recentKeys size (served.map (·.1)) := by
  refine ⟨fun missing recent => ?_, lru.find?_of_not_recent⟩
  obtain ⟨e, -, found⟩ := lru.find?_of_recent recent
  rw [found] at missing
  cases missing

theorem lookup_served_self : (served ++ [(key, e)]).reverse.lookup key = some e := by
  simp

theorem lookup_served_other {k : String} (other : k ≠ key) :
    (served ++ [(key, e)]).reverse.lookup k = served.reverse.lookup k := by
  have skipped : (k == key) = false := by simpa using other
  rw [List.reverse_append, List.reverse_singleton, List.singleton_append, List.lookup_cons,
    skipped]

/-- Serving a recent key again moves it to the most recent end. -/
theorem hit (lru : CachesLRU size served cache)
    (recent : key ∈ recentKeys size (served.map (·.1))) (e : Evaluation) :
    CachesLRU size (served ++ [(key, e)]) (cache.filter (·.1 != key) ++ [(key, e)]) where
  keys := by
    simp only [List.map_append, List.map_cons, List.map_nil]
    rw [recentKeys_append_of_mem recent, ← lru.keys, lru.nodup.erase_eq_filter, List.filter_map]
    rfl
  answers x mem := by
    rcases List.mem_append.mp mem with kept | added
    · obtain ⟨cached, other⟩ := List.mem_filter.mp kept
      rw [lookup_served_other (by simpa using other)]
      exact lru.answers x cached
    · rw [List.mem_singleton] at added
      subst added
      exact lookup_served_self

/-- Serving a new answer under a key that is not recent puts it at the most recent end, and
drops the least recent key beyond the size. -/
theorem miss (lru : CachesLRU size served cache)
    (stale : key ∉ recentKeys size (served.map (·.1))) (e : Evaluation) :
    CachesLRU size (served ++ [(key, e)])
      ((cache ++ [(key, e)]).drop ((cache ++ [(key, e)]).length - size)) where
  keys := by
    have length : cache.length = (recentKeys size (served.map (·.1))).length := by
      rw [← lru.keys, List.length_map]
    simp only [List.map_drop, List.map_append, List.map_cons, List.map_nil]
    rw [lru.keys, recentKeys_append_of_not_mem stale, List.length_append, length,
      List.length_singleton]
  answers x mem := by
    rcases List.mem_append.mp (List.mem_of_mem_drop mem) with cached | added
    · have other : x.1 ≠ key := fun same =>
        stale (lru.keys ▸ List.mem_map.mpr ⟨x, cached, same⟩)
      rw [lookup_served_other other]
      exact lru.answers x cached
    · rw [List.mem_singleton] at added
      subst added
      exact lookup_served_self

end CachesLRU

/-! ### Runs of analyses -/

section Runs

variable {σ : Type} (host : Host σ) {served : List (String × Evaluation)}

/-- One analysis keeps the cache the LRU cache of the analyses served, its own answer counted
when it has one. -/
theorem CachesLRU.analyse {pool : Pool} (lru : CachesLRU pool.cacheSize served pool.cache)
    (st : σ) (fen : String) (movetime lines : Int) :
    let out := (analyse host fen movetime lines).run (pool, st)
    out.2.1.cacheSize = pool.cacheSize ∧
      CachesLRU pool.cacheSize
        (served ++ (out.1.toOption.map (analysisKey fen movetime lines, ·)).toList)
        out.2.1.cache := by
  intro out
  rcases analyse_cases host pool st fen movetime lines with
    ⟨k, e, found, ran⟩ | ⟨-, err, -, ran⟩ | ⟨missing, p, -, -, -, -, sized, answered, unanswered⟩
  · by_cases recent :
        analysisKey fen movetime lines ∈ recentKeys pool.cacheSize (served.map (·.1))
    · obtain ⟨e', -, found'⟩ := lru.find?_of_recent recent
      rw [found'] at found
      cases found
      simp only [out, ran]
      exact ⟨trivial, lru.hit recent e⟩
    · rw [lru.find?_of_not_recent recent] at found
      cases found
  · simp only [out, ran]
    exact ⟨trivial, by simpa [Except.toOption] using lru⟩
  · have stale := lru.find?_eq_none_iff.mp missing
    refine ⟨sized, ?_⟩
    cases result : out.1 with
    | ok e =>
      rw [answered e result]
      simpa [result, Except.toOption] using lru.miss stale e
    | error f =>
      rw [unanswered (by rw [result]; rfl)]
      simpa [result, Except.toOption] using lru

variable {pool : Pool}

/-- A recent key answers with its latest answer, and changes nothing but the order of the cache:
no engine is taken and the host is not asked. -/
theorem analyse_of_recent (lru : CachesLRU pool.cacheSize served pool.cache) (st : σ)
    {fen : String} {movetime lines : Int}
    (recent : analysisKey fen movetime lines ∈ recentKeys pool.cacheSize (served.map (·.1))) :
    ∃ e, served.reverse.lookup (analysisKey fen movetime lines) = some e ∧
      (analyse host fen movetime lines).run (pool, st) =
        (.ok e, ({ pool with cache := pool.cache.filter (·.1 != analysisKey fen movetime lines) ++
          [(analysisKey fen movetime lines, e)] }, st)) := by
  obtain ⟨e, latest, found⟩ := lru.find?_of_recent recent
  refine ⟨e, latest, ?_⟩
  rcases analyse_cases host pool st fen movetime lines with
    ⟨k, e', found', ran⟩ | ⟨missing, -⟩ | ⟨missing, -⟩
  · rw [found] at found'
    cases found'
    exact ran
  all_goals exact absurd recent (lru.find?_eq_none_iff.mp missing)

/-- A key that is not recent, with a malformed position, is refused before any search and
changes nothing. -/
theorem analyse_of_malformed (lru : CachesLRU pool.cacheSize served pool.cache) (st : σ)
    {fen : String} {movetime lines : Int}
    (stale : analysisKey fen movetime lines ∉ recentKeys pool.cacheSize (served.map (·.1)))
    {err : Chess.FenError} (bad : Chess.Position.ofFen fen = .error err) :
    (analyse host fen movetime lines).run (pool, st) = (.error (.badFen err), (pool, st)) := by
  rcases analyse_cases host pool st fen movetime lines with
    ⟨k, e, found, -⟩ | ⟨-, err', bad', ran⟩ | ⟨-, p, good, -⟩
  · rw [lru.find?_of_not_recent stale] at found
    cases found
  · rw [bad, Except.error.injEq] at bad'
    rw [ran, bad']
  · rw [bad] at good
    cases good

/-- A key that is not recent, with a well-formed position, runs a search: the answer, the host
and the engines are the search's. -/
theorem analyse_of_stale (lru : CachesLRU pool.cacheSize served pool.cache) (st : σ)
    {fen : String} {movetime lines : Int}
    (stale : analysisKey fen movetime lines ∉ recentKeys pool.cacheSize (served.map (·.1)))
    {p : Chess.Position} (good : Chess.Position.ofFen fen = .ok p) :
    let out := (analyse host fen movetime lines).run (pool, st)
    let searched := (runSearch host fen p lines none (timeLimit (some movetime))).run (pool, st)
    out.1 = searchResult fen searched.1.1 searched.1.2 ∧ out.2.2 = searched.2.2 ∧
      out.2.1.engines = searched.2.1.engines := by
  rcases analyse_cases host pool st fen movetime lines with
    ⟨k, e, found, -⟩ | ⟨-, err, bad, -⟩ | ⟨-, p', good', answer, host', engines, -⟩
  · rw [lru.find?_of_not_recent stale] at found
    cases found
  · rw [bad] at good
    cases good
  · rw [good, Except.ok.injEq] at good'
    subst good'
    exact ⟨answer, host', engines⟩

/-- Analyse positions in turn, each call given by its position text, time and lines. -/
def analyseEach (calls : List (String × Int × Int)) :
    EngineM σ (List (Except Failure Evaluation)) :=
  calls.mapM fun c => analyse host c.1 c.2.1 c.2.2

theorem analyseEach_cons (c : String × Int × Int) (rest : List (String × Int × Int)) :
    analyseEach host (c :: rest) = (do
      let answer ← Engine.analyse host c.1 c.2.1 c.2.2
      let answers ← analyseEach host rest
      pure (answer :: answers)) :=
  List.mapM_cons

/-- The analyses a sequence of calls served, key and answer in order: the calls answered. -/
def servedBy (calls : List (String × Int × Int)) (answers : List (Except Failure Evaluation)) :
    List (String × Evaluation) :=
  (calls.zip answers).filterMap fun c => c.2.toOption.map (analysisKey c.1.1 c.1.2.1 c.1.2.2, ·)

/-- Along any sequence of analyses the cache stays the LRU cache of the analyses served. -/
theorem CachesLRU.analyseEach {pool : Pool} (lru : CachesLRU pool.cacheSize served pool.cache)
    (st : σ) (calls : List (String × Int × Int)) :
    let out := (analyseEach host calls).run (pool, st)
    out.2.1.cacheSize = pool.cacheSize ∧
      CachesLRU pool.cacheSize (served ++ servedBy calls out.1) out.2.1.cache := by
  induction calls generalizing pool st served with
  | nil =>
    refine ⟨rfl, ?_⟩
    change CachesLRU pool.cacheSize (served ++ []) pool.cache
    rwa [List.append_nil]
  | cons c rest ih =>
    intro out
    obtain ⟨sized, step⟩ := lru.analyse host st c.1 c.2.1 c.2.2
    simp only [out, analyseEach_cons, EngineM.run_bind, EngineM.run_pure]
    generalize (Engine.analyse host c.1 c.2.1 c.2.2).run (pool, st) = first at sized step
    rcases first with ⟨r, pool1, st1⟩
    dsimp only at sized step ⊢
    rw [← sized] at step
    obtain ⟨sized', later⟩ := ih step st1
    refine ⟨sized'.trans sized, ?_⟩
    rw [← sized]
    cases r <;>
      simpa [servedBy, List.zip_cons_cons, List.filterMap_cons, Except.toOption] using later

end Runs

/-- A started evaluator's cache is empty, with the size it was started with. -/
theorem Pool.start_cache {σ : Type} {host : Host σ} {path : Option String} {workers size : Nat}
    {pool : Pool} (started : Pool.start host path workers size = .ok pool) :
    pool.cache = [] ∧ pool.cacheSize = size := by
  simp only [Pool.start] at started
  split at started
  · rw [pure_bind] at started
    split at started
    · cases started
    · cases started
      exact ⟨rfl, rfl⟩
  · cases started

/-- A started evaluator caches its blocking analyses, least recently used first out.  After any
sequence of analyses the cache is the LRU cache of the analyses served, so it holds no more than
its size.  The next analysis, if its key is among the most recently used, answers with the latest
answer under it and changes nothing but the cache's order: no engine is taken and the host is not
asked.  Any other analysis refuses a malformed position before any search, changing nothing, and
otherwise runs a search and answers with its result. -/
theorem analyse_caches_recent_keys {σ : Type} (host : Host σ) (path : Option String)
    (workers size : Nat) (pool : Pool) (started : Pool.start host path workers size = .ok pool)
    (st : σ) (calls : List (String × Int × Int)) (fen : String) (movetime lines : Int) :
    let before := (analyseEach host calls).run (pool, st)
    let served := servedBy calls before.1
    let key := analysisKey fen movetime lines
    let out := (analyse host fen movetime lines).run before.2
    CachesLRU size served before.2.1.cache ∧ before.2.1.cache.length ≤ size ∧
    (key ∈ recentKeys size (served.map (·.1)) → ∃ e, served.reverse.lookup key = some e ∧
      out = (.ok e, ({ before.2.1 with cache := before.2.1.cache.filter (·.1 != key) ++ [(key, e)] },
        before.2.2))) ∧
    (key ∉ recentKeys size (served.map (·.1)) → ∀ err, Chess.Position.ofFen fen = .error err →
      out = (.error (.badFen err), before.2)) ∧
    (key ∉ recentKeys size (served.map (·.1)) → ∀ p, Chess.Position.ofFen fen = .ok p →
      let searched := (runSearch host fen p lines none (timeLimit (some movetime))).run before.2
      out.1 = searchResult fen searched.1.1 searched.1.2 ∧ out.2.2 = searched.2.2 ∧
        out.2.1.engines = searched.2.1.engines) := by
  obtain ⟨empty, sized⟩ := Pool.start_cache started
  have start : CachesLRU pool.cacheSize [] pool.cache := empty ▸ CachesLRU.nil pool.cacheSize
  obtain ⟨kept, lru⟩ := start.analyseEach host st calls
  dsimp only
  generalize (analyseEach host calls).run (pool, st) = before at kept lru ⊢
  rcases before with ⟨answers, pool1, st1⟩
  dsimp only at kept lru ⊢
  rw [List.nil_append, sized] at lru
  rw [sized] at kept
  have current : CachesLRU pool1.cacheSize (servedBy calls answers) pool1.cache := kept ▸ lru
  refine ⟨lru, lru.length_le, fun recent => ?_, fun stale err bad => ?_, fun stale p good => ?_⟩
  · exact analyse_of_recent host current st1 (kept ▸ recent)
  · exact analyse_of_malformed host current st1 (kept ▸ stale) bad
  · exact analyse_of_stale host current st1 (kept ▸ stale) good

/-- With a host that reports a scored line for either side's first move, four analyses, of the
starting position, of the position after 1. e4, of the starting position again and of it at
another time budget, leave the cache of an evaluator started with room for two as the LRU cache
of what they served.  Were all four served, its keys would be those of the last two: the repeat
refreshes the starting position, so the fourth analysis evicts the other one. -/
theorem analyse_caches_two_positions :
    let host : Host Unit := ⟨some "stockfish", fun _ => .ok (), fun _ _ _ =>
      pure (some ["info depth 8 multipv 1 score cp 30 pv e2e4",
        "info depth 8 multipv 1 score cp -30 pv e7e5", "bestmove e2e4"])⟩
    let pool : Pool := { path := "stockfish", engines := [true], cacheSize := 2 }
    let start := "rnbqkbnr/pppppppp/8/8/8/8/PPPPPPPP/RNBQKBNR w KQkq - 0 1"
    let played := "rnbqkbnr/pppppppp/8/8/4P3/8/PPPP1PPP/RNBQKBNR b KQkq - 0 1"
    let calls : List (String × Int × Int) :=
      [(start, 200, 1), (played, 200, 1), (start, 200, 1), (start, 100, 1)]
    Pool.start host none 1 2 = .ok pool ∧
      CachesLRU 2 (servedBy calls ((analyseEach host calls).run (pool, ())).1)
        ((analyseEach host calls).run (pool, ())).2.1.cache ∧
      recentKeys 2 (calls.map fun c => analysisKey c.1 c.2.1 c.2.2) =
        [analysisKey start 200 1, analysisKey start 100 1] := by
  intro host pool start played calls
  have started : Pool.start host none 1 2 = .ok pool := rfl
  refine ⟨started,
    (analyse_caches_recent_keys host none 1 2 pool started () calls played 200 1).1, ?_⟩
  decide +kernel

/-- A malformed position is refused before any search, although nothing is cached: a host that
counts its searches counts none. -/
theorem analyse_refuses_malformed_fen :
    let host : Host Nat :=
      ⟨some "stockfish", fun _ => .ok (), fun _ _ _ => modify (· + 1) *> pure (some [])⟩
    let pool : Pool := { path := "stockfish", engines := [true], cacheSize := 4096 }
    (analyse host "not a fen" 200 1).run (pool, 0) =
      (.error (.badFen (.turn "not a fen")), (pool, 0)) := by
  intro host pool
  have bad : Chess.Position.ofFen "not a fen" = .error (.turn "not a fen") := by rfl
  exact analyse_of_malformed host (CachesLRU.nil 4096) 0 (by simp [recentKeys]) bad

end Engine
end Tactician
