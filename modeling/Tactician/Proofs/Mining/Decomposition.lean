import Mathlib
import Tactician.Proofs.Chess.PositionKey
import Tactician.Proofs.Mining.Framing
import Tactician.Proofs.Mining.Selection

/-!
# Framings and sides are mined independently

Mining with both framings gives the ranking of the puzzles mined with each framing alone, and,
without a cooldown, mining for both sides gives the ranking of the puzzles mined for each side
alone.  Every pass after framing respects such a split of the candidates:

* the filters look at one candidate at a time;
* the confirmation pass asks each position once, but an evaluator whose answer depends only on
  the request answers a position the same whichever candidates asked for it;
* the cooldown keeps one record per framing, so a class of candidates closed under framings is
  thinned on its own;
* deduplication keys carry the framing and the position, and the position key carries the side to
  move, so a class closed under those keys is deduplicated on its own;
* building fails only with one error, whichever candidate fails, and the ranking is a sort by a
  key that no two puzzles share.
-/

namespace Tactician
namespace Analysis

open Chess

/-! ## Evaluators that answer from the request alone -/

/-- An evaluator whose answer, or failure, to a request does not depend on its state. -/
def Evaluator.Memoryless {σ : Type} (e : Evaluator σ) : Prop :=
  ∀ fen t lines (st st' : σ), ((e.analyse fen t lines).run st).1 = ((e.analyse fen t lines).run st').1

/-- What the confirmation pass makes of one candidate when the evaluator answers as it does in
state `st`: the re-grading from a deeper answer, or the candidate itself when no deeper search
runs or the search fails. -/
def confirmOne {σ : Type} (ev : Option (Evaluator σ)) (c : Config) (st : σ) (cand : Candidate) :
    Option Candidate :=
  if c.confirmationEnabled then
    (ev.bind fun e => c.confirmMovetimeMs.bind fun t =>
      ((e.analyse cand.fen t (searchLines c)).run st).1.toOption).elim (some cand)
        fun deeper => reconfirm cand deeper c
  else some cand

theorem confirmOne_fixes {σ : Type} {ev : Option (Evaluator σ)} {c : Config} {st : σ}
    {cand final : Candidate} (picked : confirmOne ev c st cand = some final) :
    final.plyKey = cand.plyKey ∧ final.fen = cand.fen := by
  unfold confirmOne at picked
  split at picked
  · rcases answer : (ev.bind fun e => c.confirmMovetimeMs.bind fun t =>
      ((e.analyse cand.fen t (searchLines c)).run st).1.toOption) with _ | deeper <;>
      rw [answer] at picked
    · cases picked
      exact ⟨rfl, rfl⟩
    · obtain ⟨-, -, -, -, -, -, -, -, -, -, -, -, rfl⟩ := reconfirm_eq_some.mp picked
      exact ⟨rfl, rfl⟩
  · cases picked
    exact ⟨rfl, rfl⟩

theorem mem_distinct {xs : List String} {x : String} : x ∈ distinct xs ↔ x ∈ xs := by
  have grown : ∀ (acc : List String), x ∈ xs.foldl
      (fun acc y => if acc.contains y then acc else acc ++ [y]) acc ↔ x ∈ acc ∨ x ∈ xs := by
    induction xs with
    | nil => simp
    | cons y rest ih =>
        intro acc
        rw [List.foldl_cons, ih, List.mem_cons]
        split
        · rename_i seen
          have seen : y ∈ acc := by simpa using seen
          constructor
          · rintro (old | later)
            · exact .inl old
            · exact .inr (.inr later)
          · rintro (old | same | later)
            · exact .inl old
            · exact .inl (same ▸ seen)
            · exact .inr later
        · simp [or_assoc]
  unfold distinct
  rw [grown []]
  simp

/-- With an evaluator that answers from the request alone, the confirmation pass maps each
candidate on its own. -/
theorem confirmCandidates_memoryless {σ : Type} (cands : List Candidate)
    {ev : Option (Evaluator σ)} (memoryless : ∀ e, ev = some e → e.Memoryless) (c : Config)
    (st st' : σ) :
    ((confirmCandidates cands ev c).run st).1 = cands.filterMap (confirmOne ev c st') := by
  have unchanged : (∀ cand, confirmOne ev c st' cand = some cand) →
      cands = cands.filterMap (confirmOne ev c st') := fun kept => by
    rw [List.filterMap_congr fun cand _ => kept cand, List.filterMap_some]
  unfold confirmCandidates
  rcases ev with _ | e
  · exact unchanged fun cand => by simp [confirmOne]
  rcases budget : c.confirmMovetimeMs with _ | t
  · exact unchanged fun cand => by simp [confirmOne, budget]
  dsimp only
  split
  · rename_i skipped
    rcases Bool.or_eq_true_iff.mp skipped with disabled | empty
    · exact unchanged fun cand => by simp_all [confirmOne]
    · rw [List.isEmpty_iff.mp empty]
      rfl
  rename_i fresh
  have enabled : c.confirmationEnabled = true := by
    simp only [Bool.or_eq_true, Bool.not_eq_true', not_or] at fresh
    simpa using fresh.1
  simp only [StateT.run_bind]
  generalize table : StateT.run (forIn (distinct (cands.map (·.fen)))
    ([] : List (String × Option Evaluation)) _ : StateM σ (List (String × Option Evaluation)))
    st = run
  obtain ⟨keys, values⟩ : run.1.map (·.1) = distinct (cands.map (·.fen)) ∧
      ∀ entry ∈ run.1, entry.2 = ((e.analyse entry.1 t (searchLines c)).run st').1.toOption := by
    rw [← table]
    refine forIn_table (fun fen v => v = ((e.analyse fen t (searchLines c)).run st').1.toOption)
      _ [] _ (fun _ none => by cases none) (fun fen acc s => ?_) st
    simp only [stateM_run_bind]
    have same := memoryless e rfl fen t (searchLines c) s st'
    rcases reply : (e.analyse fen t (searchLines c)).run s with ⟨_ | r, s'⟩ <;>
      rw [reply] at same
    · exact ⟨none, by rw [← same]; rfl, rfl⟩
    · exact ⟨some r, by rw [← same]; rfl, rfl⟩
  refine List.filterMap_congr fun cand mem => ?_
  have asked : cand.fen ∈ run.1.map (·.1) := by
    rw [keys]
    exact mem_distinct.mpr (List.mem_map_of_mem mem)
  obtain ⟨answer, listed, first⟩ := find?_of_mem_keys asked
  have found : ((run.1.find? (·.1 == cand.fen)).map (·.2)).join =
      ((e.analyse cand.fen t (searchLines c)).run st').1.toOption := by
    rw [first, Option.join_some]
    exact values _ listed
  split
  · rename_i none_found
    rw [found] at none_found
    simp [confirmOne, budget, none_found]
  · rename_i deeper some_found
    rw [found] at some_found
    simp [confirmOne, budget, some_found, enabled]

/-! ## Thinning a class of candidates on its own -/

theorem PuzzleType.eq_of_order_eq {a b : PuzzleType} (same : a.order = b.order) : a = b := by
  cases a <;> cases b <;> simp_all [PuzzleType.order]

/-- Candidates tied in the reading order share a ply and a framing. -/
theorem plyKey_eq_of_tied {a b : Candidate} (ab : plyOrder a b = true) (ba : plyOrder b a = true) :
    a.plyKey = b.plyKey := by
  simp only [plyOrder, Bool.or_eq_true, decide_eq_true_eq, Bool.and_eq_true, beq_iff_eq] at ab ba
  have ply : a.sourcePly = b.sourcePly := by omega
  have order : a.type.order = b.type.order := by omega
  simp [Candidate.plyKey, ply, PuzzleType.eq_of_order_eq order]

/-- With one candidate per ply and framing, sorting commutes with keeping a class. -/
theorem byPlyAndType_filter {l : List Candidate}
    (distinct : ∀ x ∈ l, ∀ y ∈ l, x.plyKey = y.plyKey → x = y) (P : Candidate → Bool) :
    byPlyAndType (l.filter P) = (byPlyAndType l).filter P := by
  refine List.Perm.eq_of_pairwise (fun a b a_mem b_mem ab ba => ?_) (byPlyAndType_sorted _)
    ((byPlyAndType_sorted l).filter P)
    ((List.mergeSort_perm _ _).trans ((List.mergeSort_perm _ _).filter P).symm)
  have a_l : a ∈ l := (List.mem_filter.mp (mem_byPlyAndType.mp a_mem)).1
  have b_l : b ∈ l := mem_byPlyAndType.mp (List.mem_filter.mp b_mem).1
  exact distinct a a_l b b_l (plyKey_eq_of_tied ab ba)

/-- Two left folds in step, the second reading only the items of a class: a relation that each
step keeps holds at the end. -/
theorem foldl_filter_invariant {α β γ : Type} (R : β → γ → Prop) (f : β → α → β)
    (g : γ → α → γ) (P : α → Bool) (xs : List α) (b : β) (c : γ) (start : R b c)
    (step : ∀ b c x, x ∈ xs → R b c → R (f b x) (if P x then g c x else c)) :
    R (xs.foldl f b) ((xs.filter P).foldl g c) := by
  rw [List.foldl_filter]
  induction xs generalizing b c with
  | nil => exact start
  | cons x rest ih =>
      exact ih _ _ (step b c x List.mem_cons_self start)
        fun b c y mem related => step b c y (List.mem_cons_of_mem x mem) related

/-- Within a class that a key never crosses, a member of the class shares its key with a member
of a list exactly when it shares it with a member of the list in the class. -/
theorem exists_key_filter_iff {α κ : Type} (key : α → κ) {P : α → Bool} {l full : List α}
    (inside : ∀ y ∈ full, y ∈ l) (same_class : ∀ x y, x ∈ l → y ∈ l → key y = key x → P y = P x)
    {x : α} (x_mem : x ∈ l) (kept : P x = true) :
    (∃ y ∈ full.filter P, key y = key x) ↔ ∃ y ∈ full, key y = key x := by
  constructor
  · rintro ⟨y, y_mem, same⟩
    exact ⟨y, (List.mem_filter.mp y_mem).1, same⟩
  · rintro ⟨y, y_mem, same⟩
    refine ⟨y, List.mem_filter.mpr ⟨y_mem, ?_⟩, same⟩
    rw [same_class x y x_mem (inside y y_mem) same, kept]

/-- The full deduplication pass and its pass over the class `P`, read in step over candidates of
`l`: both keep sound records, and the class pass has kept exactly the members of the class that
the full pass kept. -/
structure DedupeAlong (l : List Candidate) (P : Candidate → Bool) (full part : DedupeAcc) :
    Prop where
  fullState : DedupeState full.1 full.2.1 full.2.2
  partState : DedupeState part.1 part.2.1 part.2.2
  kept : part.1 = full.1.filter P
  inside : ∀ y ∈ full.1, y ∈ l

/-- One candidate of `l` keeps the two passes in step when no dedupe key crosses the class. -/
theorem DedupeAlong.step {l : List Candidate} {P : Candidate → Bool} {full part : DedupeAcc}
    (along : DedupeAlong l P full part)
    (shared : ∀ x y, x ∈ l → y ∈ l → (y.plyKey = x.plyKey ∨ y.fenKey = x.fenKey) → P y = P x)
    {x : Candidate} (x_l : x ∈ l) :
    DedupeAlong l P (dedupeStep full x) (if P x then dedupeStep part x else part) := by
  have grown : ∀ y ∈ (dedupeStep full x).1, y ∈ l := by
    intro y y_mem
    rcases dedupeStep_keeps full x with same | same <;> rw [same] at y_mem
    · exact along.inside y y_mem
    · rcases List.mem_append.mp y_mem with old | new
      · exact along.inside y old
      · exact (List.mem_singleton.mp new) ▸ x_l
  split
  · rename_i kept
    have plies : x.plyKey ∈ part.2.1 ↔ x.plyKey ∈ full.2.1 := by
      rw [along.partState.plies_iff, along.fullState.plies_iff, along.kept]
      exact exists_key_filter_iff Candidate.plyKey along.inside
        (fun x y x_mem y_mem same => shared x y x_mem y_mem (.inl same)) x_l kept
    have fens : x.fenKey ∈ part.2.2 ↔ x.fenKey ∈ full.2.2 := by
      rw [along.partState.fens_iff, along.fullState.fens_iff, along.kept]
      exact exists_key_filter_iff Candidate.fenKey along.inside
        (fun x y x_mem y_mem same => shared x y x_mem y_mem (.inr same)) x_l kept
    have same_test : (part.2.1.contains x.plyKey || part.2.2.contains x.fenKey) =
        (full.2.1.contains x.plyKey || full.2.2.contains x.fenKey) := by
      rw [Bool.eq_iff_iff]
      simp only [Bool.or_eq_true, List.contains_iff_mem, plies, fens]
    refine ⟨along.fullState.step x, along.partState.step x, ?_, grown⟩
    unfold dedupeStep
    rw [same_test]
    split
    · exact along.kept
    · simp [along.kept, kept]
  · rename_i dropped
    refine ⟨along.fullState.step x, along.partState, ?_, grown⟩
    rcases dedupeStep_keeps full x with same | same <;> rw [same]
    · exact along.kept
    · simp [along.kept, dropped]

/-- A class of candidates that no dedupe key crosses is deduplicated on its own. -/
theorem dedupe_filter {l : List Candidate}
    (distinct : ∀ x ∈ l, ∀ y ∈ l, x.plyKey = y.plyKey → x = y) (P : Candidate → Bool)
    (closed : ∀ x ∈ l, ∀ y ∈ l, x.fenKey = y.fenKey → P x = P y) :
    dedupe (l.filter P) = (dedupe l).filter P := by
  rw [dedupe_eq_foldl, dedupe_eq_foldl, byPlyAndType_filter distinct]
  have shared : ∀ x y, x ∈ l → y ∈ l → (y.plyKey = x.plyKey ∨ y.fenKey = x.fenKey) →
      P y = P x := by
    intro x y x_mem y_mem same
    rcases same with same | same
    · rw [distinct y y_mem x x_mem same]
    · exact closed y y_mem x x_mem same
  have along := foldl_filter_invariant (DedupeAlong l P) dedupeStep dedupeStep P
    (byPlyAndType l) ([], [], []) ([], [], []) ⟨dedupeState_nil, dedupeState_nil, rfl, by simp⟩
    fun full part x x_mem related => related.step shared (mem_byPlyAndType.mp x_mem)
  exact along.kept

/-- The full cooldown pass and its pass over the class `P`, in step: the class pass has kept
exactly the members of the class that the full pass kept, and both record the same last ply for
each framing of the class. -/
structure CooldownAlong (P : Candidate → Bool) (full part : CooldownAcc) : Prop where
  kept : part.1 = full.1.filter P
  lasts : ∀ y, P y = true → lastPly part.2 y.type = lastPly full.2 y.type

/-- One candidate keeps the two passes in step when the class is closed under framings. -/
theorem CooldownAlong.step {P : Candidate → Bool} {full part : CooldownAcc}
    (along : CooldownAlong P full part) {cooldown : Int}
    (typed : ∀ x y, x.type = y.type → P x = P y) (x : Candidate) :
    CooldownAlong P (cooldownStep cooldown full x)
      (if P x then cooldownStep cooldown part x else part) := by
  split
  · rename_i kept
    have last_x := along.lasts x kept
    rcases cooldownStep_cases cooldown full x with
        ⟨prev, found, within, full_same⟩ | ⟨clear, full_kept, full_latest, full_others⟩ <;>
      rcases cooldownStep_cases cooldown part x with
        ⟨prev', found', within', part_same⟩ | ⟨clear', part_kept, part_latest, part_others⟩
    · rw [full_same, part_same]
      exact along
    · have := clear' prev (last_x.trans found)
      omega
    · have := clear prev' (last_x.symm.trans found')
      omega
    · refine ⟨by simp [part_kept, full_kept, along.kept, kept], fun y y_kept => ?_⟩
      by_cases same : y.type = x.type
      · rw [same, part_latest, full_latest]
      · rw [part_others _ same, full_others _ same, along.lasts y y_kept]
  · rename_i dropped
    have differs : ∀ y, P y = true → y.type ≠ x.type := fun y y_kept same => by
      rw [typed y x same] at y_kept
      simp_all
    rcases cooldownStep_cases cooldown full x with
        ⟨-, -, -, full_same⟩ | ⟨-, full_kept, -, full_others⟩
    · rw [full_same]
      exact along
    · refine ⟨by simp [full_kept, along.kept, dropped], fun y y_kept => ?_⟩
      rw [full_others _ (differs y y_kept), along.lasts y y_kept]

/-- A class of candidates closed under framings goes through the cooldown on its own. -/
theorem applyCooldown_filter {l : List Candidate}
    (distinct : ∀ x ∈ l, ∀ y ∈ l, x.plyKey = y.plyKey → x = y) (P : Candidate → Bool)
    (cooldown : Int) (typed : 0 < cooldown → ∀ x y, x.type = y.type → P x = P y) :
    applyCooldown (l.filter P) cooldown = (applyCooldown l cooldown).filter P := by
  by_cases positive : 0 < cooldown
  swap
  · rw [applyCooldown_of_nonpos _ (not_lt.mp positive),
      applyCooldown_of_nonpos _ (not_lt.mp positive)]
  rw [applyCooldown_eq_foldl _ positive, applyCooldown_eq_foldl _ positive,
    byPlyAndType_filter distinct]
  have along := foldl_filter_invariant (CooldownAlong P) (cooldownStep cooldown)
    (cooldownStep cooldown) P (byPlyAndType l) ([], []) ([], []) ⟨rfl, fun _ _ => rfl⟩
    fun full part x _ related => related.step (typed positive) x
  exact along.kept

/-! ## Building and ranking a split list -/

theorem mapM_cons_map {α β γ ε : Type} (f : α → Except ε β) (g : List β → γ) (x : α)
    (rest : List α) :
    ((x :: rest).mapM f).map g = (f x).bind fun y => (rest.mapM f).map fun ys => g (y :: ys) := by
  rw [List.mapM_cons]
  rcases f x with e | y <;> rcases rest.mapM f with e' | ys <;> rfl

/-- A build that fails only with one error fails or not, and builds the same puzzles up to order,
whatever the order of its inputs. -/
theorem mapM_bag_perm {α β ε : Type} {f : α → Except ε β} {fail : ε}
    (uniform : ∀ x e, f x = .error e → e = fail) {l l' : List α} (perm : l.Perm l') :
    (l.mapM f).map Multiset.ofList = (l'.mapM f).map Multiset.ofList := by
  have cases : ∀ x, f x = .error fail ∨ ∃ y, f x = .ok y := by
    intro x
    rcases built : f x with e | y
    · exact .inl (uniform x e built ▸ rfl)
    · exact .inr ⟨y, rfl⟩
  induction perm with
  | nil => rfl
  | cons x _ same =>
      rw [mapM_cons_map, mapM_cons_map]
      rcases cases x with built | ⟨y, built⟩ <;> rw [built]
      · rfl
      rcases first : List.mapM f _ with e | ys <;> rcases second : List.mapM f _ with e' | ys' <;>
        rw [first, second] at same <;> simp only [Except.map, Except.bind, Except.error.injEq,
          reduceCtorEq, Except.ok.injEq] at same ⊢
      · exact same
      · exact Multiset.coe_eq_coe.mpr ((Multiset.coe_eq_coe.mp same).cons y)
  | swap x y rest =>
      simp only [mapM_cons_map]
      rcases cases x with built_x | ⟨a, built_x⟩ <;> rcases cases y with built_y | ⟨b, built_y⟩ <;>
        rw [built_x, built_y]
      · rfl
      · rfl
      · rcases rest.mapM f with e | ys
        · rfl
        · exact congrArg Except.ok (Multiset.coe_eq_coe.mpr (List.Perm.swap a b ys))
  | trans _ _ first second => exact first.trans second

/-- Ranking is a sort by a key that no two puzzles of distinct plies or framings share, so it
does not depend on the order of its input. -/
theorem selectPuzzles_perm {ps qs : List Puzzle} (perm : ps.Perm qs)
    (distinct : ps.Pairwise fun p q => (p.sourcePly, p.type) ≠ (q.sourcePly, q.type))
    (cap : Option Int) : selectPuzzles ps cap = selectPuzzles qs cap := by
  have uncapped : selectPuzzles ps none = selectPuzzles qs none := by
    rw [selectPuzzles_none, selectPuzzles_none]
    refine List.Perm.eq_of_pairwise (fun p q p_mem q_mem pq qp => ?_)
      (List.pairwise_mergeSort rankKey_le_trans rankKey_le_total ps)
      (List.pairwise_mergeSort rankKey_le_trans rankKey_le_total qs)
      (((List.mergeSort_perm _ _).trans perm).trans (List.mergeSort_perm _ _).symm)
    have same : rankKey p = rankKey q := le_antisymm (of_decide_eq_true pq) (of_decide_eq_true qp)
    simp only [rankKey, toLex_inj, Prod.mk.injEq] at same
    have p_ps := (List.mergeSort_perm ps _).mem_iff.mp p_mem
    have q_ps := perm.mem_iff.mpr ((List.mergeSort_perm qs _).mem_iff.mp q_mem)
    exact eq_of_key_eq distinct q_ps p_ps
      (by rw [same.2.1, PuzzleType.eq_of_order_eq same.2.2.1])
  rcases cap with _ | n
  · exact uncapped
  · rw [selectPuzzles_some, selectPuzzles_some, uncapped]

/-- Building and ranking candidates with one candidate per ply and framing ranks together the
puzzles built from a class and from the rest. -/
theorem build_split (kept : List Candidate) (opening : Openings.Info) (c : Config)
    (distinct : kept.Pairwise fun a b => a.plyKey ≠ b.plyKey) (P : Candidate → Bool)
    (cap : Option Int) :
    (kept.mapM fun cand => buildPuzzle cand opening c).map (selectPuzzles · cap) =
      (((kept.filter P).mapM fun cand => buildPuzzle cand opening c).map
        (selectPuzzles · none)).bind fun a =>
          (((kept.filter fun x => !P x).mapM fun cand => buildPuzzle cand opening c).map
            (selectPuzzles · none)).map fun b => selectPuzzles (a ++ b) cap := by
  have bags := mapM_bag_perm
    (fun x e (failed : buildPuzzle x opening c = .error e) => (buildPuzzle_eq_error.mp failed).1)
    (List.filter_append_perm P kept)
  rw [List.mapM_append] at bags
  rcases first : (kept.filter P).mapM (fun cand => buildPuzzle cand opening c) with e | as
  · rw [first] at bags
    rw [except_map_eq_error.mp bags.symm]
    rfl
  rcases second : (kept.filter fun x => !P x).mapM (fun cand => buildPuzzle cand opening c)
    with e | bs
  · rw [first, second] at bags
    rw [except_map_eq_error.mp bags.symm]
    rfl
  rw [first, second] at bags
  obtain ⟨ps, built, same⟩ := except_map_eq_ok.mp bags.symm
  rw [built]
  have places := places_of_mapM_buildPuzzle built
  have apart : ps.Pairwise fun p q => (p.sourcePly, p.type) ≠ (q.sourcePly, q.type) := by
    have keys : (kept.map Candidate.place).Pairwise fun a b => (a.1, a.2.1) ≠ (b.1, b.2.1) :=
      List.pairwise_map.mpr distinct
    rw [← places, List.pairwise_map] at keys
    exact keys
  have perm : ps.Perm (selectPuzzles as none ++ selectPuzzles bs none) :=
    (Quotient.exact same).trans
      (((selectPuzzles_sublist_perm as none).2.append (selectPuzzles_sublist_perm bs none).2).symm)
  exact congrArg Except.ok (selectPuzzles_perm perm apart cap)

/-! ## Mining a split list of candidates -/

/-- The puzzles mined from the framed candidates `cands` under the settings of `c`, with the
evaluator starting from `st`, ranked under `cap`: the stages of `extractPuzzles` after framing. -/
def mined {σ : Type} (cands : List Candidate) (c : Config) (opening : Openings.Info)
    (ev : Option (Evaluator σ)) (st : σ) (cap : Option Int) : Except Failure (List Puzzle) :=
  ((dedupe (applyCooldown ((confirmCandidates (cands.filter (survives · c)) ev c).run st).1
    c.cooldownPlies)).mapM fun cand => buildPuzzle cand opening c).map (selectPuzzles · cap)

theorem extractPuzzles_eq_mined {σ : Type} (g : Pgn.Game) (cs : List ClassifiedPly)
    (es : Evaluations) (c : Config) (opening : Openings.Info) (ev : Option (Evaluator σ))
    (user : Option String) (st : σ) :
    ((extractPuzzles g cs es c opening ev user).run st).1 =
      mined (findCandidates g cs es c user) c opening ev st c.cap :=
  rfl

/-- A confirmed survivor keeps the ply, framing and position of the candidate it comes from. -/
theorem exists_origin_of_confirmed {σ : Type} {cands : List Candidate} {c : Config}
    {ev : Option (Evaluator σ)} {st : σ} {x : Candidate}
    (confirmed : x ∈ (cands.filter (survives · c)).filterMap (confirmOne ev c st)) :
    ∃ y ∈ cands, x.plyKey = y.plyKey ∧ x.fen = y.fen := by
  obtain ⟨y, y_mem, picked⟩ := List.mem_filterMap.mp confirmed
  exact ⟨y, (List.mem_filter.mp y_mem).1, confirmOne_fixes picked⟩

/-- Confirmation keeps candidates of distinct plies and framings apart. -/
theorem confirmed_apart {σ : Type} {cands : List Candidate} {c : Config}
    {ev : Option (Evaluator σ)} {st : σ}
    (distinct : cands.Pairwise fun a b => a.plyKey ≠ b.plyKey) :
    ((cands.filter (survives · c)).filterMap (confirmOne ev c st)).Pairwise
      fun a b => a.plyKey ≠ b.plyKey := by
  refine (distinct.filter _).filterMap _ fun a b differs a' picked_a b' picked_b => ?_
  rw [(confirmOne_fixes picked_a).1, (confirmOne_fixes picked_b).1]
  exact differs

/-- Keeping a class that depends only on the ply, framing and position commutes with
confirmation. -/
theorem filterMap_confirmOne_filter {σ : Type} {ev : Option (Evaluator σ)} {c : Config} {st : σ}
    (Q : Candidate → Bool) (placed : ∀ x y, x.plyKey = y.plyKey → x.fen = y.fen → Q x = Q y)
    (cands : List Candidate) :
    (cands.filter Q).filterMap (confirmOne ev c st) =
      (cands.filterMap (confirmOne ev c st)).filter Q := by
  rw [List.filterMap_filter, List.filter_filterMap]
  refine List.filterMap_congr fun x _ => ?_
  rcases picked : confirmOne ev c st x with _ | y
  · split <;> rfl
  · have same := placed y x (confirmOne_fixes picked).1 (confirmOne_fixes picked).2
    by_cases kept : Q x = true <;> simp [Option.filter, kept, same]

/-- Confirmation, the cooldown and deduplication take a class of candidates on its own when the
class depends only on the ply, framing and position, no position key crosses it, and, under a
cooldown, it holds whole framings. -/
theorem thinned_filter {σ : Type} {cands : List Candidate} {c : Config}
    {ev : Option (Evaluator σ)} (memoryless : ∀ e, ev = some e → e.Memoryless) (st : σ)
    (distinct : cands.Pairwise fun a b => a.plyKey ≠ b.plyKey) (Q : Candidate → Bool)
    (placed : ∀ x y, x.plyKey = y.plyKey → x.fen = y.fen → Q x = Q y)
    (closed : ∀ x ∈ cands, ∀ y ∈ cands, x.fenKey = y.fenKey → Q x = Q y)
    (typed : 0 < c.cooldownPlies → ∀ x y, x.type = y.type → Q x = Q y) :
    dedupe (applyCooldown ((confirmCandidates ((cands.filter Q).filter (survives · c)) ev c).run
      st).1 c.cooldownPlies) =
    (dedupe (applyCooldown ((cands.filter (survives · c)).filterMap (confirmOne ev c st))
      c.cooldownPlies)).filter Q := by
  have confirmed_distinct : ∀ x ∈ (cands.filter (survives · c)).filterMap (confirmOne ev c st),
      ∀ y ∈ (cands.filter (survives · c)).filterMap (confirmOne ev c st),
        x.plyKey = y.plyKey → x = y :=
    fun x x_mem y y_mem same => eq_of_key_eq (confirmed_apart distinct) y_mem x_mem same
  have reordered : (cands.filter Q).filter (survives · c) =
      (cands.filter (survives · c)).filter Q := by
    rw [List.filter_filter, List.filter_filter]
    exact List.filter_congr fun x _ => Bool.and_comm _ _
  rw [confirmCandidates_memoryless _ memoryless c st st, reordered,
    filterMap_confirmOne_filter Q placed,
    applyCooldown_filter confirmed_distinct Q c.cooldownPlies typed]
  refine dedupe_filter (fun x x_mem y y_mem => confirmed_distinct x
    (mem_of_mem_applyCooldown x_mem) y (mem_of_mem_applyCooldown y_mem)) Q
    fun x x_mem y y_mem same => ?_
  obtain ⟨x', x'_mem, x_ply, x_fen⟩ := exists_origin_of_confirmed (mem_of_mem_applyCooldown x_mem)
  obtain ⟨y', y'_mem, y_ply, y_fen⟩ := exists_origin_of_confirmed (mem_of_mem_applyCooldown y_mem)
  have shared : x'.fenKey = y'.fenKey := by
    have x_type : x.type = x'.type := congrArg Prod.snd x_ply
    have y_type : y.type = y'.type := congrArg Prod.snd y_ply
    simp only [Candidate.fenKey, ← x_fen, ← y_fen, ← x_type, ← y_type]
    exact same
  rw [placed x x' x_ply x_fen, placed y y' y_ply y_fen]
  exact closed x' x'_mem y' y'_mem shared

/-- Mining candidates with one per ply and framing splits along a class that depends only on the
ply, framing and position, that no position key crosses, and, under a cooldown, that holds whole
framings: the puzzles are the ranking of those mined from the class and from the rest. -/
theorem mined_split {σ : Type} {cands : List Candidate} {c : Config} {opening : Openings.Info}
    {ev : Option (Evaluator σ)} (memoryless : ∀ e, ev = some e → e.Memoryless) (st : σ)
    (P : Candidate → Bool) (distinct : cands.Pairwise fun a b => a.plyKey ≠ b.plyKey)
    (placed : ∀ x y, x.plyKey = y.plyKey → x.fen = y.fen → P x = P y)
    (closed : ∀ x ∈ cands, ∀ y ∈ cands, x.fenKey = y.fenKey → P x = P y)
    (typed : 0 < c.cooldownPlies → ∀ x y, x.type = y.type → P x = P y) (cap : Option Int) :
    mined cands c opening ev st cap =
      (mined (cands.filter P) c opening ev st none).bind fun a =>
        (mined (cands.filter fun x => !P x) c opening ev st none).map fun b =>
          selectPuzzles (a ++ b) cap := by
  unfold mined
  rw [thinned_filter memoryless st distinct P placed closed typed,
    thinned_filter memoryless st distinct (fun x => !P x)
      (fun x y ply fen => by rw [placed x y ply fen])
      (fun x x_mem y y_mem same => by rw [closed x x_mem y y_mem same])
      (fun positive x y same => by rw [typed positive x y same]),
    confirmCandidates_memoryless _ memoryless c st st]
  exact build_split _ opening c ((dedupe_distinct _).imp fun apart => apart.1) P cap

/-! ## Framings and sides of a game -/

theorem avoidCandidate_place {p : ClassifiedPly} {es : Evaluations} {c : Config} {x : Candidate}
    (framed : avoidCandidate p es c = some x) : x.type = .avoidBlunder ∧ x.sourcePly = p.ply := by
  obtain ⟨_, _, _, _, _, -, -, -, -, -, -, rfl⟩ := avoidCandidate_eq_some.mp framed
  exact ⟨rfl, rfl⟩

theorem punishCandidate_place {g : Pgn.Game} {p : ClassifiedPly} {es : Evaluations} {c : Config}
    {x : Candidate} (framed : punishCandidate g p es c = some x) :
    x.type = .punishBlunder ∧ x.sourcePly = p.ply + 1 := by
  obtain ⟨_, _, _, _, _, -, -, -, -, -, -, -, rfl⟩ := punishCandidate_eq_some.mp framed
  exact ⟨rfl, rfl⟩

/-- Keeping a class from at most one candidate whose class is known. -/
theorem toList_filter_of_class {o : Option Candidate} (P : Candidate → Bool) (b : Bool)
    (known : ∀ x, o = some x → P x = b) : o.toList.filter P = if b then o.toList else [] := by
  rcases o with _ | x
  · split <;> rfl
  · simp only [Option.toList_some, List.filter_cons, List.filter_nil, known x rfl]

/-- With both framings, keeping one framing's candidates frames with that framing alone. -/
theorem findCandidates_filter_type {g : Pgn.Game} {cs : List ClassifiedPly} {es : Evaluations}
    {c : Config} {user : Option String} (both : c.puzzleMode = .both) (t : PuzzleType)
    (m : Settings.PuzzleMode) (avoids : (m != .punishBlunder) = (t == .avoidBlunder))
    (punishes : (m != .avoidBlunder) = (t == .punishBlunder)) :
    (findCandidates g cs es c user).filter (·.type == t) =
      findCandidates g cs es { c with puzzleMode := m, maxPuzzlesPerGame := none } user := by
  unfold findCandidates
  rw [List.filter_flatMap]
  refine List.flatMap_congr fun p _ => ?_
  have same_avoid : avoidCandidate p es { c with puzzleMode := m, maxPuzzlesPerGame := none } =
      avoidCandidate p es c := rfl
  have same_punish : punishCandidate g p es { c with puzzleMode := m, maxPuzzlesPerGame := none } =
      punishCandidate g p es c := rfl
  have avoid_class := toList_filter_of_class (·.type == t) (.avoidBlunder == t)
    fun x (framed : avoidCandidate p es c = some x) => by rw [(avoidCandidate_place framed).1]
  have punish_class := toList_filter_of_class (·.type == t) (.punishBlunder == t)
    fun x (framed : punishCandidate g p es c = some x) => by rw [(punishCandidate_place framed).1]
  simp only [same_avoid, same_punish, both]
  split
  · rfl
  rw [List.filter_append, avoids, punishes]
  cases isSide user p.mover true <;> cases isSide user p.mover false <;> cases t <;>
    simp [avoid_class, punish_class]

theorem isSide_some_name (side mover : Color) (same : Bool) :
    isSide (some side.name) mover same = ((mover == side) == same) := by
  cases side <;> cases mover <;> cases same <;> rfl

/-- With no side given, keeping the candidates posed to one side frames for that side. -/
theorem findCandidates_filter_side {g : Pgn.Game} {es : Evaluations} {c : Config}
    (replayed : Replayed g) (side : Color) :
    (findCandidates g (classifyGame g es c) es c none).filter
        (fun x => (g.positionAt x.sourcePly).turn == side) =
      findCandidates g (classifyGame g es c) es c (some side.name) := by
  unfold findCandidates
  rw [List.filter_flatMap]
  refine List.flatMap_congr fun p member => ?_
  have classified := classifiedAt_of_mem member
  have avoid_class := toList_filter_of_class (fun x => (g.positionAt x.sourcePly).turn == side)
    (p.mover == side) fun x (framed : avoidCandidate p es c = some x) => by
      rw [(avoidCandidate_place framed).2, classified.mover]
      rfl
  have punish_class := toList_filter_of_class (fun x => (g.positionAt x.sourcePly).turn == side)
    (p.mover.other == side) fun x (framed : punishCandidate g p es c = some x) => by
      rw [(punishCandidate_place framed).2, replayed.turn_succ classified.ply_lt, classified.mover]
      rfl
  split
  · rfl
  rw [List.filter_append, isSide_some_name, isSide_some_name]
  simp only [isSide, Bool.and_true]
  split <;> split <;> simp only [avoid_class, punish_class, List.filter_nil] <;>
    cases p.mover <;> cases side <;> simp_all [Color.other]

/-! ## Mining a classified game by framing and by side -/

section Mining

variable {σ : Type} {g : Pgn.Game} {es : Evaluations} {c : Config} {opening : Openings.Info}
  {ev : Option (Evaluator σ)} {st : σ}

/-- Mining changes with the framing mode only through the candidates it frames. -/
theorem mined_config (cands : List Candidate) (m : Settings.PuzzleMode) (cap : Option Int) :
    mined cands { c with puzzleMode := m, maxPuzzlesPerGame := none } opening ev st cap =
      mined cands c opening ev st cap :=
  rfl

/-- Mining with both framings ranks together the puzzles mined with each framing alone. -/
theorem extractPuzzles_framings (memoryless : ∀ e, ev = some e → e.Memoryless)
    (both : c.puzzleMode = .both) (user : Option String) :
    ((extractPuzzles g (classifyGame g es c) es c opening ev user).run st).1 =
      ((extractPuzzles g (classifyGame g es c) es
          { c with puzzleMode := .avoidBlunder, maxPuzzlesPerGame := none } opening ev user).run
          st).1.bind fun a =>
        ((extractPuzzles g (classifyGame g es c) es
          { c with puzzleMode := .punishBlunder, maxPuzzlesPerGame := none } opening ev user).run
          st).1.map fun b => selectPuzzles (a ++ b) c.cap := by
  have punishing : (findCandidates g (classifyGame g es c) es c user).filter
      (fun x => !(x.type == .avoidBlunder)) =
      (findCandidates g (classifyGame g es c) es c user).filter (·.type == .punishBlunder) :=
    List.filter_congr fun x _ => by cases x.type <;> rfl
  rw [extractPuzzles_eq_mined, extractPuzzles_eq_mined, extractPuzzles_eq_mined,
    ← findCandidates_filter_type both .avoidBlunder .avoidBlunder rfl rfl,
    ← findCandidates_filter_type both .punishBlunder .punishBlunder rfl rfl, ← punishing,
    mined_config, mined_config]
  have framing : ∀ x y : Candidate, x.type = y.type →
      (x.type == .avoidBlunder) = (y.type == .avoidBlunder) := fun x y same => by rw [same]
  exact mined_split memoryless st (·.type == .avoidBlunder)
    (findCandidates_distinct g es c user (classifyGame_increasing g es c))
    (fun x y ply _ => framing x y (congrArg Prod.snd ply))
    (fun x _ y _ fen => framing x y (congrArg Prod.snd fen)) (fun _ => framing) c.cap

/-- Without a cooldown, mining for both sides ranks together the puzzles mined for each side: a
candidate's side is the side to move at its ply, and one position key means one side to move. -/
theorem extractPuzzles_sides (replayed : Replayed g)
    (memoryless : ∀ e, ev = some e → e.Memoryless) (nonpos : c.cooldownPlies ≤ 0) :
    ((extractPuzzles g (classifyGame g es c) es c opening ev none).run st).1 =
      ((extractPuzzles g (classifyGame g es c) es { c with maxPuzzlesPerGame := none } opening ev
          (some Color.white.name)).run st).1.bind fun w =>
        ((extractPuzzles g (classifyGame g es c) es { c with maxPuzzlesPerGame := none } opening ev
          (some Color.black.name)).run st).1.map fun b => selectPuzzles (w ++ b) c.cap := by
  have black : (findCandidates g (classifyGame g es c) es c none).filter
      (fun x => !((g.positionAt x.sourcePly).turn == .white)) =
      (findCandidates g (classifyGame g es c) es c none).filter
        (fun x => (g.positionAt x.sourcePly).turn == .black) :=
    List.filter_congr fun x _ => by cases (g.positionAt x.sourcePly).turn <;> rfl
  have uncapped : ∀ (user : Option String) (cap : Option Int),
      mined (findCandidates g (classifyGame g es c) es { c with maxPuzzlesPerGame := none } user)
        { c with maxPuzzlesPerGame := none } opening ev st cap =
      mined (findCandidates g (classifyGame g es c) es c user) c opening ev st cap :=
    fun _ _ => rfl
  rw [extractPuzzles_eq_mined, extractPuzzles_eq_mined, extractPuzzles_eq_mined, uncapped,
    uncapped, ← findCandidates_filter_side replayed, ← findCandidates_filter_side replayed, ← black]
  have side : ∀ x y : Candidate, x.sourcePly = y.sourcePly →
      ((g.positionAt x.sourcePly).turn == .white) = ((g.positionAt y.sourcePly).turn == .white) :=
    fun x y same => by rw [same]
  refine mined_split memoryless st (fun x => (g.positionAt x.sourcePly).turn == .white)
    (findCandidates_distinct g es c none (classifyGame_increasing g es c))
    (fun x y ply _ => side x y (congrArg Prod.fst ply)) (fun x x_mem y y_mem fen => ?_)
    (fun positive => absurd positive (not_lt.mpr nonpos)) c.cap
  have x_posed := posedAt_of_mem_findCandidates replayed x_mem
  have y_posed := posedAt_of_mem_findCandidates replayed y_mem
  have keys :
      positionKey (g.positionAt x.sourcePly).fen = positionKey (g.positionAt y.sourcePly).fen := by
    rw [← x_posed.fen_eq, ← y_posed.fen_eq]
    exact congrArg Prod.fst fen
  rw [turn_eq_of_positionKey_eq keys]

end Mining

/-! ## Analyses by framing and by side -/

section Analysis

variable {σ : Type} {pgn : String} {c : Config} {ev : Option (Evaluator σ)}
  {supplied : Evaluations} {book : Openings.Book} {st : σ}

/-- An analysis with both framings ranks together the puzzles of the analyses with each framing
alone and no cap. -/
theorem analyzeGame_framings (memoryless : ∀ e, ev = some e → e.Memoryless)
    (both : c.puzzleMode = .both) (username userColor : Option String) :
    ((analyzeGame pgn c ev supplied username userColor book).run st).1.map GameAnalysis.puzzles =
      ((analyzeGame pgn { c with puzzleMode := .avoidBlunder, maxPuzzlesPerGame := none } ev
          supplied username userColor book).run st).1.bind fun a =>
        ((analyzeGame pgn { c with puzzleMode := .punishBlunder, maxPuzzlesPerGame := none } ev
          supplied username userColor book).run st).1.map fun p =>
            selectPuzzles (a.puzzles ++ p.puzzles) c.cap := by
  have gather : ∀ m g, gatherEvaluations g { c with puzzleMode := m, maxPuzzlesPerGame := none } ev
      supplied = gatherEvaluations g c ev supplied := fun _ _ => rfl
  have classify : ∀ m g es,
      classifyGame g es { c with puzzleMode := m, maxPuzzlesPerGame := none } =
        classifyGame g es c := fun _ _ _ => rfl
  rcases analyzeGame_staged pgn c ev supplied book st with
      ⟨f, failed⟩ | ⟨g, opening, es, st', -, mined⟩
  · rw [failed c (fun _ => rfl), failed _ (gather _), failed _ (gather _)]
    rfl
  rw [mined c (fun _ => rfl), mined _ (gather _), mined _ (gather _), classify, classify,
    extractPuzzles_framings memoryless both]
  rcases ((extractPuzzles g (classifyGame g es c) es
    { c with puzzleMode := .avoidBlunder, maxPuzzlesPerGame := none } opening
    ev (userColor.orElse fun _ => (Pgn.userColor g.tags username).map Color.name)).run st').1
    with e | avoiding
  · rfl
  rcases ((extractPuzzles g (classifyGame g es c) es
    { c with puzzleMode := .punishBlunder, maxPuzzlesPerGame := none } opening
    ev (userColor.orElse fun _ => (Pgn.userColor g.tags username).map Color.name)).run st').1
    with e | punishing <;> rfl

/-- Without a cooldown, an analysis with no side given ranks together the puzzles of the analyses
for White and for Black with no cap. -/
theorem analyzeGame_sides (memoryless : ∀ e, ev = some e → e.Memoryless)
    (nonpos : c.cooldownPlies ≤ 0) :
    ((analyzeGame pgn c ev supplied none none book).run st).1.map GameAnalysis.puzzles =
      ((analyzeGame pgn { c with maxPuzzlesPerGame := none } ev supplied none (some "white")
          book).run st).1.bind fun w =>
        ((analyzeGame pgn { c with maxPuzzlesPerGame := none } ev supplied none (some "black")
          book).run st).1.map fun b => selectPuzzles (w.puzzles ++ b.puzzles) c.cap := by
  have white : (some "white" : Option String) = some Color.white.name := rfl
  have black : (some "black" : Option String) = some Color.black.name := rfl
  have gather : ∀ g, gatherEvaluations g { c with maxPuzzlesPerGame := none } ev supplied =
      gatherEvaluations g c ev supplied := fun _ => rfl
  have classify : ∀ g es, classifyGame g es { c with maxPuzzlesPerGame := none } =
      classifyGame g es c := fun _ _ => rfl
  rw [white, black]
  rcases analyzeGame_staged pgn c ev supplied book st with
      ⟨f, failed⟩ | ⟨g, opening, es, st', parsed, mined⟩
  · rw [failed c (fun _ => rfl), failed _ gather, failed _ gather]
    rfl
  have nobody : (none : Option String).orElse
      (fun _ => (Pgn.userColor g.tags none).map Color.name) = none := rfl
  have named : ∀ side : Color, (some side.name).orElse
      (fun _ => (Pgn.userColor g.tags none).map Color.name) = some side.name := fun _ => rfl
  rw [mined c (fun _ => rfl), mined _ gather, mined _ gather, classify, nobody, named, named,
    extractPuzzles_sides (replayed_of_parseGame parsed) memoryless nonpos]
  rcases ((extractPuzzles g (classifyGame g es c) es { c with maxPuzzlesPerGame := none }
    opening ev (some Color.white.name)).run st').1 with e | whites
  · rfl
  rcases ((extractPuzzles g (classifyGame g es c) es { c with maxPuzzlesPerGame := none }
    opening ev (some Color.black.name)).run st').1 with e | blacks <;> rfl

/-- With an evaluator whose answers depend only on the request: an analysis with both framings
returns the ranking, under its cap, of the puzzles of the uncapped analyses with each framing
alone; and without a cooldown, an analysis with no side given or inferred returns the ranking of
the puzzles of the uncapped analyses for White and for Black.  Failures agree as well: the
analysis fails exactly when one of the parts does, with the same error. -/
theorem analyzeGame_decomposes (pgn : String) (c : Config) (ev : Option (Evaluator σ))
    (supplied : Evaluations) (book : Openings.Book) (st : σ)
    (memoryless : ∀ e, ev = some e → e.Memoryless) :
    (c.puzzleMode = .both → ∀ username userColor : Option String,
      ((analyzeGame pgn c ev supplied username userColor book).run st).1.map GameAnalysis.puzzles =
        ((analyzeGame pgn { c with puzzleMode := .avoidBlunder, maxPuzzlesPerGame := none } ev
            supplied username userColor book).run st).1.bind fun a =>
          ((analyzeGame pgn { c with puzzleMode := .punishBlunder, maxPuzzlesPerGame := none } ev
            supplied username userColor book).run st).1.map fun p =>
              selectPuzzles (a.puzzles ++ p.puzzles) c.cap) ∧
    (c.cooldownPlies ≤ 0 →
      ((analyzeGame pgn c ev supplied none none book).run st).1.map GameAnalysis.puzzles =
        ((analyzeGame pgn { c with maxPuzzlesPerGame := none } ev supplied none (some "white")
            book).run st).1.bind fun w =>
          ((analyzeGame pgn { c with maxPuzzlesPerGame := none } ev supplied none (some "black")
            book).run st).1.map fun b => selectPuzzles (w.puzzles ++ b.puzzles) c.cap) :=
  ⟨fun both username userColor => analyzeGame_framings memoryless both username userColor,
    fun nonpos => analyzeGame_sides memoryless nonpos⟩

/-- An evaluator that answers every position with no line, as an engine does where no move is
legal. -/
def linelessEvaluator : Evaluator Unit := ⟨fun fen _ _ => pure (.ok { fen := fen, lines := [] })⟩

/-- The lineless evaluator answers from the request alone. -/
theorem linelessEvaluator_memoryless : ∀ e, some linelessEvaluator = some e → e.Memoryless := by
  rintro e ⟨⟩ _ _ _ _ _
  rfl

/-- The decomposition applies to the scholar's mate mined from its first ply with its two supplied
evaluations and the lineless evaluator. -/
theorem analyzeGame_decomposes_scholarsMate :
    (∀ e, some linelessEvaluator = some e → e.Memoryless) ∧
      (firstPlyConfig.puzzleMode = .both → ∀ username userColor : Option String,
        ((analyzeGame scholarsMate firstPlyConfig (some linelessEvaluator) scholarsMateEvaluations
            username userColor Openings.defaultBook).run ()).1.map GameAnalysis.puzzles =
          ((analyzeGame scholarsMate
              { firstPlyConfig with puzzleMode := .avoidBlunder, maxPuzzlesPerGame := none }
              (some linelessEvaluator) scholarsMateEvaluations username userColor
              Openings.defaultBook).run ()).1.bind fun a =>
            ((analyzeGame scholarsMate
              { firstPlyConfig with puzzleMode := .punishBlunder, maxPuzzlesPerGame := none }
              (some linelessEvaluator) scholarsMateEvaluations username userColor
              Openings.defaultBook).run ()).1.map fun p =>
                selectPuzzles (a.puzzles ++ p.puzzles) firstPlyConfig.cap) ∧
      (firstPlyConfig.cooldownPlies ≤ 0 →
        ((analyzeGame scholarsMate firstPlyConfig (some linelessEvaluator) scholarsMateEvaluations
            none none Openings.defaultBook).run ()).1.map GameAnalysis.puzzles =
          ((analyzeGame scholarsMate { firstPlyConfig with maxPuzzlesPerGame := none }
              (some linelessEvaluator) scholarsMateEvaluations none (some "white")
              Openings.defaultBook).run ()).1.bind fun w =>
            ((analyzeGame scholarsMate { firstPlyConfig with maxPuzzlesPerGame := none }
              (some linelessEvaluator) scholarsMateEvaluations none (some "black")
              Openings.defaultBook).run ()).1.map fun b =>
                selectPuzzles (w.puzzles ++ b.puzzles) firstPlyConfig.cap) :=
  ⟨linelessEvaluator_memoryless, analyzeGame_decomposes scholarsMate firstPlyConfig _
    scholarsMateEvaluations Openings.defaultBook () linelessEvaluator_memoryless⟩

end Analysis

end Analysis
end Tactician
