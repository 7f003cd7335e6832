import Mathlib
import Tactician.Proofs.Mining.Candidate

/-!
# Thinning and ranking mined puzzles

After the filters and the confirmation pass, an analysis thins its surviving candidates twice,
reading them in ply order (avoiding before punishing at one ply): the cooldown drops a candidate
that comes within `cooldownPlies` of the last kept one of its framing, and deduplication drops one
whose ply and framing, or whose position (first four FEN fields) and framing, it has already seen.
The puzzles built from the rest are ranked by severity, ply, framing and swing, and the cap keeps
a prefix of that ranking.

Both thinning passes are greedy folds that keep or append each candidate they read, and each is
described here by the invariant of its accumulator (`CooldownState`, `DedupeState`): what has
been kept so far is spaced, or has pairwise distinct keys, and the bookkeeping records exactly
what was kept.  The main result, `analyzeGame_selection`, says that the puzzles of a finished
analysis have distinct keys, are spaced by the cooldown and sorted by rank, that a cap keeps a
prefix of the uncapped ranking, and that without a cap no surviving candidate is lost unless
another one of its framing shadows it.
-/

namespace Tactician
namespace Analysis

/-! ## Greedy passes -/

section Greedy

variable {α β : Type}

/-- A property of the accumulator that every step keeps holds after a left fold. -/
theorem foldl_invariant (inv : β → Prop) {step : β → α → β} (xs : List α) {init : β}
    (start : inv init) (keeps : ∀ acc a, inv acc → inv (step acc a)) :
    inv (xs.foldl step init) := by
  induction xs generalizing init with
  | nil => exact start
  | cons x rest ih => exact ih (keeps init x start)

/-- An item that a greedy pass (one keeping or appending each item it reads) did not keep was
passed over at one of its occurrences, by a step that left the kept list as it was; what had been
kept before that occurrence was read before it and is still kept at the end. -/
theorem exists_skip_of_not_mem_foldl {step : List α × β → α → List α × β}
    (keeps : ∀ acc a, (step acc a).1 = acc.1 ∨ (step acc a).1 = acc.1 ++ [a])
    {xs : List α} {start : β} {x : α} (mem : x ∈ xs)
    (dropped : x ∉ (xs.foldl step ([], start)).1) :
    ∃ pre post, xs = pre ++ x :: post ∧
      (step (pre.foldl step ([], start)) x).1 = (pre.foldl step ([], start)).1 ∧
      ∀ y ∈ (pre.foldl step ([], start)).1, y ∈ pre ∧ y ∈ (xs.foldl step ([], start)).1 := by
  obtain ⟨pre, post, rfl⟩ := List.append_of_mem mem
  obtain ⟨later, -, finish⟩ := foldl_keep_sublist keeps (x :: post) (pre.foldl step ([], start))
  rw [List.foldl_append] at dropped ⊢
  rw [finish] at dropped ⊢
  refine ⟨pre, post, rfl, ?_, fun y kept => ⟨?_, List.mem_append_left _ kept⟩⟩
  · rcases keeps (pre.foldl step ([], start)) x with same | grown
    · exact same
    · obtain ⟨rest, -, tail⟩ := foldl_keep_sublist keeps post (step (pre.foldl step ([], start)) x)
      rw [List.foldl_cons, tail, grown] at finish
      rw [← finish] at dropped
      simp at dropped
  · obtain ⟨ys, sub, eq⟩ := foldl_keep_sublist keeps pre ([], start)
    rw [eq, List.nil_append] at kept
    exact sub.subset kept

end Greedy

/-! ## Keys and the order of reading -/

/-- The ply and framing of a candidate; no two kept candidates share one. -/
def Candidate.plyKey (x : Candidate) : Nat × PuzzleType := (x.sourcePly, x.type)

/-- The position (first four FEN fields) and framing of a candidate; no two kept candidates
share one. -/
def Candidate.fenKey (x : Candidate) : String × PuzzleType := (positionKey x.fen, x.type)

/-- The order in which the thinning passes read candidates: by ply, avoiding before punishing. -/
def plyOrder (a b : Candidate) : Bool :=
  a.sourcePly < b.sourcePly || (a.sourcePly == b.sourcePly && a.type.order ≤ b.type.order)

theorem plyOrder_trans (a b c : Candidate) (ab : plyOrder a b = true) (bc : plyOrder b c = true) :
    plyOrder a c = true := by
  simp only [plyOrder, Bool.or_eq_true, decide_eq_true_eq, Bool.and_eq_true, beq_iff_eq] at *
  omega

theorem plyOrder_total (a b : Candidate) : (plyOrder a b || plyOrder b a) = true := by
  simp only [plyOrder, Bool.or_eq_true, decide_eq_true_eq, Bool.and_eq_true, beq_iff_eq]
  omega

/-- The thinning passes read candidates in ply order. -/
theorem byPlyAndType_sorted (cands : List Candidate) :
    (byPlyAndType cands).Pairwise fun a b => plyOrder a b = true :=
  List.pairwise_mergeSort plyOrder_trans plyOrder_total cands

/-- Candidates already in ply order are read as they come. -/
theorem byPlyAndType_of_sorted {cands : List Candidate}
    (sorted : cands.Pairwise fun a b => plyOrder a b = true) : byPlyAndType cands = cands :=
  List.mergeSort_of_pairwise sorted

/-- A candidate read before another in ply order is not at a later ply. -/
theorem sourcePly_le_of_read_before {cands pre post : List Candidate} {x y : Candidate}
    (order : byPlyAndType cands = pre ++ x :: post) (before : y ∈ pre) :
    y.sourcePly ≤ x.sourcePly := by
  have sorted := byPlyAndType_sorted cands
  rw [order, List.pairwise_append] at sorted
  have ordered := sorted.2.2 y before x List.mem_cons_self
  simp only [plyOrder, Bool.or_eq_true, decide_eq_true_eq, Bool.and_eq_true, beq_iff_eq] at ordered
  omega

/-! ## Deduplication -/

/-- What deduplication carries from candidate to candidate: the kept candidates, and the plies and
positions (each with its framing) it has seen. -/
abbrev DedupeAcc := List Candidate × List (Nat × PuzzleType) × List (String × PuzzleType)

/-- One step of deduplication, spelled with projections: a candidate is kept unless its ply and
framing, or its position and framing, was seen. -/
def dedupeStep (acc : DedupeAcc) (cand : Candidate) : DedupeAcc :=
  if acc.2.1.contains cand.plyKey || acc.2.2.contains cand.fenKey then acc
  else (acc.1 ++ [cand], cand.plyKey :: acc.2.1, cand.fenKey :: acc.2.2)

theorem dedupe_eq_foldl (cands : List Candidate) :
    dedupe cands = ((byPlyAndType cands).foldl dedupeStep ([], [], [])).1 :=
  rfl

theorem dedupeStep_keeps (acc : DedupeAcc) (cand : Candidate) :
    (dedupeStep acc cand).1 = acc.1 ∨ (dedupeStep acc cand).1 = acc.1 ++ [cand] := by
  unfold dedupeStep
  split
  · exact .inl rfl
  · exact .inr rfl

/-- A step of deduplication that keeps nothing new has seen one of the candidate's keys. -/
theorem seen_of_dedupeStep_eq {acc : DedupeAcc} {cand : Candidate}
    (same : (dedupeStep acc cand).1 = acc.1) :
    cand.plyKey ∈ acc.2.1 ∨ cand.fenKey ∈ acc.2.2 := by
  unfold dedupeStep at same
  split at same
  · rename_i seen
    simpa using seen
  · simp at same

/-- What deduplication has kept so far: candidates with pairwise distinct keys, and the keys it
has seen are exactly theirs. -/
structure DedupeState (kept : List Candidate) (plies : List (Nat × PuzzleType))
    (fens : List (String × PuzzleType)) : Prop where
  distinct : kept.Pairwise fun a b => a.plyKey ≠ b.plyKey ∧ a.fenKey ≠ b.fenKey
  plies_iff : ∀ k, k ∈ plies ↔ ∃ y ∈ kept, y.plyKey = k
  fens_iff : ∀ k, k ∈ fens ↔ ∃ y ∈ kept, y.fenKey = k

theorem dedupeState_nil : DedupeState [] [] [] :=
  ⟨List.Pairwise.nil, by simp, by simp⟩

/-- A key list that grows by one kept candidate's key. -/
theorem mem_cons_key_iff {κ : Type} {key : Candidate → κ} {keys : List κ} {kept : List Candidate}
    (keys_iff : ∀ k, k ∈ keys ↔ ∃ y ∈ kept, key y = k) (x : Candidate) (k : κ) :
    k ∈ key x :: keys ↔ ∃ y ∈ kept ++ [x], key y = k := by
  simp only [List.mem_cons, keys_iff, List.mem_append, List.not_mem_nil, or_false]
  constructor
  · rintro (rfl | ⟨y, kept_y, rfl⟩)
    · exact ⟨x, .inr rfl, rfl⟩
    · exact ⟨y, .inl kept_y, rfl⟩
  · rintro ⟨y, (kept_y | rfl), rfl⟩
    · exact .inr ⟨y, kept_y, rfl⟩
    · exact .inl rfl

/-- Keeping a candidate with two unseen keys keeps the invariant. -/
theorem DedupeState.append {kept : List Candidate} {plies : List (Nat × PuzzleType)}
    {fens : List (String × PuzzleType)} (state : DedupeState kept plies fens) {x : Candidate}
    (new_ply : x.plyKey ∉ plies) (new_fen : x.fenKey ∉ fens) :
    DedupeState (kept ++ [x]) (x.plyKey :: plies) (x.fenKey :: fens) := by
  refine ⟨?_, mem_cons_key_iff state.plies_iff x, mem_cons_key_iff state.fens_iff x⟩
  refine List.pairwise_append.mpr ⟨state.distinct, by simp, fun y kept_y z z_mem => ?_⟩
  rw [List.mem_singleton] at z_mem
  subst z_mem
  exact ⟨fun same => new_ply ((state.plies_iff _).mpr ⟨y, kept_y, same⟩),
    fun same => new_fen ((state.fens_iff _).mpr ⟨y, kept_y, same⟩)⟩

theorem DedupeState.step {acc : DedupeAcc} (state : DedupeState acc.1 acc.2.1 acc.2.2)
    (cand : Candidate) :
    DedupeState (dedupeStep acc cand).1 (dedupeStep acc cand).2.1 (dedupeStep acc cand).2.2 := by
  unfold dedupeStep
  split
  · exact state
  · rename_i fresh
    simp only [Bool.or_eq_true, List.contains_iff_mem, not_or] at fresh
    exact state.append fresh.1 fresh.2

/-- The state of deduplication after any prefix of its reading. -/
theorem dedupeState_foldl (xs : List Candidate) :
    DedupeState (xs.foldl dedupeStep ([], [], [])).1 (xs.foldl dedupeStep ([], [], [])).2.1
      (xs.foldl dedupeStep ([], [], [])).2.2 :=
  foldl_invariant (fun acc : DedupeAcc => DedupeState acc.1 acc.2.1 acc.2.2) xs dedupeState_nil
    fun _ cand state => state.step cand

/-- Deduplication keeps candidates with pairwise distinct keys. -/
theorem dedupe_distinct (cands : List Candidate) :
    (dedupe cands).Pairwise fun a b => a.plyKey ≠ b.plyKey ∧ a.fenKey ≠ b.fenKey := by
  rw [dedupe_eq_foldl]
  exact (dedupeState_foldl (byPlyAndType cands)).distinct

/-- A candidate that deduplication drops is shadowed by another, kept one sharing a key with it
and read before it, so at no later ply. -/
theorem exists_shadow_of_not_mem_dedupe {cands : List Candidate} {x : Candidate}
    (mem : x ∈ cands) (dropped : x ∉ dedupe cands) :
    ∃ y ∈ dedupe cands, y ≠ x ∧ y.sourcePly ≤ x.sourcePly ∧
      (y.plyKey = x.plyKey ∨ y.fenKey = x.fenKey) := by
  rw [dedupe_eq_foldl] at dropped ⊢
  obtain ⟨pre, post, order, skipped, before⟩ :=
    exists_skip_of_not_mem_foldl dedupeStep_keeps (mem_byPlyAndType.mpr mem) dropped
  have state := dedupeState_foldl pre
  obtain ⟨y, kept_y, same⟩ : ∃ y ∈ (pre.foldl dedupeStep ([], [], [])).1,
      y.plyKey = x.plyKey ∨ y.fenKey = x.fenKey := by
    rcases seen_of_dedupeStep_eq skipped with seen | seen
    · obtain ⟨y, kept_y, same⟩ := (state.plies_iff _).mp seen
      exact ⟨y, kept_y, .inl same⟩
    · obtain ⟨y, kept_y, same⟩ := (state.fens_iff _).mp seen
      exact ⟨y, kept_y, .inr same⟩
  obtain ⟨read, final⟩ := before y kept_y
  exact ⟨y, final, fun same => dropped (same ▸ final), sourcePly_le_of_read_before order read, same⟩

/-! ## The cooldown -/

/-- The ply of the last kept candidate of a framing, as the cooldown records it. -/
def lastPly (last : List (PuzzleType × Nat)) (t : PuzzleType) : Option Int :=
  (last.find? (·.1 == t)).map fun entry => (entry.2 : Int)

@[simp] theorem lastPly_nil (t : PuzzleType) : lastPly [] t = none :=
  rfl

@[simp] theorem lastPly_cons_self (t : PuzzleType) (p : Nat) (rest : List (PuzzleType × Nat)) :
    lastPly ((t, p) :: rest) t = some (p : Int) := by
  simp [lastPly]

theorem lastPly_cons_of_ne {t t' : PuzzleType} (p : Nat) (rest : List (PuzzleType × Nat))
    (differs : t' ≠ t) : lastPly ((t, p) :: rest) t' = lastPly rest t' := by
  simp [lastPly, Ne.symm differs]

theorem lastPly_filter_of_ne {t t' : PuzzleType} (rest : List (PuzzleType × Nat))
    (differs : t' ≠ t) : lastPly (rest.filter (·.1 != t)) t' = lastPly rest t' := by
  induction rest with
  | nil => rfl
  | cons entry rest ih =>
      obtain ⟨u, p⟩ := entry
      by_cases same : u = t
      · subst same
        rw [List.filter_cons_of_neg (by simp), ih, lastPly_cons_of_ne p rest differs]
      · rw [List.filter_cons_of_pos (by simpa using same)]
        by_cases found : t' = u
        · subst found
          simp
        · rw [lastPly_cons_of_ne p _ found, lastPly_cons_of_ne p rest found, ih]

/-- What the cooldown carries from candidate to candidate: the kept candidates and, per framing,
the ply of the last kept one. -/
abbrev CooldownAcc := List Candidate × List (PuzzleType × Nat)

/-- One step of the cooldown, spelled with projections: a candidate is dropped when it comes
within the cooldown after the last kept one of its framing, and otherwise becomes the last kept
one of its framing. -/
def cooldownStep (cooldown : Int) (acc : CooldownAcc) (cand : Candidate) : CooldownAcc :=
  (lastPly acc.2 cand.type).elim (acc.1 ++ [cand], (cand.type, cand.sourcePly) :: acc.2)
    fun prev => if (cand.sourcePly : Int) ≤ prev + cooldown then acc
      else (acc.1 ++ [cand], (cand.type, cand.sourcePly) :: acc.2.filter (·.1 != cand.type))

theorem applyCooldown_eq_foldl (cands : List Candidate) {cooldown : Int} (positive : 0 < cooldown) :
    applyCooldown cands cooldown =
      ((byPlyAndType cands).foldl (cooldownStep cooldown) ([], [])).1 := by
  unfold applyCooldown
  rw [if_neg (by omega)]
  show (List.foldl _ ([], []) (byPlyAndType cands)).1 = _
  congr 1
  apply List.foldl_ext
  rintro ⟨kept, last⟩ cand -
  simp only [cooldownStep, lastPly]
  split
  · rename_i prev found
    rw [found]
    rfl
  · rename_i found
    rw [found]
    rfl

/-- What one step of the cooldown does: it drops the candidate when it comes within the cooldown
after the last kept one of its framing; otherwise it keeps the candidate and records it as the
last kept one of its framing, leaving the records of the other framings as they were. -/
theorem cooldownStep_cases (cooldown : Int) (acc : CooldownAcc) (cand : Candidate) :
    (∃ prev, lastPly acc.2 cand.type = some prev ∧ (cand.sourcePly : Int) ≤ prev + cooldown ∧
        cooldownStep cooldown acc cand = acc) ∨
      ((∀ prev, lastPly acc.2 cand.type = some prev → prev + cooldown < cand.sourcePly) ∧
        (cooldownStep cooldown acc cand).1 = acc.1 ++ [cand] ∧
        lastPly (cooldownStep cooldown acc cand).2 cand.type = some (cand.sourcePly : Int) ∧
        ∀ t, t ≠ cand.type → lastPly (cooldownStep cooldown acc cand).2 t = lastPly acc.2 t) := by
  unfold cooldownStep
  rcases found : lastPly acc.2 cand.type with _ | prev
  · exact .inr ⟨fun _ unset => (by cases unset), rfl, lastPly_cons_self _ _ _,
      fun t differs => lastPly_cons_of_ne _ _ differs⟩
  · dsimp only [Option.elim]
    split
    · rename_i within
      exact .inl ⟨prev, rfl, within, rfl⟩
    · rename_i clear
      refine .inr ⟨fun p recorded => ?_, rfl, lastPly_cons_self _ _ _, fun t differs => ?_⟩
      · cases recorded
        omega
      · rw [lastPly_cons_of_ne _ _ differs, lastPly_filter_of_ne _ differs]

theorem cooldownStep_keeps (cooldown : Int) (acc : CooldownAcc) (cand : Candidate) :
    (cooldownStep cooldown acc cand).1 = acc.1 ∨
      (cooldownStep cooldown acc cand).1 = acc.1 ++ [cand] := by
  rcases cooldownStep_cases cooldown acc cand with ⟨-, -, -, same⟩ | ⟨-, kept, -⟩
  · exact .inl (by rw [same])
  · exact .inr kept

/-- A step of the cooldown that keeps nothing new found the candidate within the cooldown after
the last kept one of its framing. -/
theorem recent_of_cooldownStep_eq {cooldown : Int} {acc : CooldownAcc} {cand : Candidate}
    (same : (cooldownStep cooldown acc cand).1 = acc.1) :
    ∃ prev, lastPly acc.2 cand.type = some prev ∧ (cand.sourcePly : Int) ≤ prev + cooldown := by
  rcases cooldownStep_cases cooldown acc cand with ⟨prev, found, within, -⟩ | ⟨-, kept, -⟩
  · exact ⟨prev, found, within⟩
  · rw [kept] at same
    simp at same

/-- What the cooldown has kept so far: same-framing candidates spaced by more than the cooldown,
and for each framing the record of the latest kept one. -/
structure CooldownState (cooldown : Int) (kept : List Candidate) (last : List (PuzzleType × Nat)) :
    Prop where
  spaced : kept.Pairwise fun a b => a.type = b.type → (a.sourcePly : Int) + cooldown < b.sourcePly
  latest : ∀ y ∈ kept, ∃ p, lastPly last y.type = some p ∧ (y.sourcePly : Int) ≤ p
  recorded : ∀ t p, lastPly last t = some p → ∃ y ∈ kept, y.type = t ∧ (y.sourcePly : Int) = p

theorem cooldownState_nil (cooldown : Int) : CooldownState cooldown [] [] :=
  ⟨List.Pairwise.nil, by simp, by simp⟩

/-- Keeping a candidate clear of every kept one of its framing, and recording it as the latest
of its framing, keeps the invariant. -/
theorem CooldownState.append {cooldown : Int} {kept : List Candidate}
    {last last' : List (PuzzleType × Nat)} (state : CooldownState cooldown kept last)
    (nonneg : 0 ≤ cooldown) {x : Candidate}
    (clear : ∀ y ∈ kept, y.type = x.type → (y.sourcePly : Int) + cooldown < x.sourcePly)
    (latest : lastPly last' x.type = some (x.sourcePly : Int))
    (others : ∀ t, t ≠ x.type → lastPly last' t = lastPly last t) :
    CooldownState cooldown (kept ++ [x]) last' := by
  refine ⟨List.pairwise_append.mpr ⟨state.spaced, by simp, fun y kept_y z z_mem => ?_⟩,
    fun y y_mem => ?_, fun t p found => ?_⟩
  · rw [List.mem_singleton] at z_mem
    subst z_mem
    exact clear y kept_y
  · rcases List.mem_append.mp y_mem with kept_y | y_eq
    · by_cases same : y.type = x.type
      · have := clear y kept_y same
        exact ⟨x.sourcePly, by rw [same, latest], by omega⟩
      · rw [others _ same]
        exact state.latest y kept_y
    · rw [List.mem_singleton] at y_eq
      subst y_eq
      exact ⟨y.sourcePly, latest, le_refl _⟩
  · by_cases same : t = x.type
    · subst same
      rw [latest, Option.some.injEq] at found
      exact ⟨x, List.mem_append_right _ List.mem_cons_self, rfl, found⟩
    · rw [others _ same] at found
      obtain ⟨y, kept_y, same_type, ply⟩ := state.recorded t p found
      exact ⟨y, List.mem_append_left _ kept_y, same_type, ply⟩

theorem CooldownState.step {cooldown : Int} (positive : 0 < cooldown)
    {acc : CooldownAcc} (state : CooldownState cooldown acc.1 acc.2)
    (cand : Candidate) :
    CooldownState cooldown (cooldownStep cooldown acc cand).1
      (cooldownStep cooldown acc cand).2 := by
  rcases cooldownStep_cases cooldown acc cand with ⟨-, -, -, same⟩ | ⟨clear, kept, latest, others⟩
  · rw [same]
    exact state
  · rw [kept]
    refine state.append positive.le (fun y kept_y same => ?_) latest others
    obtain ⟨p, y_found, below⟩ := state.latest y kept_y
    rw [same] at y_found
    have := clear p y_found
    omega

theorem cooldownState_foldl {cooldown : Int} (positive : 0 < cooldown) (xs : List Candidate) :
    CooldownState cooldown (xs.foldl (cooldownStep cooldown) ([], [])).1
      (xs.foldl (cooldownStep cooldown) ([], [])).2 :=
  foldl_invariant (fun acc : CooldownAcc => CooldownState cooldown acc.1 acc.2) xs
    (cooldownState_nil cooldown)
    fun _ cand state => state.step positive cand

/-- With a positive cooldown, kept candidates of one framing are more than the cooldown apart. -/
theorem applyCooldown_spaced (cands : List Candidate) {cooldown : Int} (positive : 0 < cooldown) :
    (applyCooldown cands cooldown).Pairwise fun a b =>
      a.type = b.type → (a.sourcePly : Int) + cooldown < b.sourcePly := by
  rw [applyCooldown_eq_foldl cands positive]
  exact (cooldownState_foldl positive (byPlyAndType cands)).spaced

/-- A candidate that the cooldown drops comes within the cooldown after another, kept candidate
of its framing. -/
theorem exists_recent_of_not_mem_applyCooldown {cands : List Candidate} {cooldown : Int}
    (positive : 0 < cooldown) {x : Candidate} (mem : x ∈ cands)
    (dropped : x ∉ applyCooldown cands cooldown) :
    ∃ y ∈ applyCooldown cands cooldown, y ≠ x ∧ y.type = x.type ∧
      y.sourcePly ≤ x.sourcePly ∧ (x.sourcePly : Int) ≤ y.sourcePly + cooldown := by
  rw [applyCooldown_eq_foldl cands positive] at dropped ⊢
  obtain ⟨pre, post, order, skipped, before⟩ :=
    exists_skip_of_not_mem_foldl (cooldownStep_keeps cooldown) (mem_byPlyAndType.mpr mem) dropped
  obtain ⟨prev, found, within⟩ := recent_of_cooldownStep_eq skipped
  obtain ⟨y, kept_y, same_type, ply⟩ :=
    (cooldownState_foldl positive pre).recorded x.type prev found
  obtain ⟨read_y, final⟩ := before y kept_y
  refine ⟨y, final, fun same => dropped (same ▸ final), same_type,
    sourcePly_le_of_read_before order read_y, by omega⟩

/-! ## One candidate per ply and framing -/

/-- Classified moves come in strictly increasing ply order. -/
theorem classifyGame_increasing (g : Pgn.Game) (es : Evaluations) (c : Config) :
    (classifyGame g es c).Pairwise fun p q => p.ply < q.ply := by
  unfold classifyGame
  rw [List.pairwise_map]
  refine List.pairwise_lt_range.imp fun {a b} lt => ?_
  dsimp only
  split <;> split <;> exact lt

/-- A framed candidate sits at its move's ply when avoiding and at the next ply when punishing. -/
theorem plyKey_of_mem_findCandidates {g : Pgn.Game} {cs : List ClassifiedPly} {es : Evaluations}
    {c : Config} {user : Option String} {x : Candidate} (mem : x ∈ findCandidates g cs es c user) :
    ∃ p ∈ cs, x.plyKey = (p.ply, .avoidBlunder) ∨ x.plyKey = (p.ply + 1, .punishBlunder) := by
  obtain ⟨p, p_mem, -, -, (⟨-, -, avoid⟩ | ⟨-, -, punish⟩)⟩ := mem_findCandidates.mp mem
  · obtain ⟨_, _, _, _, _, -, -, -, -, -, -, rfl⟩ := avoidCandidate_eq_some.mp avoid
    exact ⟨p, p_mem, .inl rfl⟩
  · obtain ⟨_, _, _, _, _, -, -, -, -, -, -, -, rfl⟩ := punishCandidate_eq_some.mp punish
    exact ⟨p, p_mem, .inr rfl⟩

theorem findCandidates_cons (g : Pgn.Game) (p : ClassifiedPly) (rest : List ClassifiedPly)
    (es : Evaluations) (c : Config) (user : Option String) :
    findCandidates g (p :: rest) es c user =
      findCandidates g [p] es c user ++ findCandidates g rest es c user := by
  simp [findCandidates]

/-- The framings of one move sit at different keys: one avoids and the other punishes. -/
theorem findCandidates_single_distinct (g : Pgn.Game) (p : ClassifiedPly) (es : Evaluations)
    (c : Config) (user : Option String) :
    (findCandidates g [p] es c user).Pairwise fun a b => a.plyKey ≠ b.plyKey := by
  simp only [findCandidates, List.flatMap_cons, List.flatMap_nil, List.append_nil]
  split
  · exact List.Pairwise.nil
  rw [List.pairwise_append]
  refine ⟨by split <;> simp, by split <;> simp,
    fun a a_mem b b_mem => ?_⟩
  split at a_mem
  · split at b_mem
    · rw [Option.mem_toList] at a_mem b_mem
      obtain ⟨_, _, _, _, _, -, -, -, -, -, -, rfl⟩ := avoidCandidate_eq_some.mp a_mem
      obtain ⟨_, _, _, _, _, -, -, -, -, -, -, -, rfl⟩ := punishCandidate_eq_some.mp b_mem
      simp [Candidate.plyKey]
    · cases b_mem
  · cases a_mem

/-- Framing the moves of a game gives at most one candidate per ply and framing. -/
theorem findCandidates_distinct (g : Pgn.Game) (es : Evaluations) (c : Config)
    (user : Option String) :
    ∀ {cs : List ClassifiedPly}, cs.Pairwise (fun p q => p.ply < q.ply) →
      (findCandidates g cs es c user).Pairwise fun a b => a.plyKey ≠ b.plyKey
  | [], _ => List.Pairwise.nil
  | p :: rest, increasing => by
    obtain ⟨later, increasing⟩ := List.pairwise_cons.mp increasing
    rw [findCandidates_cons, List.pairwise_append]
    refine ⟨findCandidates_single_distinct g p es c user,
      findCandidates_distinct g es c user increasing, fun a a_mem b b_mem => ?_⟩
    obtain ⟨q, q_mem, a_key⟩ := plyKey_of_mem_findCandidates a_mem
    obtain ⟨r, r_mem, b_key⟩ := plyKey_of_mem_findCandidates b_mem
    rw [List.mem_singleton] at q_mem
    subst q_mem
    have lt := later r r_mem
    rcases a_key with a_key | a_key <;> rcases b_key with b_key | b_key <;>
      rw [a_key, b_key] <;> simp <;> omega

/-- The confirmation pass keeps or re-grades each candidate in place: it maps the list through a
function that fixes each candidate's ply, framing and position. -/
theorem exists_confirmCandidates_eq_filterMap {σ : Type} (cands : List Candidate)
    (ev : Option (Evaluator σ)) (c : Config) (st : σ) :
    ∃ pick : Candidate → Option Candidate,
      (∀ x y, pick x = some y → y.plyKey = x.plyKey ∧ y.fen = x.fen) ∧
        ((confirmCandidates cands ev c).run st).1 = cands.filterMap pick := by
  have kept : ∀ x y : Candidate, some x = some y → y.plyKey = x.plyKey ∧ y.fen = x.fen := by
    intro x y same
    cases same
    exact ⟨rfl, rfl⟩
  unfold confirmCandidates
  rcases ev with _ | an
  · exact ⟨some, kept, List.filterMap_some.symm⟩
  rcases budget : c.confirmMovetimeMs with _ | t
  · exact ⟨some, kept, List.filterMap_some.symm⟩
  dsimp only
  split
  · exact ⟨some, kept, List.filterMap_some.symm⟩
  refine ⟨_, fun x y picked => ?_, rfl⟩
  dsimp only at picked
  split at picked
  · exact kept x y picked
  · obtain ⟨-, -, -, -, -, -, -, -, -, -, -, -, rfl⟩ := reconfirm_eq_some.mp picked
    exact ⟨rfl, rfl⟩

/-- The candidates of a game that pass the filters and then the confirmation pass, with the
evaluator starting from `st`. -/
def survivors {σ : Type} (g : Pgn.Game) (cs : List ClassifiedPly) (es : Evaluations) (c : Config)
    (ev : Option (Evaluator σ)) (user : Option String) (st : σ) : List Candidate :=
  ((confirmCandidates ((findCandidates g cs es c user).filter (survives · c)) ev c).run st).1

/-- The survivors of a classified game have one candidate per ply and framing. -/
theorem survivors_distinct {σ : Type} (g : Pgn.Game) (es : Evaluations) (c : Config)
    (ev : Option (Evaluator σ)) (user : Option String) (st : σ) :
    (survivors g (classifyGame g es c) es c ev user st).Pairwise
      fun a b => a.plyKey ≠ b.plyKey := by
  obtain ⟨pick, fixes, confirmed⟩ := exists_confirmCandidates_eq_filterMap
    ((findCandidates g (classifyGame g es c) es c user).filter (survives · c)) ev c st
  unfold survivors
  rw [confirmed]
  refine ((findCandidates_distinct g es c user (classifyGame_increasing g es c)).filter _).filterMap
    pick fun a b differs a' picked_a b' picked_b => ?_
  rw [(fixes a a' picked_a).1, (fixes b b' picked_b).1]
  exact differs

/-! ## Building and ranking -/

/-- The ply, framing and position of a candidate. -/
def Candidate.place (x : Candidate) : Nat × PuzzleType × String := (x.sourcePly, x.type, x.fen)

/-- The ply, framing and position of a puzzle. -/
def Puzzle.place (p : Puzzle) : Nat × PuzzleType × String := (p.sourcePly, p.type, p.fen)

/-- Building puzzles keeps each candidate's ply, framing and position, in order. -/
theorem places_of_mapM_buildPuzzle {opening : Openings.Info} {c : Config} :
    ∀ {cands : List Candidate} {ps : List Puzzle},
      cands.mapM (fun x => buildPuzzle x opening c) = .ok ps →
      ps.map Puzzle.place = cands.map Candidate.place
  | [], ps, built => by
    cases built
    rfl
  | x :: rest, ps, built => by
    rw [mapM_cons_except] at built
    rcases head : buildPuzzle x opening c with e | p <;>
      rcases tail : rest.mapM (fun x => buildPuzzle x opening c) with e' | others <;>
      simp only [head, tail, reduceCtorEq, Except.ok.injEq] at built
    subst built
    obtain ⟨type_eq, ply_eq, fen_eq⟩ := buildPuzzle_posed head
    simp [Puzzle.place, Candidate.place, type_eq, ply_eq, fen_eq, places_of_mapM_buildPuzzle tail]

/-- Every input of a successful `mapM` has its image among the outputs. -/
theorem exists_of_mapM_ok_of_mem {α β ε : Type} {f : α → Except ε β} :
    ∀ {xs : List α} {ys : List β}, xs.mapM f = .ok ys → ∀ {x}, x ∈ xs → ∃ y ∈ ys, f x = .ok y
  | [], _, _, _, mem => by cases mem
  | x :: rest, ys, mapped, z, mem => by
    rw [mapM_cons_except] at mapped
    rcases head : f x with e | y <;> rcases tail : rest.mapM f with e' | others <;>
      simp only [head, tail, reduceCtorEq, Except.ok.injEq] at mapped
    subst mapped
    rcases List.mem_cons.mp mem with rfl | later
    · exact ⟨y, List.mem_cons_self, head⟩
    · obtain ⟨w, w_mem, image⟩ := exists_of_mapM_ok_of_mem tail later
      exact ⟨w, List.mem_cons_of_mem y w_mem, image⟩

/-- The rank of a puzzle as a lexicographic key: severity (highest first), then ply, then framing
(avoiding first), then swing (largest first). -/
def rankKey (p : Puzzle) : Int ×ₗ Nat ×ₗ Nat ×ₗ Int :=
  toLex (-(p.severity : Int), toLex (p.sourcePly, toLex (p.type.order, -p.swing)))

/-- Without a cap, the puzzles are sorted by rank, stably. -/
theorem selectPuzzles_none (ps : List Puzzle) :
    selectPuzzles ps none = ps.mergeSort fun p q => decide (rankKey p ≤ rankKey q) := by
  unfold selectPuzzles
  dsimp only
  congr
  funext p q
  rw [Bool.eq_iff_iff]
  simp only [rankKey, Prod.Lex.toLex_le_toLex, Bool.or_eq_true, decide_eq_true_eq,
    Bool.and_eq_true, beq_iff_eq]

/-- A cap keeps a prefix of the uncapped ranking; a cap that is not positive keeps all of it. -/
theorem selectPuzzles_some (ps : List Puzzle) (n : Int) :
    selectPuzzles ps (some n) =
      if n ≤ 0 then selectPuzzles ps none else (selectPuzzles ps none).take n.toNat :=
  rfl

theorem rankKey_le_trans (p q r : Puzzle) (pq : decide (rankKey p ≤ rankKey q) = true)
    (qr : decide (rankKey q ≤ rankKey r) = true) : decide (rankKey p ≤ rankKey r) = true := by
  simp only [decide_eq_true_eq] at *
  exact le_trans pq qr

theorem rankKey_le_total (p q : Puzzle) :
    (decide (rankKey p ≤ rankKey q) || decide (rankKey q ≤ rankKey p)) = true := by
  simpa using le_total (rankKey p) (rankKey q)

/-- The uncapped ranking is sorted by rank. -/
theorem selectPuzzles_none_sorted (ps : List Puzzle) :
    (selectPuzzles ps none).Pairwise fun p q => rankKey p ≤ rankKey q := by
  rw [selectPuzzles_none]
  simpa using List.pairwise_mergeSort rankKey_le_trans rankKey_le_total ps

/-- Ranking an uncapped ranking again changes nothing. -/
theorem selectPuzzles_selectPuzzles_none (ps : List Puzzle) (cap : Option Int) :
    selectPuzzles (selectPuzzles ps none) cap = selectPuzzles ps cap := by
  have again : selectPuzzles (selectPuzzles ps none) none = selectPuzzles ps none := by
    rw [selectPuzzles_none (selectPuzzles ps none)]
    exact List.mergeSort_of_pairwise (by simpa using selectPuzzles_none_sorted ps)
  rcases cap with _ | n
  · exact again
  · rw [selectPuzzles_some, selectPuzzles_some, again]

/-- The selected puzzles are a prefix of a reordering of the puzzles. -/
theorem selectPuzzles_sublist_perm (ps : List Puzzle) (cap : Option Int) :
    (selectPuzzles ps cap).Sublist (selectPuzzles ps none) ∧ (selectPuzzles ps none).Perm ps := by
  refine ⟨?_, by rw [selectPuzzles_none]; exact List.mergeSort_perm ps _⟩
  rcases cap with _ | n
  · exact List.Sublist.refl _
  · rw [selectPuzzles_some]
    split
    · exact List.Sublist.refl _
    · exact List.take_sublist _ _

/-- A relation that holds both ways between any two puzzles holds between any two selected ones. -/
theorem selectPuzzles_pairwise {R : Puzzle → Puzzle → Prop} (symm : ∀ {p q}, R p q → R q p)
    {ps : List Puzzle} (apart : ps.Pairwise R) (cap : Option Int) :
    (selectPuzzles ps cap).Pairwise R := by
  obtain ⟨prefix_of, perm⟩ := selectPuzzles_sublist_perm ps cap
  exact (apart.perm perm.symm symm).sublist prefix_of

/-- The selected puzzles are sorted by rank. -/
theorem selectPuzzles_sorted (ps : List Puzzle) (cap : Option Int) :
    (selectPuzzles ps cap).Pairwise fun p q => rankKey p ≤ rankKey q :=
  (selectPuzzles_none_sorted ps).sublist (selectPuzzles_sublist_perm ps cap).1

/-! ## What the thinning passes keep -/

/-- Two places (ply, framing, position) that the thinning passes keep apart: different plies or
framings, different positions or framings, and more than the cooldown apart when of one
framing. -/
def Apart (cooldown : Int) (a b : Nat × PuzzleType × String) : Prop :=
  (a.1, a.2.1) ≠ (b.1, b.2.1) ∧ (positionKey a.2.2, a.2.1) ≠ (positionKey b.2.2, b.2.1) ∧
    (a.2.1 = b.2.1 → cooldown < |(a.1 : Int) - b.1|)

theorem Apart.symm {cooldown : Int} {a b : Nat × PuzzleType × String} (apart : Apart cooldown a b) :
    Apart cooldown b a := by
  obtain ⟨plies, fens, spaced⟩ := apart
  exact ⟨Ne.symm plies, Ne.symm fens, fun same => abs_sub_comm (a.1 : Int) b.1 ▸ spaced same.symm⟩

/-- In a list with distinct keys, two members with one key are one member. -/
theorem eq_of_key_eq {α κ : Type} {key : α → κ} {xs : List α}
    (distinct : xs.Pairwise fun a b => key a ≠ key b) {x y : α} (hx : x ∈ xs) (hy : y ∈ xs)
    (same : key y = key x) : y = x := by
  induction xs with
  | nil => cases hx
  | cons h t ih =>
      obtain ⟨head_differs, distinct⟩ := List.pairwise_cons.mp distinct
      rcases List.mem_cons.mp hx with rfl | x_tail <;> rcases List.mem_cons.mp hy with rfl | y_tail
      · rfl
      · exact absurd same.symm (head_differs y y_tail)
      · exact absurd same (head_differs x x_tail)
      · exact ih distinct x_tail y_tail

theorem applyCooldown_of_nonpos (cands : List Candidate) {cooldown : Int} (nonpos : cooldown ≤ 0) :
    applyCooldown cands cooldown = cands := by
  unfold applyCooldown
  rw [if_pos nonpos]

/-- The candidates kept for building stand pairwise apart.  With a positive cooldown the spacing
comes from the cooldown; otherwise from the distinct plies that deduplication keeps. -/
theorem thinned_apart (cands : List Candidate) (cooldown : Int) :
    ((dedupe (applyCooldown cands cooldown)).map Candidate.place).Pairwise (Apart cooldown) := by
  rw [List.pairwise_map]
  have keys := dedupe_distinct (applyCooldown cands cooldown)
  by_cases positive : 0 < cooldown
  · have spaced : (applyCooldown cands cooldown).Pairwise fun a b =>
        a.type = b.type → cooldown < |(a.sourcePly : Int) - b.sourcePly| :=
      (applyCooldown_spaced cands positive).imp fun {a b} later same =>
        lt_abs.mpr (.inr (by have := later same; omega))
    have reread := (spaced.perm (List.mergeSort_perm _ plyOrder).symm fun {a b} apart same =>
      abs_sub_comm (a.sourcePly : Int) b.sourcePly ▸ apart same.symm).sublist
        (dedupe_sublist (applyCooldown cands cooldown))
    exact (keys.and reread).imp fun {a b} ⟨⟨plies, fens⟩, apart⟩ => ⟨plies, fens, apart⟩
  · refine keys.imp fun {a b} ⟨plies, fens⟩ => ⟨plies, fens, fun same => ?_⟩
    have same : a.type = b.type := same
    have differs : a.sourcePly ≠ b.sourcePly := fun eq =>
      plies (by simp only [Candidate.plyKey, eq, same])
    show cooldown < |(a.sourcePly : Int) - b.sourcePly|
    exact lt_abs.mpr (by omega)

/-- Without a cap, every survivor becomes a puzzle unless another survivor of its framing stands
at the same position, or within the cooldown before it. -/
def Kept (cooldown : Int) (cands : List Candidate) (build : Candidate → Except Failure Puzzle)
    (ps : List Puzzle) : Prop :=
  ∀ x ∈ cands, (∃ p ∈ ps, build x = .ok p) ∨
    ∃ y ∈ cands, y ≠ x ∧ y.type = x.type ∧
      (positionKey y.fen = positionKey x.fen ∨
        (x.sourcePly : Int) - cooldown ≤ y.sourcePly ∧ y.sourcePly < x.sourcePly)

/-- A candidate of a list with distinct plies per framing that the thinning passes drop is
shadowed by another of its framing: at the same position, or within the cooldown before it. -/
theorem exists_shadow_of_not_thinned {cands : List Candidate}
    (distinct : cands.Pairwise fun a b => a.plyKey ≠ b.plyKey) (cooldown : Int) {x : Candidate}
    (mem : x ∈ cands) (dropped : x ∉ dedupe (applyCooldown cands cooldown)) :
    ∃ y ∈ cands, y ≠ x ∧ y.type = x.type ∧
      (positionKey y.fen = positionKey x.fen ∨
        (x.sourcePly : Int) - cooldown ≤ y.sourcePly ∧ y.sourcePly < x.sourcePly) := by
  by_cases cooled : x ∈ applyCooldown cands cooldown
  · obtain ⟨y, kept_y, differs, -, same⟩ := exists_shadow_of_not_mem_dedupe cooled dropped
    have y_mem := mem_of_mem_applyCooldown (mem_of_mem_dedupe kept_y)
    rcases same with same | same
    · exact absurd (eq_of_key_eq distinct mem y_mem same) differs
    · obtain ⟨position, type_eq⟩ := Prod.mk.inj same
      exact ⟨y, y_mem, differs, type_eq, .inl position⟩
  · have positive : 0 < cooldown := by
      by_contra nonpos
      rw [applyCooldown_of_nonpos cands (not_lt.mp nonpos)] at cooled
      exact cooled mem
    obtain ⟨y, kept_y, differs, type_eq, before, within⟩ :=
      exists_recent_of_not_mem_applyCooldown positive mem cooled
    have y_mem := mem_of_mem_applyCooldown kept_y
    have other_ply : y.sourcePly ≠ x.sourcePly := fun eq =>
      differs (eq_of_key_eq distinct mem y_mem (by simp only [Candidate.plyKey, eq, type_eq]))
    exact ⟨y, y_mem, differs, type_eq, .inr ⟨by omega, by omega⟩⟩

/-! ## Mining a classified game -/

/-- The puzzles mined from a classified game stand pairwise apart. -/
theorem extractPuzzles_apart {σ : Type} {g : Pgn.Game} {cs : List ClassifiedPly}
    {es : Evaluations} {c : Config} {opening : Openings.Info} {ev : Option (Evaluator σ)}
    {user : Option String} {st : σ} {ps : List Puzzle}
    (run : ((extractPuzzles g cs es c opening ev user).run st).1 = .ok ps) :
    ps.Pairwise fun p q => Apart c.cooldownPlies p.place q.place := by
  rw [extractPuzzles_run, except_map_eq_ok] at run
  obtain ⟨built, mapped, rfl⟩ := run
  have apart := thinned_apart (((confirmCandidates ((findCandidates g cs es c user).filter
    (survives · c)) ev c).run st).1) c.cooldownPlies
  rw [← places_of_mapM_buildPuzzle mapped, List.pairwise_map] at apart
  exact selectPuzzles_pairwise (fun {p q} => Apart.symm) apart c.cap

/-- The puzzles mined from a classified game are a ranking of the built ones under the cap. -/
theorem exists_ranked_of_extractPuzzles {σ : Type} {g : Pgn.Game} {cs : List ClassifiedPly}
    {es : Evaluations} {c : Config} {opening : Openings.Info} {ev : Option (Evaluator σ)}
    {user : Option String} {st : σ} {ps : List Puzzle}
    (run : ((extractPuzzles g cs es c opening ev user).run st).1 = .ok ps) :
    ∃ built, ps = selectPuzzles built c.cap := by
  rw [extractPuzzles_run, except_map_eq_ok] at run
  obtain ⟨built, -, rfl⟩ := run
  exact ⟨built, rfl⟩

/-- Without a cap, every candidate kept for building becomes one of the puzzles. -/
theorem exists_puzzle_of_kept {kept : List Candidate} {opening : Openings.Info} {c : Config}
    {ps : List Puzzle}
    (built : (kept.mapM fun cand => buildPuzzle cand opening c).map (selectPuzzles · c.cap) =
      .ok ps)
    (uncapped : ∀ n, c.cap = some n → n ≤ 0) {x : Candidate} (mem : x ∈ kept) :
    ∃ p ∈ ps, buildPuzzle x opening c = .ok p := by
  rw [except_map_eq_ok] at built
  obtain ⟨all, mapped, rfl⟩ := built
  obtain ⟨p, p_mem, build⟩ := exists_of_mapM_ok_of_mem mapped mem
  have whole : selectPuzzles all c.cap = selectPuzzles all none := by
    rcases cap : c.cap with _ | n
    · rfl
    · rw [selectPuzzles_some, if_pos (uncapped n cap)]
  refine ⟨p, ?_, build⟩
  rw [whole, selectPuzzles_none]
  exact (List.mergeSort_perm all _).mem_iff.mpr p_mem

/-- Without a cap, no survivor of a classified game is lost but to a survivor that shadows it. -/
theorem extractPuzzles_kept {σ : Type} {g : Pgn.Game} {es : Evaluations} {c : Config}
    {opening : Openings.Info} {ev : Option (Evaluator σ)} {user : Option String} {st : σ}
    {ps : List Puzzle}
    (run : ((extractPuzzles g (classifyGame g es c) es c opening ev user).run st).1 = .ok ps)
    (uncapped : ∀ n, c.cap = some n → n ≤ 0) :
    Kept c.cooldownPlies (survivors g (classifyGame g es c) es c ev user st)
      (fun x => buildPuzzle x opening c) ps := by
  rw [extractPuzzles_run] at run
  intro x mem
  by_cases kept : x ∈ dedupe (applyCooldown (survivors g (classifyGame g es c) es c ev user st)
    c.cooldownPlies)
  · exact .inl (exists_puzzle_of_kept run uncapped kept)
  · exact .inr (exists_shadow_of_not_thinned (survivors_distinct g es c ev user st)
      c.cooldownPlies mem kept)

/-- Only the ranking reads the cap: mining without one and then ranking with it mines with it. -/
theorem extractPuzzles_uncapped {σ : Type} (g : Pgn.Game) (cs : List ClassifiedPly)
    (es : Evaluations) (c : Config) (opening : Openings.Info) (ev : Option (Evaluator σ))
    (user : Option String) (st : σ) :
    ((extractPuzzles g cs es c opening ev user).run st).1 =
      ((extractPuzzles g cs es { c with maxPuzzlesPerGame := none } opening ev user).run st).1.map
        (selectPuzzles · c.cap) := by
  rw [extractPuzzles_run, extractPuzzles_run]
  show _ = (((dedupe (applyCooldown ((confirmCandidates ((findCandidates g cs es c user).filter
    (survives · c)) ev c).run st).1 c.cooldownPlies)).mapM
      fun cand => buildPuzzle cand opening c).map (selectPuzzles · none)).map
        (selectPuzzles · c.cap)
  generalize (dedupe (applyCooldown ((confirmCandidates ((findCandidates g cs es c user).filter
    (survives · c)) ev c).run st).1 c.cooldownPlies)).mapM
      (fun cand => buildPuzzle cand opening c) = built
  rcases built with e | ps
  · rfl
  · simp only [Except.map, selectPuzzles_selectPuzzles_none]

/-! ## Puzzles of an analysis -/

section Analysis

variable {σ : Type} {pgn : String} {c : Config} {ev : Option (Evaluator σ)}
  {supplied : Evaluations} {username userColor : Option String} {book : Openings.Book} {st : σ}

/-- Only the ranking reads the cap: an analysis with a cap is the analysis without one, its
puzzles ranked again under the cap. -/
theorem analyzeGame_uncapped (pgn : String) (c : Config) (ev : Option (Evaluator σ))
    (supplied : Evaluations) (username userColor : Option String) (book : Openings.Book) (st : σ) :
    ((analyzeGame pgn c ev supplied username userColor book).run st).1 =
      ((analyzeGame pgn { c with maxPuzzlesPerGame := none } ev supplied username userColor
        book).run st).1.map fun a => { a with puzzles := selectPuzzles a.puzzles c.cap } := by
  have gather : ∀ g, gatherEvaluations g { c with maxPuzzlesPerGame := none } ev supplied =
      gatherEvaluations g c ev supplied := fun _ => rfl
  have classify : ∀ g es, classifyGame g es { c with maxPuzzlesPerGame := none } =
      classifyGame g es c := fun _ _ => rfl
  rcases analyzeGame_staged pgn c ev supplied book st with
      ⟨f, failed⟩ | ⟨g, opening, es, st', -, mined⟩
  · rw [failed c (fun _ => rfl), failed _ gather]
    rfl
  · rw [mined c (fun _ => rfl), mined _ gather, classify, extractPuzzles_uncapped]
    rcases ((extractPuzzles g (classifyGame g es c) es { c with maxPuzzlesPerGame := none } opening
      ev (userColor.orElse fun _ => (Pgn.userColor g.tags username).map Chess.Color.name)).run
        st').1 with e | ps <;> rfl

/-- A property of a finished analysis; a failed analysis has every such property. -/
def Finished (P : GameAnalysis → Prop) (r : Except Failure GameAnalysis) : Prop :=
  ∀ a, r = .ok a → P a

theorem cap_of_positive {c : Config} {n : Int} (set : c.maxPuzzlesPerGame = some n)
    (positive : 0 < n) : c.cap = some n := by
  simp [Config.cap, set, positive.ne']

theorem cap_of_nonpos {c : Config} (unset : ∀ n, c.maxPuzzlesPerGame = some n → n ≤ 0) :
    ∀ n, c.cap = some n → n ≤ 0 := by
  intro n capped
  rcases set : c.maxPuzzlesPerGame with _ | m
  · simp [Config.cap, set] at capped
  · simp only [Config.cap, set, beq_iff_eq] at capped
    split_ifs at capped
    exact Option.some.inj capped ▸ unset m set

/-- The puzzles of a finished analysis have one puzzle per ply and framing and one per position
and framing, puzzles of one framing more than the cooldown apart, and are sorted by rank
(severity first, then ply, then avoiding before punishing, then the larger swing); a positive cap
keeps at most that many, the first ones of the same analysis without a cap; and without a cap
every survivor of the filters and the confirmation pass becomes a puzzle, unless another survivor
of its framing stands at the same position or within the cooldown before it. -/
theorem analyzeGame_selection (pgn : String) (c : Config) (ev : Option (Evaluator σ))
    (supplied : Evaluations) (username userColor : Option String) (book : Openings.Book) (st : σ) :
    Finished (fun a =>
        (a.puzzles.map fun p => (p.sourcePly, p.type)).Nodup ∧
        (a.puzzles.map fun p => (positionKey p.fen, p.type)).Nodup ∧
        a.puzzles.Pairwise (fun p q =>
          p.type = q.type → c.cooldownPlies < |(p.sourcePly : Int) - q.sourcePly|) ∧
        a.puzzles.Pairwise (fun p q => rankKey p ≤ rankKey q) ∧
        (∀ n, c.maxPuzzlesPerGame = some n → 0 < n →
          (a.puzzles.length : Int) ≤ n ∧
            ∃ a', ((analyzeGame pgn { c with maxPuzzlesPerGame := none } ev supplied username
              userColor book).run st).1 = .ok a' ∧ a.puzzles = a'.puzzles.take n.toNat) ∧
        ((∀ n, c.maxPuzzlesPerGame = some n → n ≤ 0) →
          Kept c.cooldownPlies (survivors a.game a.classified a.evaluations c ev a.userColor
            ((gatherEvaluations a.game c ev supplied).run st).2)
            (fun x => buildPuzzle x a.opening c) a.puzzles))
      ((analyzeGame pgn c ev supplied username userColor book).run st).1 := by
  intro a run
  obtain ⟨-, classified, extracted⟩ := analyzeGame_eq_ok run
  have apart := extractPuzzles_apart extracted
  obtain ⟨built, ranked⟩ := exists_ranked_of_extractPuzzles extracted
  refine ⟨?_, ?_, apart.imp fun ⟨_, _, spaced⟩ => spaced, ranked ▸ selectPuzzles_sorted built c.cap,
    fun n set positive => ?_, fun unset => ?_⟩
  · rw [List.Nodup, List.pairwise_map]
    exact apart.imp fun ⟨plies, _, _⟩ => plies
  · rw [List.Nodup, List.pairwise_map]
    exact apart.imp fun ⟨_, fens, _⟩ => fens
  · rw [analyzeGame_uncapped, except_map_eq_ok] at run
    obtain ⟨whole, whole_run, rfl⟩ := run
    obtain ⟨-, -, whole_extracted⟩ := analyzeGame_eq_ok whole_run
    obtain ⟨all, whole_ranked⟩ := exists_ranked_of_extractPuzzles whole_extracted
    have prefix_of : selectPuzzles whole.puzzles c.cap = whole.puzzles.take n.toNat := by
      rw [cap_of_positive set positive, selectPuzzles_some, if_neg (not_le.mpr positive)]
      rw [whole_ranked]
      exact congrArg (List.take n.toNat) (selectPuzzles_selectPuzzles_none all none)
    refine ⟨?_, whole, whole_run, prefix_of⟩
    show ((selectPuzzles whole.puzzles c.cap).length : Int) ≤ n
    rw [prefix_of]
    have := List.length_take_le n.toNat whole.puzzles
    omega
  · rw [classified] at extracted ⊢
    exact extractPuzzles_kept extracted (cap_of_nonpos unset)

end Analysis

end Analysis
end Tactician
