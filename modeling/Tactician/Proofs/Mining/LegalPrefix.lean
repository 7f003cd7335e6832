import Mathlib
import Tactician.Proofs.Mining.Grading

/-!
# The legal prefix of a line

A line arrives as coordinate texts and is read while each text names a move that the position
reached so far allows.  `ReadsLegally p ts ms` is that reading said declaratively: the texts `ts`
name the moves `ms` one by one, each allowed in the position the moves before it reach.

Main statements: the legal line of `pv` is the reading of a prefix of `pv`, and every prefix of
`pv` that reads legally is a prefix of that one, so the legal line reads the longest such prefix.
The forcing test looks at exactly the first `max 1 k` moves of the legal line and succeeds at a
capture, a check or a promotion among them, in the position the moves before it reach; so it
grows with the lookahead and fails on a line with no legal first move.  Positions are values:
reading a line or testing it leaves the position it starts from as it was.
-/

namespace Tactician
namespace Tactics

open Chess Analysis

/-- Texts that name moves one by one, each allowed in the position the moves before it reach. -/
inductive ReadsLegally : Position → List String → List Move → Prop
  | nil (p : Position) : ReadsLegally p [] []
  | cons {p : Position} {t : String} {m : Move} {ts : List String} {ms : List Move}
      (read : MoveText.ofUci t = .ok (.move m)) (allowed : p.allows (.move m) = true)
      (rest : ReadsLegally (p.play m) ts ms) : ReadsLegally p (t :: ts) (m :: ms)

/-- A reading names one move per text. -/
theorem ReadsLegally.length_eq {p : Position} {ts : List String} {ms : List Move}
    (reads : ReadsLegally p ts ms) : ts.length = ms.length := by
  induction reads with
  | nil => rfl
  | cons _ _ _ ih => simp [ih]

/-- A text naming a move that the position allows extends the legal line by that move. -/
theorem legalLine_cons_of_allows {p : Position} {t : String} {m : Move} (rest : List String)
    (read : MoveText.ofUci t = .ok (.move m)) (allowed : p.allows (.move m) = true) :
    legalLine p (t :: rest) = m :: legalLine (p.play m) rest := by
  simp [legalLine, read, allowed]

/-- The legal line is the reading of a prefix of the line. -/
theorem exists_prefix_readsLegally_legalLine (p : Position) (pv : List String) :
    ∃ pre, pre <+: pv ∧ ReadsLegally p pre (legalLine p pv) := by
  fun_induction legalLine p pv with
  | case1 => exact ⟨[], List.prefix_rfl, .nil _⟩
  | case2 p t rest m read allowed ih =>
    obtain ⟨pre, starts, reads⟩ := ih
    exact ⟨t :: pre, List.cons_prefix_cons.mpr ⟨rfl, starts⟩, .cons read allowed reads⟩
  | case3 => exact ⟨[], List.nil_prefix, .nil _⟩
  | case4 => exact ⟨[], List.nil_prefix, .nil _⟩

/-- Every reading of a prefix of a line is a prefix of its legal line. -/
theorem ReadsLegally.prefix_legalLine {p : Position} {pre : List String} {ms : List Move}
    (reads : ReadsLegally p pre ms) {pv : List String} (starts : pre <+: pv) :
    ms <+: legalLine p pv := by
  induction reads generalizing pv with
  | nil => exact List.nil_prefix
  | @cons p t m ts ms read allowed _ ih =>
    cases pv with
    | nil => simp at starts
    | cons t' rest =>
      obtain ⟨rfl, rest_starts⟩ := List.cons_prefix_cons.mp starts
      rw [legalLine_cons_of_allows rest read allowed]
      exact List.cons_prefix_cons.mpr ⟨rfl, ih rest_starts⟩

/-- The prefix read by the legal line is the longest prefix that reads legally: every other one
is a prefix of it. -/
theorem exists_longest_prefix_readsLegally (p : Position) (pv : List String) :
    ∃ pre, pre <+: pv ∧ ReadsLegally p pre (legalLine p pv) ∧
      ∀ pre' ms, pre' <+: pv → ReadsLegally p pre' ms → pre' <+: pre := by
  obtain ⟨pre, starts, reads⟩ := exists_prefix_readsLegally_legalLine p pv
  refine ⟨pre, starts, reads, fun pre' ms starts' reads' => ?_⟩
  have shorter : ms.length ≤ (legalLine p pv).length :=
    (reads'.prefix_legalLine starts').length_le
  refine List.prefix_of_prefix_length_le starts' starts ?_
  rw [reads'.length_eq, reads.length_eq]
  exact shorter

/-- A forcing move is a capture, a check or a promotion. -/
theorem isForcing_eq_true_iff (q : Position) (m : Move) :
    isForcing q m = true ↔
      q.isCapture m = true ∨ q.givesCheck m = true ∨ m.promotion.isSome = true := by
  simp [isForcing, or_assoc]

/-- The forcing test at an integer lookahead, as it is configured: a lookahead below one looks at
the first move. -/
theorem containsTactic_toNat_iff (p : Position) (pv : List String) (k : Int) :
    containsTactic p pv k.toNat = true ↔
      ∃ i : Nat, (i : Int) < max 1 k ∧ ∃ m, (legalLine p pv)[i]? = some m ∧
        isForcing (playAll p ((legalLine p pv).take i)) m = true := by
  rw [containsTactic_eq_true_iff]
  have within (i : Nat) : i < max 1 k.toNat ↔ (i : Int) < max 1 k := by omega
  simp only [within]

/-- Looking further ahead finds every forcing move a shorter lookahead finds. -/
theorem containsTactic_mono {p : Position} {pv : List String} {k k' : Nat} (le : k ≤ k')
    (found : containsTactic p pv k = true) : containsTactic p pv k' = true := by
  obtain ⟨i, lt, m, at_i, forcing⟩ := (containsTactic_eq_true_iff p pv k).mp found
  exact (containsTactic_eq_true_iff p pv k').mpr ⟨i, by omega, m, at_i, forcing⟩

/-- The legal line reads the longest prefix of a line that reads legally, and the forcing test at
any integer lookahead `k` succeeds exactly when one of the first `max 1 k` moves of that line is a
capture, a check or a promotion in the position the moves before it reach; so the test grows with
`k` and fails on an empty legal line. -/
theorem legalLine_longest_containsTactic_iff (p : Position) (pv : List String) :
    (∃ pre, pre <+: pv ∧ ReadsLegally p pre (legalLine p pv) ∧
      ∀ pre' ms, pre' <+: pv → ReadsLegally p pre' ms → pre' <+: pre) ∧
    (∀ k : Int, containsTactic p pv k.toNat = true ↔
      ∃ i : Nat, (i : Int) < max 1 k ∧ ∃ m, (legalLine p pv)[i]? = some m ∧
        ((playAll p ((legalLine p pv).take i)).isCapture m = true ∨
          (playAll p ((legalLine p pv).take i)).givesCheck m = true ∨
          m.promotion.isSome = true)) ∧
    (∀ k k' : Int, k ≤ k' → containsTactic p pv k.toNat = true →
      containsTactic p pv k'.toNat = true) ∧
    (legalLine p pv = [] → ∀ k : Int, containsTactic p pv k.toNat = false) := by
  refine ⟨exists_longest_prefix_readsLegally p pv, fun k => ?_, ?_, ?_⟩
  · simp only [containsTactic_toNat_iff, isForcing_eq_true_iff]
  · intro k k' le found
    exact containsTactic_mono (Int.toNat_le_toNat le) found
  · intro empty k
    exact Bool.eq_false_iff.mpr fun found => legalLine_ne_nil_of_containsTactic found empty

end Tactics
end Tactician
