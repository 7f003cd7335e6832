/-!
# Signed prefixes

Taking a signed number of items from the front of a list: a count `n ≥ 0` keeps the first `n`
items, and a negative count `-k` keeps all but the last `k` (nothing when there are fewer).
Limits on solution lines and on listed histories are read this way.
-/

namespace Tactician

/-- The first `n` items, or for a negative `n` all but the last `-n`. -/
def takeSigned {α : Type} (xs : List α) (n : Int) : List α :=
  if 0 ≤ n then xs.take n.toNat else xs.take (xs.length - n.natAbs)

@[simp]
theorem takeSigned_ofNat {α : Type} (xs : List α) (n : Nat) : takeSigned xs n = xs.take n := by
  simp [takeSigned]

theorem takeSigned_sublist {α : Type} (xs : List α) (n : Int) : (takeSigned xs n).Sublist xs := by
  unfold takeSigned
  split <;> exact List.take_sublist _ _

end Tactician
