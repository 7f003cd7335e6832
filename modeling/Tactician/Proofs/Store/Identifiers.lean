import Mathlib
import Tactician.Store.Stamp

/-!
# Identifiers never repeat

The store's identifiers are the counter's values written as UUID texts.  Reading the hex digits
back out of a text gives the number again, so distinct draws give distinct identifiers: every
identifier drawn after the counter stood at `n` differs from every one drawn up to `n`.
-/

namespace Tactician
namespace Store

/-- The value of a lower-case hex digit. -/
def hexValue (c : Char) : Nat := if c.toNat < 58 then c.toNat - 48 else c.toNat - 87

theorem hexValue_hexDigit : ∀ d < 16, hexValue (hexDigit d) = d := by decide

theorem hexDigit_ne_dash : ∀ d < 16, hexDigit d ≠ '-' := by decide

theorem dash_not_mem_hexDigits (n w : Nat) : '-' ∉ hexDigits n w := by
  induction w generalizing n with
  | zero => simp [hexDigits]
  | succ w ih =>
    simp only [hexDigits, List.mem_append, List.mem_singleton, not_or]
    exact ⟨ih (n / 16), (hexDigit_ne_dash (n % 16) (Nat.mod_lt n (by decide))).symm⟩

/-- Equal digit texts of one width name numbers equal modulo that width. -/
theorem mod_eq_of_hexDigits_eq {n m : Nat} {w : Nat} (same : hexDigits n w = hexDigits m w) :
    n % 16 ^ w = m % 16 ^ w := by
  induction w generalizing n m with
  | zero => simp [Nat.mod_one]
  | succ w ih =>
    simp only [hexDigits] at same
    obtain ⟨front, last⟩ := List.append_inj' same rfl
    have low : n % 16 = m % 16 := by
      have := congrArg hexValue (List.singleton_inj.mp last)
      rwa [hexValue_hexDigit _ (Nat.mod_lt n (by decide)),
        hexValue_hexDigit _ (Nat.mod_lt m (by decide))] at this
    rw [Nat.pow_succ, Nat.mul_comm, Nat.mod_mul, Nat.mod_mul, low, ih front]

theorem lt_pow_uuidWidth (n : Nat) : n < 16 ^ uuidWidth n := by
  calc n < 2 ^ (n.log2 + 1) := Nat.lt_log2_self
    _ ≤ 2 ^ (4 * (n.log2 / 4 + 1)) := Nat.pow_le_pow_right (by decide) (by omega)
    _ = 16 ^ (n.log2 / 4 + 1) := by rw [Nat.pow_mul]
    _ ≤ 16 ^ uuidWidth n := Nat.pow_le_pow_right (by decide) (le_max_right _ _)

/-- Cutting a list into five pieces and putting them back gives the list. -/
theorem take_drop_pieces {α : Type} (a : Nat) (ds : List α) :
    ds.take a ++ (ds.drop a).take 4 ++ (ds.drop (a + 4)).take 4 ++ (ds.drop (a + 8)).take 4 ++
      ds.drop (a + 12) = ds := by
  have h8 : ds.drop (a + 8) = (ds.drop (a + 4)).drop 4 := by simp [Nat.add_assoc]
  have h12 : ds.drop (a + 12) = (ds.drop (a + 8)).drop 4 := by simp [Nat.add_assoc]
  have h4 : ds.drop (a + 4) = (ds.drop a).drop 4 := by simp
  rw [h12, List.append_assoc _ _ (List.drop 4 _), List.take_append_drop, h8,
    List.append_assoc _ _ (List.drop 4 _), List.take_append_drop, h4,
    List.append_assoc _ _ (List.drop 4 _), List.take_append_drop, List.take_append_drop]

/-- The hex digits of an identifier, its dashes left out. -/
theorem uuidText_digits (n : Nat) :
    (uuidText n).toList.filter (· != '-') = hexDigits n (uuidWidth n) := by
  have solid : ∀ l : List Char, l.Sublist (hexDigits n (uuidWidth n)) →
      l.filter (· != '-') = l := by
    intro l sub
    exact List.filter_eq_self.mpr fun c mem =>
      by simpa using fun h => dash_not_mem_hexDigits n _ (h ▸ sub.subset mem)
  simp only [uuidText, String.toList_intercalate, List.map_cons, String.toList_ofList,
    List.map_nil]
  generalize hexDigits n (uuidWidth n) = ds at solid ⊢
  generalize ds.length - 24 = a
  have dash : ("-".toList).filter (· != '-') = [] := by decide
  have piece : ∀ k i, ((ds.drop i).take k).filter (· != '-') = (ds.drop i).take k :=
    fun k i => solid _ ((List.take_sublist _ _).trans (List.drop_sublist _ _))
  simp only [List.intercalate_cons_cons, List.intercalate_singleton, List.filter_append, dash,
    List.append_nil, solid _ (List.take_sublist _ _), solid _ (List.drop_sublist _ _), piece]
  conv_rhs => rw [← take_drop_pieces a ds]
  simp only [List.append_assoc]

/-- Distinct numbers have distinct identifiers. -/
theorem uuidText_injective : Function.Injective uuidText := by
  intro n m same
  have digits : hexDigits n (uuidWidth n) = hexDigits m (uuidWidth m) := by
    rw [← uuidText_digits, ← uuidText_digits, same]
  have width : uuidWidth n = uuidWidth m := by
    simpa using congrArg List.length digits
  rw [width] at digits
  have low := mod_eq_of_hexDigits_eq digits
  rwa [Nat.mod_eq_of_lt (width ▸ lt_pow_uuidWidth n), Nat.mod_eq_of_lt (lt_pow_uuidWidth m)] at low

/-- An identifier is never empty. -/
theorem uuidText_ne_empty (n : Nat) : uuidText n ≠ "" := by
  intro empty
  have digits := congrArg List.length (uuidText_digits n)
  have wide : 0 < uuidWidth n := lt_of_lt_of_le (by decide) (le_max_left 32 _)
  rw [empty, length_hexDigits] at digits
  simp at digits
  omega

end Store
end Tactician
