import Mathlib.Order.Lattice

namespace ThreeWay

-- A C-style comparison answers with a negative, zero or positive number.
structure TotalOrder (compare : α → α → Int) : Prop where
  opposite : ∀ a b, compare a b < 0 ↔ 0 < compare b a
  antisymm : ∀ a b, compare a b ≤ 0 → compare b a ≤ 0 → compare a b = 0
  transitive : ∀ a b c, compare a b ≤ 0 → compare b c ≤ 0 → compare a c ≤ 0
  total : ∀ a b, compare a b ≤ 0 ∨ compare b a ≤ 0

variable {κ : Type} [LinearOrder κ]

def compareKeys (left right : κ) : Int := if left = right then 0 else if right < left then 1 else -1

variable {left right : κ}

theorem compareKeys_zero : compareKeys left right = 0 ↔ left = right := by
  unfold compareKeys
  split
  · rename_i same
    simp [same]
  · rename_i apart
    split <;> simp [apart]

theorem compareKeys_positive : 0 < compareKeys left right ↔ right < left := by
  unfold compareKeys
  split
  · rename_i same
    simp [same]
  · split <;> simp_all

theorem compareKeys_bounded : compareKeys left right ≤ 0 ↔ left ≤ right := by
  rw [← Int.not_lt,← not_lt]
  exact not_congr compareKeys_positive

theorem compareKeys_negative : compareKeys left right < 0 ↔ left < right := by
  rw [← Int.not_le,← not_le]
  unfold compareKeys
  split
  · rename_i same
    simp [same]
  · rename_i apart
    split
    · rename_i above
      simp [le_of_lt above]
    · rename_i below
      simp [lt_of_le_of_ne (not_lt.mp below) apart]

-- Whatever is compared by a key from a linear order is totally ordered, up to the key.
theorem keyed_total (key : α → κ) : TotalOrder fun a b => compareKeys (key a) (key b) where
  opposite a b := by rw [compareKeys_negative,compareKeys_positive]
  antisymm a b := by
    rw [compareKeys_bounded,compareKeys_bounded,compareKeys_zero]
    exact le_antisymm
  transitive a b c := by
    rw [compareKeys_bounded,compareKeys_bounded,compareKeys_bounded]
    exact le_trans
  total a b := by
    rw [compareKeys_bounded,compareKeys_bounded]
    exact le_total _ _

end ThreeWay
