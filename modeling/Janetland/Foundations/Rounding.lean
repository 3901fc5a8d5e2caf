import Mathlib.Algebra.Order.Floor.Ring
import Mathlib.Algebra.Order.Field.Basic
import Mathlib.Tactic.Linarith
import Mathlib.Tactic.Ring

-- Rounding to the nearest integer, halves away from zero.
namespace Rounding

variable {K : Type} [Field K] [LinearOrder K] [FloorRing K]

def away (q : K) : ℤ := if 0 ≤ q then ⌊q + 1/2⌋ else ⌈q - 1/2⌉

-- The halves that are rounded up.
def UpperHalf (q : K) : Prop := 0 < q ∧ ∃ k : ℤ, q = k + 1/2

theorem away_nonneg {q : K} (nonneg : 0 ≤ q) : away q = ⌊q + 1/2⌋ := if_pos nonneg
theorem away_neg {q : K} (negative : q < 0) : away q = ⌈q - 1/2⌉ := if_neg (not_le.mpr negative)

variable [IsStrictOrderedRing K]

theorem away_intCast (n : ℤ) : away (n : K) = n := by
  by_cases nonneg : (0 : K) ≤ n
  · rw [away_nonneg nonneg,Int.floor_eq_iff]
    constructor <;> linarith
  · rw [away_neg (not_le.mp nonneg),Int.ceil_eq_iff]
    constructor <;> linarith

theorem le_away {q : K} (nonneg : 0 ≤ q) (m : ℤ) : m ≤ away q ↔ (m : K) - 1/2 ≤ q := by
  rw [away_nonneg nonneg,Int.le_floor]
  constructor <;> intro h <;> linarith

theorem away_le {q : K} (nonneg : 0 ≤ q) (m : ℤ) : away q ≤ m ↔ q < (m : K) + 1/2 := by
  rw [away_nonneg nonneg,← Int.lt_add_one_iff,Int.floor_lt]
  push_cast
  constructor <;> intro h <;> linarith

theorem one_le_away {q : K} : 1 ≤ away q ↔ 1/2 ≤ q := by
  by_cases nonneg : 0 ≤ q
  · rw [away_nonneg nonneg,Int.le_floor]
    push_cast
    constructor <;> intro h <;> linarith
  · have negative := not_le.mp nonneg
    rw [away_neg negative]
    refine iff_of_false ?_ (by linarith)
    intro large
    have small : ⌈q - 1/2⌉ ≤ 0 := by
      rw [Int.ceil_le]
      push_cast
      linarith
    omega

-- An integer less a value below it is rounded from the other side.
theorem away_complement {q : K} (m : ℤ) (below : q < m) : away ((m : K) - q) = m - ⌈q - 1/2⌉ := by
  have shifted : (m : K) - q + 1/2 = -(q - 1/2) + m := by ring
  rw [away_nonneg (by linarith),shifted,Int.floor_add_intCast,Int.floor_neg]
  ring

theorem upperHalf_up {q : K} (half : UpperHalf q) : away q = ⌈q - 1/2⌉ + 1 := by
  obtain ⟨positive,k,rfl⟩ := half
  have up : ⌊(k : K) + 1/2 + 1/2⌋ = k + 1 := by
    rw [Int.floor_eq_iff]
    push_cast
    constructor <;> linarith
  have down : ⌈(k : K) + 1/2 - 1/2⌉ = k := by
    rw [Int.ceil_eq_iff]
    constructor <;> linarith
  rw [away_nonneg positive.le,up,down]

theorem untied_ceil {q : K} (untied : (⌊q + 1/2⌋ : K) < q + 1/2) : ⌈q - 1/2⌉ = ⌊q + 1/2⌋ := by
  have most := Int.lt_floor_add_one (q + 1/2)
  rw [Int.ceil_eq_iff]
  constructor <;> linarith

-- Of the values from 0 on, only the halves are tied.
theorem tied_upperHalf {q : K} (nonneg : 0 ≤ q) (tied : (⌊q + 1/2⌋ : K) = q + 1/2) : UpperHalf q := by
  have half : q = ((⌊q + 1/2⌋ - 1 : ℤ) : K) + 1/2 := by
    push_cast
    linarith
  refine ⟨?_,_,half⟩
  rcases lt_or_eq_of_le nonneg with positive | zero
  · exact positive
  · exfalso
    have floor : ⌊q + 1/2⌋ = 0 := by
      rw [Int.floor_eq_iff,← zero]
      constructor <;> norm_num
    rw [floor] at tied
    push_cast at tied
    linarith

theorem away_ceil {q : K} : away q = ⌈q - 1/2⌉ ↔ ¬UpperHalf q := by
  by_cases nonneg : 0 ≤ q
  · constructor
    · intro same half
      rw [upperHalf_up half] at same
      omega
    · intro unhalved
      rw [away_nonneg nonneg]
      refine (untied_ceil ?_).symm
      exact lt_of_le_of_ne (Int.floor_le _) fun tied => unhalved (tied_upperHalf nonneg tied)
  · rw [away_neg (not_le.mp nonneg)]
    exact iff_of_true rfl fun half => nonneg half.1.le

theorem away_sum {q : K} (m : ℤ) (below : q < m) : away q + away ((m : K) - q) = m ↔ ¬UpperHalf q := by
  rw [away_complement m below,← away_ceil]
  omega

end Rounding
