import Mathlib.Data.BitVec
import Mathlib.Tactic.NormNum
import Mathlib.Tactic.Positivity

namespace Narrowing

-- A fixed-width integer type of at least one bit, in two's complement when signed.
structure IntType where
  signed : Bool
  bits : Nat
  positive : 0 < bits

namespace IntType

def value (type : IntType) (word : BitVec type.bits) : Int :=
  if type.signed then word.toInt else word.toNat

-- What a conversion to the type makes of an integer.
def convert (type : IntType) (z : Int) : Int := type.value (BitVec.ofInt type.bits z)

def least (type : IntType) : Int := if type.signed then -2 ^ (type.bits - 1) else 0
def bound (type : IntType) : Int := if type.signed then 2 ^ (type.bits - 1) else 2 ^ type.bits

def Holds (type : IntType) (z : Int) : Prop := type.least ≤ z ∧ z < type.bound

instance (type : IntType) (z : Int) : Decidable (type.Holds z) := by
  unfold Holds
  infer_instance

theorem value_held (type : IntType) (word : BitVec type.bits) : type.Holds (type.value word) := by
  unfold Holds value least bound
  cases type.signed with
  | true => exact ⟨BitVec.le_toInt word,BitVec.toInt_lt⟩
  | false =>
      simp only [Bool.false_eq_true,if_false]
      refine ⟨Int.natCast_nonneg _,?_⟩
      have below := word.isLt
      exact_mod_cast below

theorem convert_unsigned (type : IntType) (unsigned : type.signed = false) (z : Int) :
    type.convert z = z % 2 ^ type.bits := by
  have bound : ((2 ^ type.bits : Nat) : Int) = 2 ^ type.bits := by push_cast; rfl
  unfold convert value
  rw [unsigned,if_neg Bool.false_ne_true,BitVec.toNat_ofInt,bound,Int.toNat_of_nonneg]
  exact Int.emod_nonneg _ (by positivity)

theorem convert_kept (type : IntType) (held : type.Holds z) : type.convert z = z := by
  unfold Holds least bound at held
  cases kind : type.signed with
  | true =>
      simp only [kind,if_true] at held
      simp only [convert,value,kind,if_true]
      exact BitVec.toInt_ofInt_eq_self type.positive held.1 held.2
  | false =>
      simp only [kind,Bool.false_eq_true,if_false] at held
      rw [type.convert_unsigned kind,Int.emod_eq_of_lt held.1 held.2]

-- A conversion keeps an integer exactly if the type has it.
theorem convert_exact (type : IntType) : type.convert z = z ↔ type.Holds z :=
  ⟨fun kept => kept ▸ type.value_held _,type.convert_kept⟩

end IntType

theorem truncated (narrower : w ≤ v) (z : Int) : (BitVec.ofInt v z).setWidth w = BitVec.ofInt w z := by
  apply BitVec.eq_of_toNat_eq
  have divides : ((2 ^ w : Nat) : Int) ∣ (2 ^ v : Nat) := by exact_mod_cast pow_dvd_pow 2 narrower
  have wide : 0 ≤ z % (2 ^ v : Nat) := Int.emod_nonneg _ (by positivity)
  rw [BitVec.toNat_setWidth,BitVec.toNat_ofInt,BitVec.toNat_ofInt]
  apply Int.ofNat_inj.mp
  rw [Int.natCast_mod,Int.toNat_of_nonneg wide,Int.emod_emod_of_dvd z divides,Int.toNat_of_nonneg]
  exact Int.emod_nonneg _ (by positivity)

end Narrowing
