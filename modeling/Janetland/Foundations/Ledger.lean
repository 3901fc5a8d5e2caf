import Mathlib.Data.List.Count
import Mathlib.Data.List.Perm.Basic
import Mathlib.Data.List.Basic

namespace Ledger

-- `entries` is a list of roots that several owners share, `held` what the owners
-- together hold, with multiplicity, and `base` what was rooted by nobody of them.
variable {α : Type} [DecidableEq α]

def Covered (base held entries : List α) : Prop :=
  ∀ value, base.count value + held.count value ≤ entries.count value

def Exceeds (base held entries : List α) : Prop :=
  ∃ value, base.count value + held.count value < entries.count value

variable {base held rest entries taken : List α}

theorem acquire_covered (covered : Covered base held entries) (perm : rest.Perm (taken ++ held)) :
    Covered base rest (entries ++ taken) := by
  intro value
  have before := covered value
  rw [perm.count_eq,List.count_append,List.count_append]
  omega

theorem release_covered (covered : Covered base held entries) (perm : held.Perm (taken ++ rest)) :
    Covered base rest (entries.diff taken) := by
  intro value
  have before := covered value
  rw [perm.count_eq,List.count_append] at before
  rw [List.count_diff]
  omega

theorem abandon_covered (covered : Covered base held entries) (perm : held.Perm (taken ++ rest)) :
    Covered base rest entries := by
  intro value
  have before := covered value
  rw [perm.count_eq,List.count_append] at before
  omega

theorem acquire_exceeds (perm : rest.Perm (taken ++ held)) :
    Exceeds base rest (entries ++ taken) ↔ Exceeds base held entries := by
  refine exists_congr fun value => ?_
  rw [perm.count_eq,List.count_append,List.count_append]
  omega

theorem release_exceeds (covered : Covered base held entries) (perm : held.Perm (taken ++ rest)) :
    Exceeds base rest (entries.diff taken) ↔ Exceeds base held entries := by
  refine exists_congr fun value => ?_
  have before := covered value
  rw [perm.count_eq,List.count_append] at before ⊢
  rw [List.count_diff]
  omega

-- An owner that ends without giving back what it held leaves an entry too many.
theorem abandon_exceeds (covered : Covered base held entries) (perm : held.Perm (taken ++ rest))
    (some_ : taken ≠ []) : Exceeds base rest entries := by
  obtain ⟨value,member⟩ := List.exists_mem_of_ne_nil taken some_
  refine ⟨value,?_⟩
  have before := covered value
  have positive := List.count_pos_iff.mpr member
  rw [perm.count_eq,List.count_append] at before
  omega

end Ledger
