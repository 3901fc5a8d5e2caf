import Mathlib.Data.List.Perm.Basic
import Mathlib.Data.List.Nodup

-- Members of a roster each hold entries under names of their own in a shared register.
namespace Rosters

variable {μ ν : Type} {names : μ → List ν} {members others : List μ} {entries after : List (μ × ν)}

def held (names : μ → List ν) (members : List μ) : List (μ × ν) := members.flatMap fun m => (names m).map (m,·)

-- The register has what the members hold and nothing else.
def Exact (names : μ → List ν) (members : List μ) (entries : List (μ × ν)) : Prop := entries.Perm (held names members)

theorem held_member : (m,name) ∈ held names members ↔ m ∈ members ∧ name ∈ names m := by
  simp only [held,List.mem_flatMap,List.mem_map]
  constructor
  · rintro ⟨owner,listed,own,named,same⟩
    obtain ⟨rfl,rfl⟩ := Prod.mk.inj same
    exact ⟨listed,named⟩
  · rintro ⟨listed,named⟩
    exact ⟨m,listed,name,named,rfl⟩

theorem exact_member (exact : Exact names members entries) :
    (m,name) ∈ entries ↔ m ∈ members ∧ name ∈ names m := exact.mem_iff.trans held_member

theorem exact_joined (exact : Exact names members entries) (m : μ) :
    Exact names (members ++ [m]) (entries ++ (names m).map (m,·)) := by
  unfold Exact held at exact ⊢
  rw [List.flatMap_append,List.flatMap_singleton]
  exact exact.append_right _

-- When no member holds a name twice, no entry stands twice.
theorem exact_nodup (exact : Exact names members entries) (distinct : members.Nodup)
    (single : ∀ m ∈ members, (names m).Nodup) : entries.Nodup := by
  rw [exact.nodup_iff]
  unfold held
  rw [List.nodup_flatMap]
  refine ⟨fun m listed => (single m listed).map fun _ _ same => (Prod.mk.inj same).2,?_⟩
  refine distinct.imp ?_
  intro m other apart entry left right
  obtain ⟨_,_,rfl⟩ := List.mem_map.mp left
  obtain ⟨_,_,same⟩ := List.mem_map.mp right
  exact apart (Prod.mk.inj same).1.symm

section
variable [DecidableEq μ] [DecidableEq ν]

-- Taking out an entry that is not there is an error.
def withdraw (entries : List (μ × ν)) (entry : μ × ν) : Option (List (μ × ν)) :=
  if entry ∈ entries then some (entries.erase entry) else none

def withdrawAll (entries : List (μ × ν)) (m : μ) : List ν → Option (List (μ × ν))
  | [] => some entries
  | name :: rest => (withdraw entries (m,name)).bind fun fewer => withdrawAll fewer m rest

theorem withdraw_exact : withdraw entries entry = some after ↔ entry ∈ entries ∧ after = entries.erase entry := by
  unfold withdraw
  split
  · rename_i inside
    simp [inside,eq_comm]
  · rename_i missing
    simp [missing]

-- Induction over the names: entries that are there can be taken out one after the other.
theorem withdrawAll_found (found : entries.Perm (gone.map (m,·) ++ after)) :
    ∃ fewer, withdrawAll entries m gone = some fewer ∧ fewer.Perm after := by
  induction gone generalizing entries with
  | nil => exact ⟨entries,rfl,found⟩
  | cons name rest ih =>
      have inside : (m,name) ∈ entries := found.symm.subset (by simp)
      have fewer : (entries.erase (m,name)).Perm (rest.map (m,·) ++ after) := by
        have less := found.erase (m,name)
        rwa [List.map_cons,List.cons_append,List.erase_cons_head] at less
      obtain ⟨last,taken,same⟩ := ih fewer
      refine ⟨last,?_,same⟩
      rw [withdrawAll,withdraw_exact.mpr ⟨inside,rfl⟩]
      exact taken

-- A member leaves with its entries, in whatever order they are taken out.
theorem exact_left (exact : Exact names members entries) (listed : m ∈ members) (all : gone.Perm (names m)) :
    ∃ fewer, withdrawAll entries m gone = some fewer ∧ Exact names (members.erase m) fewer := by
  apply withdrawAll_found
  have first : (held names members).Perm (held names (m :: members.erase m)) :=
    (List.perm_cons_erase listed).flatMap_right _
  exact (exact.trans first).trans ((all.map _).symm.append_right _)

end

end Rosters
