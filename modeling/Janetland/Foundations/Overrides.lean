import Mathlib.Data.List.Induction
import Mathlib.Data.List.Nodup

-- Pairs that are put into a map one after another, a later value of a key in place of an
-- earlier one.
namespace Overrides

variable {κ ν κ' ν' : Type} {pairs writes : List (κ × ν)} {key : κ} {value : ν}

-- The last value that the key is given.
def Last (writes : List (κ × ν)) (key : κ) (value : ν) : Prop :=
  ∃ before after, writes = before ++ (key,value) :: after ∧ ∀ later, (key,later) ∉ after

theorem last_concat {write : κ × ν} : Last (writes ++ [write]) key value ↔
    write = (key,value) ∨ write.1 ≠ key ∧ Last writes key value := by
  constructor
  · rintro ⟨before,after,same,fresh⟩
    rcases List.eq_nil_or_concat after with rfl | ⟨rest,final,rfl⟩
    · exact .inl (List.singleton_inj.mp (List.append_inj' same rfl).2)
    · have split : writes = before ++ (key,value) :: rest ∧ write = final := by
        have joined : writes ++ [write] = before ++ (key,value) :: rest ++ [final] := by simpa using same
        obtain ⟨front,back⟩ := List.append_inj' joined rfl
        exact ⟨front,List.singleton_inj.mp back⟩
      obtain ⟨front,rfl⟩ := split
      refine .inr ⟨?_,before,rest,front,fun later inside => fresh later (by simp [inside])⟩
      rintro rfl
      exact fresh write.2 (by simp)
  · rintro (rfl | ⟨apart,before,after,rfl,fresh⟩)
    · exact ⟨writes,[],rfl,by simp⟩
    · refine ⟨before,after ++ [write],by simp,?_⟩
      intro later inside
      rcases List.mem_append.mp inside with earlier | final
      · exact fresh later earlier
      · exact apart (by rw [← List.mem_singleton.mp final])

variable [DecidableEq κ]

def put (pairs : List (κ × ν)) (key : κ) (value : ν) : List (κ × ν) :=
  pairs.filter (fun pair => pair.1 ≠ key) ++ [(key,value)]

def putAll (writes : List (κ × ν)) : List (κ × ν) := writes.foldl (fun pairs write => put pairs write.1 write.2) []

theorem mem_put {pair : κ × ν} : pair ∈ put pairs key value ↔ pair.1 ≠ key ∧ pair ∈ pairs ∨ pair = (key,value) := by
  simp [put,and_comm]

theorem put_fresh (fresh : key ∉ pairs.map Prod.fst) : put pairs key value = pairs ++ [(key,value)] := by
  have kept : pairs.filter (fun pair => pair.1 ≠ key) = pairs := by
    rw [List.filter_eq_self]
    intro pair inside
    have apart : pair.1 ≠ key := fun same => fresh (same ▸ List.mem_map_of_mem inside)
    simpa using apart
  rw [put,kept]

theorem put_single (distinct : (pairs.map Prod.fst).Nodup) : ((put pairs key value).map Prod.fst).Nodup := by
  have fewer : ((pairs.filter fun pair => pair.1 ≠ key).map Prod.fst).Sublist (pairs.map Prod.fst) :=
    List.filter_sublist.map _
  rw [put,List.map_append,List.nodup_append]
  refine ⟨fewer.nodup distinct,List.nodup_singleton _,?_⟩
  rintro left inside right single rfl
  obtain ⟨pair,kept,rfl⟩ := List.mem_map.mp inside
  have apart := (List.mem_filter.mp kept).2
  rw [List.mem_singleton.mp single] at apart
  simp at apart

@[simp] theorem putAll_nil : putAll ([] : List (κ × ν)) = [] := rfl

theorem putAll_concat (write : κ × ν) : putAll (writes ++ [write]) = put (putAll writes) write.1 write.2 := by
  simp [putAll]

theorem putAll_single (writes : List (κ × ν)) : ((putAll writes).map Prod.fst).Nodup := by
  induction writes using List.reverseRecOn with
  | nil => exact List.nodup_nil
  | append_singleton writes write ih =>
      rw [putAll_concat]
      exact put_single ih

theorem putAll_distinct (distinct : (writes.map Prod.fst).Nodup) : putAll writes = writes := by
  induction writes using List.reverseRecOn with
  | nil => rfl
  | append_singleton writes write ih =>
      rw [List.map_append,List.nodup_append] at distinct
      obtain ⟨earlier,_,apart⟩ := distinct
      rw [putAll_concat,ih earlier]
      apply put_fresh
      intro inside
      exact apart _ inside _ (by simp) rfl

-- By induction on the writes, the last one first.
theorem mem_putAll : (key,value) ∈ putAll writes ↔ Last writes key value := by
  induction writes using List.reverseRecOn with
  | nil => simp [Last]
  | append_singleton writes write ih =>
      rw [putAll_concat,mem_put,last_concat,← ih]
      constructor
      · rintro (⟨apart,inside⟩ | same)
        · exact .inr ⟨Ne.symm apart,inside⟩
        · exact .inl same.symm
      · rintro (same | ⟨apart,inside⟩)
        · exact .inr same.symm
        · exact .inl ⟨Ne.symm apart,inside⟩

-- Keys and values may be renamed before or after.
theorem putAll_map [DecidableEq κ'] {f : κ → κ'} (injective : f.Injective) (g : ν → ν') (writes : List (κ × ν)) :
    putAll (writes.map (Prod.map f g)) = (putAll writes).map (Prod.map f g) := by
  induction writes using List.reverseRecOn with
  | nil => rfl
  | append_singleton writes write ih =>
      rw [List.map_append,List.map_singleton,putAll_concat,putAll_concat,ih]
      simp only [put,List.map_append,List.filter_map,List.map_singleton,Prod.map_fst,Prod.map_snd]
      congr 2
      apply List.filter_congr
      intro pair _
      simp [injective.eq_iff]

end Overrides
