import Mathlib.Data.List.Nodup
import Mathlib.Data.List.Sublists

-- Two lists in one order: some of the members of the first have an item in the second.
namespace Arrangements

variable {α β : Type} {item : α → Option β} {members : List α} {items : List β}

def Ordered (item : α → Option β) (members : List α) (items : List β) : Prop := (members.filterMap item).Sublist items

-- No two members have one item.
def Apart (item : α → Option β) : Prop := ∀ x y b, item x = some b → item y = some b → x = y

-- A member goes to the end of the list it is in.
def toEnd [DecidableEq α] (x : α) (list : List α) : List α := if x ∈ list then list.erase x ++ [x] else list

theorem ordered_congr {after : α → Option β} (same : ∀ x ∈ members, after x = item x) :
    Ordered after members items ↔ Ordered item members items := by
  unfold Ordered
  rw [List.filterMap_congr same]

theorem ordered_kept {keep : β → Bool} (ordered : Ordered item members items)
    (kept : ∀ b ∈ members.filterMap item, keep b = true) : Ordered item members (items.filter keep) := by
  have both := List.Sublist.filter keep ordered
  rwa [List.filter_eq_self.mpr kept] at both

theorem ordered_joined (found : item x = some b) :
    Ordered item (members ++ [x]) items ↔ (members.filterMap item ++ [b]).Sublist items := by
  unfold Ordered
  rw [List.filterMap_append,List.filterMap_cons_some found,List.filterMap_nil]

theorem ordered_hidden (missing : item x = none) :
    Ordered item (members ++ [x]) items ↔ Ordered item members items := by
  unfold Ordered
  rw [List.filterMap_append,List.filterMap_cons_none missing,List.filterMap_nil,List.append_nil]

theorem item_missing (apart : Apart item) (fresh : x ∉ members) (found : item x = some b) :
    b ∉ members.filterMap item := by
  intro inside
  obtain ⟨y,listed,same⟩ := List.mem_filterMap.mp inside
  exact fresh (apart x y b found same ▸ listed)

section
variable [DecidableEq α]

theorem toEnd_perm (x : α) (list : List α) : (toEnd x list).Perm list := by
  unfold toEnd
  split
  · rename_i inside
    exact (List.perm_append_singleton x _).trans (List.perm_cons_erase inside).symm
  · exact List.Perm.refl _

theorem toEnd_last (fresh : x ∉ members) : toEnd x (members ++ [x]) = members ++ [x] := by
  unfold toEnd
  rw [if_pos (by simp),List.erase_append_right _ fresh,List.erase_cons_head,List.append_nil]

theorem ordered_removed (ordered : Ordered item members items) (x : α) : Ordered item (members.erase x) items :=
  (List.erase_sublist.filterMap item).trans ordered

theorem ordered_toEnd_hidden (ordered : Ordered item members items) (missing : item x = none) :
    Ordered item (toEnd x members) items := by
  unfold toEnd
  split
  · exact (ordered_hidden missing).mpr (ordered_removed ordered x)
  · exact ordered

end

section
variable [DecidableEq β]

-- Below an item that is put on top, the others stay as they were.
theorem ordered_under (apart : Apart item) (ordered : Ordered item members items) (fresh : x ∉ members)
    (found : item x = some b) : Ordered item members (toEnd b items) := by
  unfold toEnd
  split
  · have kept := List.Sublist.erase b ordered
    rw [List.erase_of_not_mem (item_missing apart fresh found)] at kept
    exact kept.trans (List.sublist_append_left _ _)
  · exact ordered

-- A member comes last in the one list, and its item on top in the other.
theorem ordered_top (apart : Apart item) (ordered : Ordered item members items) (fresh : x ∉ members)
    (found : item x = some b) (inside : b ∈ items) : Ordered item (members ++ [x]) (toEnd b items) := by
  rw [ordered_joined found]
  have kept := List.Sublist.erase b ordered
  rw [List.erase_of_not_mem (item_missing apart fresh found)] at kept
  unfold toEnd
  rw [if_pos inside]
  exact kept.append (List.Sublist.refl [b])

end

theorem ordered_toEnd [DecidableEq α] [DecidableEq β] (apart : Apart item) (distinct : members.Nodup) (ordered : Ordered item members items)
    (found : item x = some b) (placed : x ∈ members → b ∈ items) :
    Ordered item (toEnd x members) (toEnd b items) := by
  by_cases listed : x ∈ members
  · have moved : toEnd x members = members.erase x ++ [x] := if_pos listed
    rw [moved]
    exact ordered_top apart (ordered_removed ordered x) distinct.not_mem_erase found (placed listed)
  · have same : toEnd x members = members := if_neg listed
    rw [same]
    exact ordered_under apart ordered listed found

end Arrangements
