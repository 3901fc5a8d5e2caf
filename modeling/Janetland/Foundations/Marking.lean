import Mathlib.Logic.Relation
import Mathlib.Data.List.Basic

namespace Marking

-- What a collector must keep: everything a chain of edges leads to from a root.
def Reachable (edges : α → List α) (roots : List α) (value : α) : Prop :=
  ∃ root ∈ roots, Relation.ReflTransGen (fun before after => after ∈ edges before) root value

theorem Reachable.root (member : value ∈ roots) : Reachable edges roots value :=
  ⟨value,member,.refl⟩

theorem Reachable.edge (reached : Reachable edges roots parent) (child : value ∈ edges parent) :
    Reachable edges roots value := by
  obtain ⟨root,member,path⟩ := reached
  exact ⟨root,member,path.tail child⟩

-- A set that holds the roots and is closed under edges holds all that is reachable.
theorem Reachable.closed (inside : α → Prop) (base : ∀ root ∈ roots, inside root)
    (step : ∀ parent value, inside parent → value ∈ edges parent → inside value)
    (reached : Reachable edges roots value) : inside value := by
  obtain ⟨root,member,path⟩ := reached
  induction path with
  | refl => exact base root member
  | tail _ child ih => exact step _ _ ih child

section
variable [DecidableEq α]

def unmarked (domain seen : List α) : List α := domain.filter (fun value => decide (value ∉ seen))

-- The fuel bounds the number of objects still unmarked; it never runs out early.
def mark (edges : α → List α) (domain : List α) : Nat → List α → List α → List α
  | 0,seen,_ => seen
  | fuel+1,seen,pending =>
    match pending.find? (fun value => decide (value ∈ unmarked domain seen)) with
    | none => seen
    | some value => mark edges domain fuel (value :: seen) (edges value ++ pending)

def marked (edges : α → List α) (domain roots : List α) : List α :=
  mark edges domain domain.length [] roots

theorem mem_unmarked {domain seen : List α} : value ∈ unmarked domain seen ↔ value ∈ domain ∧ value ∉ seen := by
  simp [unmarked]

theorem unmarked_shrinks {domain seen : List α} (fresh : value ∈ unmarked domain seen) :
    (unmarked domain (value :: seen)).length < (unmarked domain seen).length := by
  have sub : unmarked domain (value :: seen) =
      (unmarked domain seen).filter (fun other => decide (other ≠ value)) := by
    simp only [unmarked,List.filter_filter,List.mem_cons,not_or]
    congr 1
    funext other
    simp [Bool.decide_and]
  rw [sub]
  exact List.length_filter_lt_length_iff_exists.mpr ⟨value,fresh,by simp⟩

theorem mark_sound (edges : α → List α) (domain : List α) (inside : α → Prop)
    (step : ∀ parent value, inside parent → value ∈ edges parent → inside value)
    (fuel : Nat) (seen pending : List α) (old : ∀ value ∈ seen, inside value)
    (waiting : ∀ value ∈ pending, inside value) :
    ∀ value ∈ mark edges domain fuel seen pending, inside value := by
  induction fuel generalizing seen pending with
  | zero => exact old
  | succ fuel ih =>
      unfold mark
      split
      · exact old
      · rename_i selected found
        have kept := waiting selected (List.mem_of_find?_eq_some found)
        refine ih _ _ ?_ ?_
        · intro value member
          rcases List.mem_cons.mp member with rfl | earlier
          · exact kept
          · exact old value earlier
        · intro value member
          rcases List.mem_append.mp member with child | earlier
          · exact step _ _ kept child
          · exact waiting value earlier

-- The result covers what was seen or pending, and is closed under edges inside the domain.
theorem mark_closed (edges : α → List α) (domain : List α) (fuel : Nat) (seen pending : List α)
    (enough : (unmarked domain seen).length ≤ fuel)
    (frontier : ∀ parent ∈ seen, ∀ value ∈ edges parent, value ∈ seen ∨ value ∈ pending) :
    (∀ value ∈ seen, value ∈ mark edges domain fuel seen pending) ∧
    (∀ value ∈ pending, value ∈ domain → value ∈ mark edges domain fuel seen pending) ∧
    ∀ parent ∈ mark edges domain fuel seen pending, ∀ value ∈ edges parent,
      value ∈ domain → value ∈ mark edges domain fuel seen pending := by
  induction fuel generalizing seen pending with
  | zero =>
      have covered : ∀ value ∈ domain, value ∈ seen := by
        intro value inside
        by_contra absent
        have member := mem_unmarked.mpr ⟨inside,absent⟩
        rw [List.eq_nil_of_length_eq_zero (Nat.le_zero.mp enough)] at member
        cases member
      exact ⟨fun _ member => member,fun value _ inside => covered value inside,
        fun _ _ value _ inside => covered value inside⟩
  | succ fuel ih =>
      unfold mark
      split
      · rename_i none
        have covered : ∀ value ∈ pending, value ∈ domain → value ∈ seen := by
          intro value waiting inside
          have stopped := List.find?_eq_none.mp none value waiting
          simpa [mem_unmarked,inside] using stopped
        refine ⟨fun _ member => member,covered,?_⟩
        intro parent member value child inside
        rcases frontier parent member value child with old | waiting
        · exact old
        · exact covered value waiting inside
      · rename_i selected found
        have fresh : selected ∈ unmarked domain seen := by simpa using List.find?_some found
        have shrunk := unmarked_shrinks fresh
        obtain ⟨keeps,covers,closes⟩ := ih (selected :: seen) (edges selected ++ pending) (by omega) (by
          intro parent member value child
          rcases List.mem_cons.mp member with rfl | earlier
          · exact .inr (List.mem_append_left _ child)
          · rcases frontier parent earlier value child with old | waiting
            · exact .inl (List.mem_cons_of_mem _ old)
            · exact .inr (List.mem_append_right _ waiting))
        exact ⟨fun value member => keeps value (List.mem_cons_of_mem _ member),
          fun value waiting => covers value (List.mem_append_right _ waiting),closes⟩

-- Only objects of the domain have edges; the marked ones are the reachable ones of it.
theorem marked_exact (edges : α → List α) (domain roots : List α)
    (outside : ∀ value, value ∉ domain → edges value = []) (inside : value ∈ domain) :
    value ∈ marked edges domain roots ↔ Reachable edges roots value := by
  constructor
  · exact mark_sound edges domain (Reachable edges roots) (fun _ _ reached child => reached.edge child)
      _ [] roots (by simp) (fun _ member => .root member) value
  · intro reached
    have fits : (unmarked domain []).length ≤ domain.length := List.length_filter_le _ _
    obtain ⟨_,covers,closes⟩ := mark_closed edges domain domain.length [] roots fits (by simp)
    refine reached.closed (fun value => value ∈ domain → value ∈ marked edges domain roots)
      (fun root member => covers root member) ?_ inside
    intro parent value held child inside
    by_cases member : parent ∈ domain
    · exact closes parent (held member) value child inside
    · rw [outside parent member] at child
      cases child
end

end Marking
