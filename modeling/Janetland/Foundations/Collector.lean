import Janetland.Foundations.Marking
import Janetland.Foundations.Runs

-- A heap of objects under a collector that marks and sweeps.
namespace Collector
open Marking EventRuns

-- The domain is finite and lists every object.
structure Heap (α β : Type) where
  objects : α → Option β
  domain : List α
  roots : List α
  listed : objects place = some object → place ∈ domain

-- The program allocates, writes and changes what it holds; places that were freed may
-- be handed out again.
inductive Event (α β : Type) where
  | allocate (place : α) (object : β)
  | write (place : α) (object : β)
  | hold (roots : List α)
  | collect

namespace Heap
variable {α β : Type} (refs : β → List α)

def edges (heap : Heap α β) (place : α) : List α := (heap.objects place).elim [] refs

def Reached (heap : Heap α β) (place : α) : Prop := Reachable (heap.edges refs) heap.roots place

theorem edges_held {heap : Heap α β} (held : heap.objects place = some object) :
    heap.edges refs place = refs object := by
  simp [edges,held]

variable [DecidableEq α]

def store (heap : Heap α β) (place : α) (object : β) : Heap α β where
  objects other := if other = place then some object else heap.objects other
  domain := place :: heap.domain
  roots := heap.roots
  listed := by
    intro other value held
    split at held
    · rename_i same
      exact same ▸ List.mem_cons_self
    · exact List.mem_cons_of_mem _ (heap.listed held)

def collected (heap : Heap α β) : Heap α β where
  objects place := if place ∈ marked (heap.edges refs) heap.domain heap.roots then heap.objects place else none
  domain := heap.domain
  roots := heap.roots
  listed := by
    intro place object held
    split at held
    · exact heap.listed held
    · cases held

end Heap

variable {α β : Type} [DecidableEq α] (refs : β → List α) (constant : β → Bool)

-- A constant object is never written.
def step (heap : Heap α β) : Event α β → Option (Heap α β)
  | .allocate place object => if (heap.objects place).isNone then some (heap.store place object) else none
  | .write place object =>
    if (heap.objects place).any fun old => !constant old then some (heap.store place object) else none
  | .hold roots => some { heap with roots := roots }
  | .collect => some (heap.collected refs)

variable {refs constant} {heap next : Heap α β} {place : α} {object : β} {events : List (Event α β)}

@[simp] theorem store_same : (heap.store place object).objects place = some object := if_pos rfl

@[simp] theorem store_other (apart : other ≠ place) :
    (heap.store place object).objects other = heap.objects other := if_neg apart

-- What a collection leaves is what the program could still get at.
theorem collected_exact : (heap.collected refs).objects place = some object ↔
    heap.objects place = some object ∧ heap.Reached refs place := by
  have outside : ∀ other, other ∉ heap.domain → heap.edges refs other = [] := by
    intro other missing
    cases held : heap.objects other with
    | none => simp [Heap.edges,held]
    | some value => exact absurd (heap.listed held) missing
  constructor
  · intro kept
    simp only [Heap.collected] at kept
    split at kept
    · rename_i seen
      exact ⟨kept,(marked_exact _ _ _ outside (heap.listed kept)).mp seen⟩
    · cases kept
  · rintro ⟨held,reached⟩
    have seen := (marked_exact (heap.edges refs) heap.domain heap.roots outside (heap.listed held)).mpr reached
    simp [Heap.collected,seen,held]

-- A constant object stays as it is, as long as every collection can reach it.
theorem step_keeps (held : heap.objects place = some object) (fixed : constant object = true)
    (reached : event = .collect → heap.Reached refs place) (accepted : step refs constant heap event = some next) :
    next.objects place = some object := by
  cases event with
  | allocate target value =>
      simp only [step] at accepted
      split at accepted <;> cases accepted
      rename_i free
      have apart : place ≠ target := by
        rintro rfl
        simp [held] at free
      exact (store_other apart).trans held
  | write target value =>
      simp only [step] at accepted
      split at accepted <;> cases accepted
      rename_i writable
      have apart : place ≠ target := by
        rintro rfl
        simp [held,fixed] at writable
      exact (store_other apart).trans held
  | hold roots =>
      cases accepted
      exact held
  | collect =>
      cases accepted
      exact collected_exact.mpr ⟨held,reached rfl⟩

-- With a constant object that refers to constant ones, those are kept as well.
theorem run_keeps (held : heap.objects place = some object) (fixed : constant object = true)
    (children : ∀ child ∈ refs object, ∃ value, heap.objects child = some value ∧ constant value = true)
    (reached : ∀ row ∈ taken (step refs constant) heap events, row.2 = .collect → row.1.Reached refs place) :
    ∀ later ∈ visited (step refs constant) heap events,
      later.objects place = some object ∧ ∀ child ∈ refs object, later.objects child = heap.objects child := by
  apply visited_assuming (fun later : Heap α β => later.objects place = some object ∧
    ∀ child ∈ refs object, later.objects child = heap.objects child)
    (fun row event => event = .collect → row.Reached refs place) ?_ ⟨held,fun _ _ => rfl⟩ reached
  rintro before event after ⟨own,same⟩ granted accepted
  refine ⟨step_keeps own fixed granted accepted,?_⟩
  intro child member
  obtain ⟨value,found,still⟩ := children child member
  have first : before.objects child = some value := (same child member).trans found
  have edge : child ∈ before.edges refs place := by rwa [Heap.edges_held refs own]
  rw [found]
  exact step_keeps first still (fun collecting => (granted collecting).edge edge) accepted

end Collector
