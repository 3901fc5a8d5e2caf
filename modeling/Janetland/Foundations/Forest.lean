import Mathlib.Logic.Relation

namespace Forest

-- Nodes are numbered in the order they are made, and a parent is older than its child.
def Grown (parent : Nat → Option Nat) : Prop := ∀ node older, parent node = some older → older < node

def Below (parent : Nat → Option Nat) : Nat → Nat → Prop :=
  Relation.ReflTransGen (fun node older => parent node = some older)

section
variable (parent : Nat → Option Nat) (mark : Nat → Option β)

-- The first mark on the way from a node to its root.
def walk : Nat → Nat → Option β
  | 0,node => mark node
  | fuel+1,node => match mark node with
    | some value => some value
    | none => (parent node).bind (walk fuel)

-- A chain of parents is no longer than the number of the node it starts at.
def climb (node : Nat) : Option β := walk parent mark node node

end

def inside (parent : Nat → Option Nat) (root node : Nat) : Bool :=
  (climb parent (fun passed => if passed = root then some () else none) node).isSome

variable {parent : Nat → Option Nat} {mark : Nat → Option β}

theorem walk_marked (marked : mark node = some value) : walk parent mark fuel node = some value := by
  cases fuel <;> simp [walk,marked]

theorem walk_step (grown : Grown parent) (enough : node ≤ fuel) (unmarked : mark node = none) :
    walk parent mark fuel node = (parent node).bind (walk parent mark (fuel-1)) := by
  cases fuel with
  | zero =>
      obtain rfl := Nat.le_zero.mp enough
      cases found : parent 0 with
      | none => simpa [walk] using unmarked
      | some older => exact absurd (grown 0 older found) (Nat.not_lt_zero older)
  | succ fuel => simp [walk,unmarked]

theorem walk_fuel (grown : Grown parent) (enough : node ≤ fuel) :
    walk parent mark fuel node = climb parent mark node := by
  induction node using Nat.strongRecOn generalizing fuel with
  | _ node ih =>
      cases marked : mark node with
      | some value => rw [climb,walk_marked marked,walk_marked marked]
      | none =>
          rw [climb,walk_step grown enough marked,walk_step grown (Nat.le_refl node) marked]
          cases found : parent node with
          | none => rfl
          | some older =>
              have smaller := grown node older found
              simp only [Option.bind_some]
              rw [ih older smaller (show older ≤ fuel-1 by omega),ih older smaller (show older ≤ node-1 by omega)]

theorem climb_marked (marked : mark node = some value) : climb parent mark node = some value := walk_marked marked

theorem climb_rootless (grown : Grown parent) (unmarked : mark node = none) (top : parent node = none) :
    climb parent mark node = none := by
  rw [climb,walk_step grown (Nat.le_refl node) unmarked,top]
  rfl

theorem climb_parent (grown : Grown parent) (unmarked : mark node = none) (found : parent node = some older) :
    climb parent mark node = climb parent mark older := by
  have smaller := grown node older found
  rw [climb,walk_step grown (Nat.le_refl node) unmarked,found,Option.bind_some]
  exact walk_fuel grown (show older ≤ node-1 by omega)

theorem inside_self : inside parent root root = true := by
  unfold inside
  rw [climb_marked (if_pos rfl)]
  rfl

theorem inside_parent (grown : Grown parent) (apart : node ≠ root) (found : parent node = some older) :
    inside parent root node = inside parent root older := by
  unfold inside
  rw [climb_parent grown (if_neg apart) found]

theorem inside_exact (grown : Grown parent) : inside parent root node = true ↔ Below parent node root := by
  constructor
  · intro held
    induction node using Nat.strongRecOn with
    | _ node ih =>
        by_cases same : node = root
        · rw [same]; exact .refl
        · cases found : parent node with
          | none =>
              unfold inside at held
              rw [climb_rootless grown (if_neg same) found] at held
              simp at held
          | some older =>
              rw [inside_parent grown same found] at held
              exact .head found (ih older (grown node older found) held)
  · intro path
    induction path using Relation.ReflTransGen.head_induction_on with
    | refl => exact inside_self
    | @head node older edge _ ih =>
        by_cases same : node = root
        · rw [same]; exact inside_self
        · rw [inside_parent grown same edge]; exact ih

-- Below a node without children is only the node itself.
theorem inside_childless (grown : Grown parent) (childless : ∀ child, parent child ≠ some root) :
    inside parent root node = true ↔ node = root := by
  rw [inside_exact grown]
  constructor
  · intro path
    rcases path.cases_tail with same | ⟨child,_,edge⟩
    · exact same.symm
    · exact absurd edge (childless child)
  · intro same
    rw [same]
    exact .refl

end Forest
