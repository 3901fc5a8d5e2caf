import Mathlib.Data.List.Nodup

-- Circular lists in a heap, given by the successor of each node.
namespace Rings

-- The nodes met from `start` on, before `stop` is reached.
def Path {α : Type} (next : α → α) : α → List α → α → Prop
  | start,[],stop => next start = stop
  | start,node :: rest,stop => next start = node ∧ Path next node rest stop

structure Ring {α : Type} (next : α → α) (head : α) (nodes : List α) : Prop where
  path : Path next head nodes head
  apart : head ∉ nodes

-- The nodes from `node` on, or `none` when `fuel` steps do not reach `stop`.
def walk {α : Type} [DecidableEq α] (next : α → α) (stop : α) : Nat → α → Option (List α)
  | 0,_ => none
  | fuel+1,node => if node = stop then some [] else (walk next stop fuel (next node)).map (node :: ·)

variable {α : Type} {next : α → α} {start stop head : α} {nodes other : List α}

theorem path_nil : Path next start [] stop ↔ next start = stop := Iff.rfl

theorem path_cons : Path next start (node :: rest) stop ↔ next start = node ∧ Path next node rest stop := Iff.rfl

-- `next` leaves one way only, so a path that first meets its end there is the only one.
theorem path_unique (one : Path next start nodes stop) (two : Path next start other stop)
    (fresh : stop ∉ nodes) (clear : stop ∉ other) : nodes = other := by
  induction nodes generalizing start other with
  | nil =>
      cases other with
      | nil => rfl
      | cons node rest =>
          obtain ⟨first,_⟩ := path_cons.mp two
          exact absurd (List.mem_cons.mpr (.inl (one.symm.trans first))) clear
  | cons node rest ih =>
      obtain ⟨first,later⟩ := path_cons.mp one
      cases other with
      | nil => exact absurd (List.mem_cons.mpr (.inl ((path_nil.mp two).symm.trans first))) fresh
      | cons node' rest' =>
          obtain ⟨first',later'⟩ := path_cons.mp two
          have same : node' = node := first'.symm.trans first
          subst same
          rw [ih later later' (fun member => fresh (List.mem_cons_of_mem _ member))
            (fun member => clear (List.mem_cons_of_mem _ member))]

theorem path_suffix (path : Path next start (front ++ node :: back) stop) : Path next node back stop := by
  induction front generalizing start with
  | nil => exact (path_cons.mp path).2
  | cons head front ih => exact ih (path_cons.mp path).2

-- From a repeated node two paths of different lengths would lead to `stop`.
theorem path_nodup (path : Path next start nodes stop) (fresh : stop ∉ nodes) : nodes.Nodup := by
  induction nodes generalizing start with
  | nil => exact List.nodup_nil
  | cons node rest ih =>
      have later := (path_cons.mp path).2
      have clear : stop ∉ rest := fun member => fresh (List.mem_cons_of_mem _ member)
      refine List.nodup_cons.mpr ⟨?_,ih later clear⟩
      intro again
      obtain ⟨front,back,split⟩ := List.append_of_mem again
      have suffix : Path next node back stop := path_suffix (split ▸ later)
      have kept : stop ∉ back :=
        fun member => clear (split ▸ List.mem_append_right _ (List.mem_cons_of_mem _ member))
      have same := congrArg List.length (path_unique later suffix clear kept)
      rw [split] at same
      simp at same
      omega

theorem Ring.nodup (ring : Ring next head nodes) : nodes.Nodup := path_nodup ring.path ring.apart

theorem Ring.unique (one : Ring next head nodes) (two : Ring next head other) : nodes = other :=
  path_unique one.path two.path one.apart two.apart

theorem Ring.empty_exact (ring : Ring next head nodes) : next head = head ↔ nodes = [] := by
  constructor
  · intro closed
    exact ring.unique ⟨closed,List.not_mem_nil⟩
  · rintro rfl
    exact ring.path

theorem walk_path [DecidableEq α] (path : Path next start nodes stop) (fresh : stop ∉ nodes)
    (enough : nodes.length < fuel) : walk next stop fuel (next start) = some nodes := by
  induction nodes generalizing start fuel with
  | nil =>
      obtain ⟨fuel,rfl⟩ := Nat.exists_eq_add_one_of_ne_zero (Nat.ne_of_gt enough)
      rw [path_nil.mp path,walk,if_pos rfl]
  | cons node rest ih =>
      obtain ⟨fuel,rfl⟩ := Nat.exists_eq_add_one_of_ne_zero (Nat.ne_of_gt (Nat.zero_lt_of_lt enough))
      obtain ⟨first,later⟩ := path_cons.mp path
      have other : node ≠ stop := fun same => fresh (same ▸ List.mem_cons_self)
      have walked := ih later (fun member => fresh (List.mem_cons_of_mem _ member)) (Nat.lt_of_succ_lt_succ enough)
      rw [first,walk,if_neg other,walked]
      rfl

theorem Ring.walked [DecidableEq α] (ring : Ring next head nodes) (enough : nodes.length < fuel) :
    walk next head fuel (next head) = some nodes := walk_path ring.path ring.apart enough

end Rings
