import Mathlib.Data.List.Basic

namespace Registers

-- Operations on a state, some of which are accepted and then write one register.
variable {σ κ ν ω : Type} (apply : σ → ω → σ) (effect : σ → ω → Option (κ × ν)) (read : σ → κ → ν)

-- Reads answer as if each register were a variable of its own.
structure Framed : Prop where
  refused : effect s op = none → ∀ cell, read (apply s op) cell = read s cell
  written : effect s op = some (cell,value) → read (apply s op) cell = value
  kept : effect s op = some (cell,value) → ∀ other, other ≠ cell → read (apply s op) other = read s other

variable [DecidableEq κ]

-- The last value that was written to the register, or the one it had before.
def last (cell : κ) (value : ν) (s : σ) : List ω → ν
  | [] => value
  | op :: rest => match effect s op with
    | none => last cell value (apply s op) rest
    | some (target,new) => last cell (if target = cell then new else value) (apply s op) rest

variable {apply effect read}

theorem read_next (framed : Framed apply effect read) (s : σ) (op : ω) (cell : κ) : read (apply s op) cell =
    match effect s op with
    | none => read s cell
    | some (target,new) => if target = cell then new else read s cell := by
  cases done : effect s op with
  | none => exact framed.refused done cell
  | some write =>
      by_cases same : write.1 = cell
      · subst same
        simpa using framed.written done
      · simpa [same] using framed.kept done cell (Ne.symm same)

-- Induction over the operations: the reads of the state reached are the last writes.
theorem read_last (framed : Framed apply effect read) (ops : List ω) (s : σ) (cell : κ) :
    read (ops.foldl apply s) cell = last apply effect cell (read s cell) s ops := by
  induction ops generalizing s with
  | nil => rfl
  | cons op rest ih =>
      rw [List.foldl_cons,ih,read_next framed,last]
      cases effect s op <;> rfl

-- The value of the last of so many writes to the register, or the one it had before.
def LastWritten (writes : Nat → Option (κ × ν)) (count : Nat) (cell : κ) (start value : ν) : Prop :=
  (∃ n < count, writes n = some (cell,value) ∧
    ∀ later < count, n < later → ∀ other, writes later ≠ some (cell,other)) ∨
  (∀ n < count, ∀ other, writes n ≠ some (cell,other)) ∧ value = start

theorem LastWritten.next {writes : Nat → Option (κ × ν)} (before : LastWritten writes count cell start value) :
    LastWritten writes (count+1) cell start (match writes count with
      | none => value
      | some (target,new) => if target = cell then new else value) := by
  have kept (quiet : ∀ other, writes count ≠ some (cell,other)) :
      LastWritten writes (count+1) cell start value := by
    have settle : ∀ n < count+1, n < count ∨ n = count := fun n below => Nat.lt_succ_iff_lt_or_eq.mp below
    rcases before with ⟨n,below,written,last⟩ | ⟨unwritten,same⟩
    · refine .inl ⟨n,Nat.lt_succ_of_lt below,written,?_⟩
      intro later inside after
      rcases settle later inside with earlier | rfl
      · exact last later earlier after
      · exact quiet
    · refine .inr ⟨?_,same⟩
      intro n inside
      rcases settle n inside with earlier | rfl
      · exact unwritten n earlier
      · exact quiet
  cases done : writes count with
  | none => exact kept (by simp [done])
  | some write =>
      obtain ⟨target,new⟩ := write
      by_cases same : target = cell
      · subst same
        refine .inl ⟨count,Nat.lt_succ_self count,?_,fun later below above => by omega⟩
        simpa using done
      · simp only [if_neg same]
        exact kept (by simp [done,same])

-- Induction over the number of writes, which numbers them.
theorem read_range {apply : σ → Nat → σ} {writes : Nat → Option (κ × ν)}
    (framed : Framed apply (fun _ => writes) read) (s : σ) (cell : κ) (count : Nat) :
    LastWritten writes count cell (read s cell) (read ((List.range count).foldl apply s) cell) := by
  induction count with
  | zero => exact .inr ⟨by simp,rfl⟩
  | succ count ih =>
      rw [List.range_succ,List.foldl_append,List.foldl_cons,List.foldl_nil,read_next framed]
      exact ih.next

end Registers
