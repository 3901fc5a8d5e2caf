import Mathlib.Algebra.Ring.Int.Defs
import Mathlib.Data.List.Basic

namespace Strokes

-- Something is pressed or released; strokes are counted under their keys.
structure Stroke (κ : Type) where
  key : κ
  down : Bool
deriving DecidableEq

section
variable {ι κ μ : Type} [DecidableEq κ] {keyOf : ι → κ} {tells : μ → Bool} {held : List (ι × μ)} {told : List (Stroke κ)}
  {id : ι} {mark now : μ}

def weight (key : κ) (stroke : Stroke κ) : Int := if stroke.key = key then if stroke.down then 1 else -1 else 0

-- The presses of a key that have not been released, as far as the strokes tell.
def tally (key : κ) : List (Stroke κ) → Int
  | [] => 0
  | stroke :: rest => weight key stroke + tally key rest

-- A stroke is told if its mark says so, when it is made.
def telling (tells : μ → Bool) (mark : μ) (stroke : Stroke κ) : List (Stroke κ) := if tells mark then [stroke] else []

-- The strokes that were told are the presses that are still held.
def Tallied (keyOf : ι → κ) (tells : μ → Bool) (held : List (ι × μ)) (told : List (Stroke κ)) : Prop :=
  ∀ key, tally key told = held.countP fun press => decide (keyOf press.1 = key) && tells press.2

@[simp] theorem tally_append (key : κ) (strokes more : List (Stroke κ)) :
    tally key (strokes ++ more) = tally key strokes + tally key more := by
  induction strokes with
  | nil => simp [tally]
  | cons stroke rest ih => rw [List.cons_append,tally,tally,ih,Int.add_assoc]

theorem tally_telling (key : κ) (stroke : Stroke κ) :
    tally key (telling tells mark stroke) = if tells mark then weight key stroke else 0 := by
  unfold telling
  cases tells mark <;> simp [tally]

theorem tallied_empty : Tallied keyOf tells [] [] := fun _ => rfl

theorem tallied_pressed (tallied : Tallied keyOf tells held told) :
    Tallied keyOf tells (held ++ [(id,mark)]) (told ++ telling tells mark ⟨keyOf id,true⟩) := by
  intro key
  have before := tallied key
  rw [tally_append,tally_telling,before,List.countP_append,List.countP_singleton]
  unfold weight
  cases tells mark with
  | false => simp
  | true => by_cases same : keyOf id = key <;> simp [same]

-- No key is told to be up more often than down, nor to be down while it is up.
theorem tallied_bounds (tallied : Tallied keyOf tells held told) (key : κ) :
    0 ≤ tally key told ∧ tally key told ≤ held.countP fun press => decide (keyOf press.1 = key) := by
  rw [tallied key]
  refine ⟨Int.natCast_nonneg _,?_⟩
  rw [Int.ofNat_le]
  apply List.countP_mono_left
  intro press _ both
  exact (Bool.and_eq_true_iff.mp both).1

-- What is held down, each with a mark that was made when it was pressed.
def markOf [DecidableEq ι] (id : ι) : List (ι × μ) → Option μ
  | [] => none
  | press :: rest => if press.1 = id then some press.2 else markOf id rest

def released [DecidableEq ι] (id : ι) : List (ι × μ) → List (ι × μ)
  | [] => []
  | press :: rest => if press.1 = id then rest else press :: released id rest

variable [DecidableEq ι]

theorem held_released (member : press ∈ held) (marked : markOf id held = some mark) (apart : press ≠ (id,mark)) :
    press ∈ released id held := by
  induction held with
  | nil => exact member
  | cons first rest ih =>
      unfold markOf at marked
      unfold released
      split at marked
      · rename_i same
        rw [if_pos same]
        have own : first = (id,mark) := Prod.ext same (Option.some.inj marked)
        rcases List.mem_cons.mp member with here | later
        · exact absurd (here.trans own) apart
        · exact later
      · rename_i different
        rw [if_neg different]
        rcases List.mem_cons.mp member with same | later
        · exact same ▸ List.mem_cons_self
        · exact List.mem_cons_of_mem _ (ih later marked)

-- A release takes one press away, the one with its mark.
theorem released_count (marked : markOf id held = some mark) (counts : ι × μ → Bool) :
    held.countP counts = (released id held).countP counts + if counts (id,mark) then 1 else 0 := by
  induction held with
  | nil => simp [markOf] at marked
  | cons press rest ih =>
      unfold markOf at marked
      unfold released
      split at marked
      · rename_i same
        obtain rfl := Option.some.inj marked
        rw [if_pos same,← same,List.countP_cons]
      · rename_i apart
        rw [if_neg apart,List.countP_cons,List.countP_cons,ih marked]
        omega

-- A release keeps the balance exactly if it is told like its press.
theorem tallied_released (tallied : Tallied keyOf tells held told) (marked : markOf id held = some mark) :
    Tallied keyOf tells (released id held) (told ++ telling tells now ⟨keyOf id,false⟩) ↔ tells now = tells mark := by
  have one : ∀ key, tally key (told ++ telling tells now ⟨keyOf id,false⟩) =
      ((released id held).countP fun press => decide (keyOf press.1 = key) && tells press.2) ↔
        (keyOf id = key → tells now = tells mark) := by
    intro key
    have before := tallied key
    have count := released_count marked fun press => decide (keyOf press.1 = key) && tells press.2
    rw [tally_append,tally_telling,before,count]
    unfold weight
    by_cases same : keyOf id = key
    · cases tells now <;> cases tells mark <;> simp [same]
    · simp [same]
  constructor
  · exact fun after => (one (keyOf id)).mp (after (keyOf id)) rfl
  · exact fun matched key => (one key).mpr fun _ => matched

end

end Strokes
