import Mathlib.Data.List.Range

-- A service that stands still while its counter is not zero. Whoever suspends it raises the
-- counter and keeps the value it had, and puts that value back when done.
namespace Suspensions

structure Counter where
  value : Nat
  -- the values kept by those who are not done, the latest first
  kept : List Nat
deriving DecidableEq

namespace Counter

def idle : Counter := ⟨0,[]⟩

def suspend (counter : Counter) : Counter := ⟨counter.value + 1,counter.value :: counter.kept⟩

def resume (counter : Counter) : Counter := match counter.kept with
  | [] => counter
  | old :: rest => ⟨old,rest⟩

-- Each one kept the number of those before it.
inductive Nested : Counter → Prop where
  | idle : Nested idle
  | suspend : Nested counter → Nested counter.suspend

@[simp] theorem resume_suspend (counter : Counter) : counter.suspend.resume = counter := rfl

theorem nested_resume (nested : Nested counter) : Nested counter.resume := by
  cases nested with
  | idle => exact .idle
  | suspend before => exact before

theorem nested_depth (nested : Nested counter) : counter.value = counter.kept.length := by
  induction nested with
  | idle => rfl
  | suspend _ ih => exact congrArg Nat.succ ih

theorem nested_kept (nested : Nested counter) : counter.kept = (List.range counter.value).reverse := by
  induction nested with
  | idle => rfl
  | @suspend before _ ih =>
      have counted : before.suspend.kept = before.value :: before.kept := rfl
      have raised : before.suspend.value = before.value + 1 := rfl
      rw [counted,raised,List.range_succ,List.reverse_append,ih]
      rfl

theorem resume_depth (counter : Counter) : counter.resume.kept.length = counter.kept.length - 1 := by
  unfold resume
  split
  · rename_i none
    rw [none]
    rfl
  · rename_i old rest some
    rw [some]
    rfl

end Counter

end Suspensions
