import Janetland.AbstractTypes
import Janetland.Foundations.ThreeWay

namespace Janetland
open ThreeWay

def methodWlrAbsObjCompare (lhs rhs : Abstract) : Int :=
  let left := lhs.payload.firstWord
  let right := rhs.payload.firstWord
  if left = right then 0 else if left > right then 1 else -1

def AbsType.compareMethod : AbsType → Option (Abstract → Abstract → Int)
  | .jwlrAtWlrSurface | .jwlrAtWlrXdgSurface | .jwlrAtWlrSeatClient | .jwlrAtWlrInputDevice =>
    some methodWlrAbsObjCompare
  | _ => none

-- No descriptor of the five modules has a hash method.
def AbsType.hashMethod : AbsType → Option (Abstract → Int) := fun _ => none

-- janet_compare_abstract on two values of one type.
def janetCompareAbstract (type : AbsType) (x y : Abstract) : Int :=
  if x.self = y.self then 0
  else match type.compareMethod with
    | some method => method x y
    | none => if x.self > y.self then 1 else -1

def janetEquals (type : AbsType) (x y : Abstract) : Bool := janetCompareAbstract type x y == 0

-- `addressHash` is how Janet hashes what it knows by its address only.
def janetHash (addressHash : Addr → Int) (type : AbsType) (x : Abstract) : Int := match type.hashMethod with
  | some method => method x
  | none => addressHash x.self

-- The wrapper whose cell is at `self`; each cell holds one C pointer.
def wrapperAt (cells : Addr → Addr) (type : AbsType) (self : Addr) : Abstract :=
  jlPointerToAbsObj self (cells self) type

structure Coherent (addressHash : Addr → Int) (cells : Addr → Addr) (type : AbsType) (a b : Addr) : Prop where
  equality : janetEquals type (wrapperAt cells type a) (wrapperAt cells type b) ↔ cells a = cells b
  order : TotalOrder fun x y => janetCompareAbstract type (wrapperAt cells type x) (wrapperAt cells type y)
  hash : janetEquals type (wrapperAt cells type a) (wrapperAt cells type b) →
    janetHash addressHash type (wrapperAt cells type a) = janetHash addressHash type (wrapperAt cells type b)

-- What two wrappers are told apart by.
def identityKey (cells : Addr → Addr) (type : AbsType) (self : Addr) : Addr :=
  if type.compareMethod.isSome then cells self else self

theorem compareMethod_only (found : AbsType.compareMethod type = some method) : method = methodWlrAbsObjCompare := by
  cases type <;> simp_all [AbsType.compareMethod]

theorem compare_keyed (cells : Addr → Addr) (type : AbsType) (a b : Addr) :
    janetCompareAbstract type (wrapperAt cells type a) (wrapperAt cells type b) =
      compareKeys (identityKey cells type a) (identityKey cells type b) := by
  unfold janetCompareAbstract identityKey
  cases found : type.compareMethod with
  | none => simp [wrapperAt,jlPointerToAbsObj,compareKeys]
  | some method =>
      rw [compareMethod_only found]
      by_cases same : a = b
      · simp [wrapperAt,jlPointerToAbsObj,compareKeys,same]
      · simp [wrapperAt,jlPointerToAbsObj,compareKeys,same,methodWlrAbsObjCompare,Payload.firstWord]

theorem equals_exact (cells : Addr → Addr) (type : AbsType) (a b : Addr) :
    janetEquals type (wrapperAt cells type a) (wrapperAt cells type b) ↔
      identityKey cells type a = identityKey cells type b := by
  rw [janetEquals,beq_iff_eq,compare_keyed,compareKeys_zero]

theorem compare_total (cells : Addr → Addr) (type : AbsType) :
    TotalOrder fun x y => janetCompareAbstract type (wrapperAt cells type x) (wrapperAt cells type y) := by
  simp only [compare_keyed]
  exact keyed_total (identityKey cells type)

-- Two wrappers behave as one object exactly when they are one cell, wrap two objects, or
-- their type compares pointers and their cells happen to hash alike.
theorem identity_coherent_exact (addressHash : Addr → Int) (cells : Addr → Addr) (type : AbsType) (a b : Addr) :
    Coherent addressHash cells type a b ↔ a = b ∨ cells a ≠ cells b ∨
      type.compareMethod.isSome = true ∧ addressHash a = addressHash b := by
  have law : Coherent addressHash cells type a b ↔
      (identityKey cells type a = identityKey cells type b ↔ cells a = cells b) ∧
      (identityKey cells type a = identityKey cells type b → addressHash a = addressHash b) := by
    constructor
    · rintro ⟨equality,_,hash⟩
      rw [equals_exact] at equality hash
      exact ⟨equality,hash⟩
    · rintro ⟨equality,hash⟩
      refine ⟨?_,compare_total cells type,?_⟩
      · rwa [equals_exact]
      · rwa [equals_exact]
  rw [law]
  unfold identityKey
  by_cases one : a = b
  · simp [one]
  · cases type.compareMethod.isSome <;> by_cases pointers : cells a = cells b <;> simp [one,pointers]

-- Two gets of one member give two wrappers of one X window, and they are not equal.
theorem xwayland_surface_incoherent : ¬∀ addressHash cells type a b, type ∈ wlrEntry → type.inline = false →
    Coherent addressHash cells type a b := by
  intro law
  have coherent := law (fun address => address) (fun _ => 16) .jwlrAtWlrXwaylandSurface 1 2 (by decide) rfl
  have equal := coherent.equality.mpr rfl
  revert equal
  decide

end Janetland
