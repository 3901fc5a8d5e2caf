import Janetland.PutMethods
import Janetland.Foundations.Registers

namespace Janetland

def boxMembers : List String := ["x","y","width","height"]

def zeroBox (mem : CMem) (self : Addr) : CMem :=
  { mem with bits := fun o s m => if o = self ∧ s = "wlr_box" then 0 else mem.bits o s m }

-- A member of the box at `self`, an int.
def boxMember (self : Addr) (mem : CMem) (member : String) : Int := CType.toInt32 .int32 (mem.bits self "wlr_box" member)

-- The loop at index `k`; a keyword that is none of the four passes by.
def boxLoop (argv : List Janet) (self : Addr) : Nat → Nat → CMem → Res CMem
  | 0,_,mem => .ok mem
  | rounds+1,k,mem => do
    let kw ← janetGetkeyword argv k
    match boxMembers.find? (janetCstrcmp kw) with
    | some member => do
      let value ← janetGetinteger argv (k+1)
      boxLoop argv self rounds (k+2) (mem.setBits self "wlr_box" member (BitVec.ofInt 32 value).toNat)
    | none => boxLoop argv self rounds (k+2) mem

-- `self` is the address of the new box; x and y fill its first word.
def cfunBox (mem : CMem) (self : Addr) (argv : List Janet) : Res (CMem × Abstract) :=
  if argv.length % 2 = 1 then panicf "expected even number of arguments, got %d" [janetInteger argv.length]
  else do
    let mem ← boxLoop argv self (argv.length / 2) 0 (zeroBox mem self)
    return (mem,⟨self,.own .jwlrAtBox,.inlined
      (uint32 (mem.bits self "wlr_box" "x") + 4294967296 * uint32 (mem.bits self "wlr_box" "y"))⟩)

def argPairs : List Janet → List (Janet × Janet)
  | key :: value :: rest => (key,value) :: argPairs rest
  | _ => []

def putPairs (p : Abstract) : CMem → List (Janet × Janet) → Res CMem
  | mem,[] => .ok mem
  | mem,pair :: rest => do
    let mem ← methodBoxPut mem p pair.2 pair.1
    putPairs p mem rest

-- `(def b (box))`, then `(put b k v)` for each pair in order.
def putScript (mem : CMem) (self : Addr) (argv : List Janet) : Res CMem := do
  let made ← cfunBox mem self []
  putPairs made.2 made.1 (argPairs argv)

def knownMember : Janet → Option String
  | .keyword kw => boxMembers.find? (janetCstrcmp kw)
  | _ => none

def int32Of : Janet → Option Int
  | .number value => value.int32?
  | _ => none

-- The member that a pair sets, and to what.
def boxEffect (_ : CMem) (pair : Janet × Janet) : Option (String × Int) := do
  let member ← knownMember pair.1
  let value ← int32Of pair.2
  return (member,value)

def boxApply (self : Addr) (mem : CMem) (pair : Janet × Janet) : CMem := match boxEffect mem pair with
  | some (member,value) => mem.setBits self "wlr_box" member (BitVec.ofInt 32 value).toNat
  | none => mem

-- A key that is a keyword but names no member.
def Stray (pair : Janet × Janet) : Prop := (∃ kw, pair.1 = .keyword kw) ∧ knownMember pair.1 = none

-- A key that is no keyword, or a member whose value is no int32.
def Malformed (pair : Janet × Janet) : Prop :=
  (∀ kw, pair.1 ≠ .keyword kw) ∨ knownMember pair.1 ≠ none ∧ int32Of pair.2 = none

theorem boxEffect_exact : boxEffect mem (key,value) = some (member,n) ↔
    knownMember key = some member ∧ int32Of value = some n := by
  unfold boxEffect
  cases knownMember key <;> cases int32Of value <;> simp

theorem pair_trichotomy (mem : CMem) (pair : Janet × Janet) :
    (∃ member n, boxEffect mem pair = some (member,n)) ∨ Stray pair ∨ Malformed pair := by
  obtain ⟨key,value⟩ := pair
  cases known : knownMember key with
  | some member =>
      cases whole : int32Of value with
      | some n => exact .inl ⟨member,n,boxEffect_exact.mpr ⟨known,whole⟩⟩
      | none => exact .inr (.inr (.inr ⟨by simp [known],whole⟩))
  | none =>
      cases key with
      | keyword kw => exact .inr (.inl ⟨⟨kw,rfl⟩,known⟩)
      | _ => exact .inr (.inr (.inl (by simp)))

theorem stray_unset (stray : Stray pair) : boxEffect mem pair = none := by
  simp [boxEffect,stray.2]

theorem integer_slot (argv : List Janet) (n : Nat) : janetGetinteger argv n = match int32Of (slot argv n) with
    | some value => .ok value
    | none => badSlot argv n "32 bit signed integer" := by
  unfold janetGetinteger int32Of
  cases slot argv n with
  | number value => cases value.int32? <;> rfl
  | _ => rfl

theorem expect_int32 (value : Janet) : expectInt32 value = match int32Of value with
    | some n => .ok (BitVec.ofInt 32 n)
    | none => panicf "expected a 32-bit signed integer, got %v" [value] := by
  unfold expectInt32 int32Of
  cases value with
  | number value => cases value.int32? <;> rfl
  | _ => rfl

section
variable {mem : CMem} {self : Addr} {argv : List Janet} {k rounds : Nat} {p : Abstract} {pair : Janet × Janet}
  {pairs : List (Janet × Janet)}

-- One round of either loop on a pair that sets a member.
theorem round_set (set : boxEffect mem (slot argv k,slot argv (k+1)) = some (member,n)) :
    boxLoop argv self (rounds+1) k mem =
      boxLoop argv self rounds (k+2) (boxApply self mem (slot argv k,slot argv (k+1))) := by
  obtain ⟨known,whole⟩ := boxEffect_exact.mp set
  unfold boxApply
  rw [set]
  cases key : slot argv k with
  | keyword kw =>
      rw [key] at known
      have found : boxMembers.find? (janetCstrcmp kw) = some member := known
      simp [boxLoop,janetGetkeyword,key,found,integer_slot,whole]
  | _ => simp [key,knownMember] at known

theorem round_stray (stray : Stray (slot argv k,slot argv (k+1))) :
    boxLoop argv self (rounds+1) k mem = boxLoop argv self rounds (k+2) mem := by
  obtain ⟨⟨kw,key⟩,unknown⟩ := stray
  simp only at key unknown
  rw [key] at unknown
  have missed : boxMembers.find? (janetCstrcmp kw) = none := unknown
  simp [boxLoop,janetGetkeyword,key,missed]

theorem round_malformed (malformed : Malformed (slot argv k,slot argv (k+1))) :
    ∃ error, boxLoop argv self (rounds+1) k mem = .panic error := by
  rcases malformed with other | ⟨known,broken⟩
  · cases key : slot argv k with
    | keyword kw => exact absurd key (other kw)
    | _ => simp [boxLoop,janetGetkeyword,key,badSlot,panicf]
  · cases key : slot argv k with
    | keyword kw =>
        obtain ⟨member,found⟩ := Option.ne_none_iff_exists'.mp known
        simp only [key,knownMember] at found
        simp only at broken
        simp [boxLoop,janetGetkeyword,key,found,integer_slot,broken,badSlot,panicf]
    | _ => simp [key,knownMember] at known

theorem put_set (set : boxEffect mem pair = some (member,n)) (there : p.self = self) :
    methodBoxPut mem p pair.2 pair.1 = .ok (boxApply self mem pair) := by
  obtain ⟨key,value⟩ := pair
  obtain ⟨known,whole⟩ := boxEffect_exact.mp set
  unfold boxApply
  rw [set]
  cases key with
  | keyword kw =>
      have found : ["x","y","width","height"].find? (janetCstrcmp kw) = some member := known
      simp [methodBoxPut,expect_int32,whole,found,there]
  | _ => simp [knownMember] at known

theorem put_refused (refused : boxEffect mem pair = none) :
    ∃ error, methodBoxPut mem p pair.2 pair.1 = .panic error := by
  obtain ⟨key,value⟩ := pair
  cases key with
  | keyword kw =>
      cases whole : int32Of value with
      | none => simp [methodBoxPut,expect_int32,whole,panicf]
      | some n =>
          cases known : knownMember (.keyword kw) with
          | some member =>
              rw [boxEffect_exact.mpr ⟨known,whole⟩] at refused
              cases refused
          | none =>
              have missed : ["x","y","width","height"].find? (janetCstrcmp kw) = none := known
              simp only [methodBoxPut,expect_int32,whole,missed,panicf,Res.bind_ok]
              exact ⟨_,rfl⟩
  | _ => exact ⟨_,rfl⟩

theorem drop_pair (long : argv.length = k + 2 * (rounds + 1)) :
    argv.drop k = slot argv k :: slot argv (k+1) :: argv.drop (k+2) := by
  rw [List.drop_eq_getElem_cons (by omega),List.drop_eq_getElem_cons (by omega)]
  simp only [slot,List.getD_eq_getElem?_getD]
  rw [List.getElem?_eq_getElem (by omega),List.getElem?_eq_getElem (by omega)]
  rfl

-- Induction on the rounds: pairs that set a member and stray ones are gone through alike.
theorem loop_ok (long : argv.length = k + 2 * rounds) (fine : ∀ pair ∈ argPairs (argv.drop k), ¬Malformed pair) :
    boxLoop argv self rounds k mem = .ok ((argPairs (argv.drop k)).foldl (boxApply self) mem) := by
  induction rounds generalizing k mem with
  | zero =>
      rw [List.drop_of_length_le (by omega)]
      rfl
  | succ rounds ih =>
      rw [drop_pair long,argPairs] at fine ⊢
      obtain ⟨first,later⟩ := List.forall_mem_cons.mp fine
      rw [List.foldl_cons]
      rcases pair_trichotomy mem (slot argv k,slot argv (k+1)) with ⟨member,n,set⟩ | stray | malformed
      · rw [round_set set,ih (by omega) later]
      · have unset : boxApply self mem (slot argv k,slot argv (k+1)) = mem := by
          unfold boxApply
          rw [stray_unset stray]
        rw [round_stray stray,unset,ih (by omega) later]
      · exact absurd malformed first

theorem loop_panics (long : argv.length = k + 2 * rounds) (broken : ∃ pair ∈ argPairs (argv.drop k), Malformed pair) :
    ∃ error, boxLoop argv self rounds k mem = .panic error := by
  induction rounds generalizing k mem with
  | zero =>
      rw [List.drop_of_length_le (by omega)] at broken
      obtain ⟨_,member,_⟩ := broken
      cases member
  | succ rounds ih =>
      rw [drop_pair long,argPairs] at broken
      rcases pair_trichotomy mem (slot argv k,slot argv (k+1)) with ⟨member,n,set⟩ | stray | malformed
      · rw [round_set set]
        apply ih (by omega)
        obtain ⟨pair,member,malformed⟩ := broken
        rcases List.mem_cons.mp member with rfl | later
        · obtain ⟨known,whole⟩ := boxEffect_exact.mp set
          rcases malformed with other | ⟨_,unread⟩
          · cases key : slot argv k with
            | keyword kw => exact absurd key (other kw)
            | _ => simp [key,knownMember] at known
          · simp [whole] at unread
        · exact ⟨pair,later,malformed⟩
      · rw [round_stray stray]
        apply ih (by omega)
        obtain ⟨pair,member,malformed⟩ := broken
        rcases List.mem_cons.mp member with rfl | later
        · obtain ⟨⟨kw,key⟩,unknown⟩ := stray
          rcases malformed with other | ⟨known,_⟩
          · exact absurd key (other kw)
          · exact absurd unknown known
        · exact ⟨pair,later,malformed⟩
      · exact round_malformed malformed

theorem puts_ok (there : p.self = self) (fit : ∀ pair ∈ pairs, ¬Stray pair ∧ ¬Malformed pair) :
    putPairs p mem pairs = .ok (pairs.foldl (boxApply self) mem) := by
  induction pairs generalizing mem with
  | nil => rfl
  | cons pair rest ih =>
      obtain ⟨first,later⟩ := List.forall_mem_cons.mp fit
      rcases pair_trichotomy mem pair with ⟨member,n,set⟩ | stray | malformed
      · simp only [putPairs,put_set set there,Res.bind_ok,List.foldl_cons]
        exact ih later
      · exact absurd stray first.1
      · exact absurd malformed first.2

theorem puts_panic (unfit : ∃ pair ∈ pairs, Stray pair ∨ Malformed pair) :
    ∃ error, putPairs p mem pairs = .panic error := by
  induction pairs generalizing mem with
  | nil =>
      obtain ⟨_,member,_⟩ := unfit
      cases member
  | cons pair rest ih =>
      cases set : boxEffect mem pair with
      | none =>
          obtain ⟨error,refused⟩ : ∃ error, methodBoxPut mem p pair.2 pair.1 = .panic error := put_refused set
          exact ⟨error,by simp [putPairs,refused]⟩
      | some effect =>
          rw [putPairs,put_set set rfl,Res.bind_ok]
          apply ih
          obtain ⟨other,member,bad⟩ := unfit
          rcases List.mem_cons.mp member with rfl | later
          · obtain ⟨known,whole⟩ := boxEffect_exact.mp set
            rcases bad with ⟨_,unknown⟩ | foreign | ⟨_,unread⟩
            · simp [unknown] at known
            · cases key : other.1 with
              | keyword kw => exact absurd key (foreign kw)
              | _ => simp [key,knownMember] at known
            · simp [whole] at unread
          · exact ⟨other,later,bad⟩

end

-- The box's members are registers of their own.
theorem box_framed (self : Addr) : Registers.Framed (boxApply self) boxEffect (boxMember self) where
  refused unset cell := by simp [boxApply,unset]
  written set := by
    rename_i mem pair member n
    obtain ⟨_,whole⟩ := boxEffect_exact.mp set
    have held : (BitVec.ofInt 32 n).toInt = n := by
      unfold int32Of Number.int32? at whole
      repeat' split at whole
      all_goals cases whole
      rename_i inside
      have least := inside.2.1
      have most := inside.2.2
      unfold int32Min at least
      unfold int32Max at most
      exact BitVec.toInt_ofInt_eq_self (by decide) (by omega) (by omega)
    simp only [boxApply,set,boxMember,CMem.setBits,CType.toInt32,true_and,if_true,BitVec.ofNat_toNat,
      BitVec.setWidth_eq,held]
  kept set other apart := by simp [boxApply,set,boxMember,CMem.setBits,apart]

-- Both succeed with the last value given for each member, or both panic.
def BoxAgreement (mem : CMem) (self : Addr) (argv : List Janet) : Prop :=
  (∃ made put, cfunBox mem self argv = .ok made ∧ putScript mem self argv = .ok put ∧ ∀ member ∈ boxMembers,
      boxMember self made.1 member = boxMember self put member ∧ boxMember self put member =
        Registers.last (boxApply self) boxEffect member 0 (zeroBox mem self) (argPairs argv)) ∨
    ∃ error other, cfunBox mem self argv = .panic error ∧ putScript mem self argv = .panic other

theorem putScript_pairs : putScript mem self argv =
    putPairs ⟨self,.own .jwlrAtBox,.inlined 0⟩ (zeroBox mem self) (argPairs argv) := by
  simp [putScript,cfunBox,boxLoop,zeroBox,uint32]

theorem script_panics (bad : ∃ pair ∈ argPairs argv, Stray pair ∨ Malformed pair) :
    ∃ error, putScript mem self argv = .panic error := by
  rw [putScript_pairs]
  exact puts_panic bad

-- What the constructor leaves, and the puts as well where no pair is a stray.
def filledBox (mem : CMem) (self : Addr) (argv : List Janet) : CMem :=
  (argPairs argv).foldl (boxApply self) (zeroBox mem self)

theorem script_puts (clean : ∀ pair ∈ argPairs argv, ¬Stray pair) (fine : ∀ pair ∈ argPairs argv, ¬Malformed pair) :
    putScript mem self argv = .ok (filledBox mem self argv) := by
  rw [putScript_pairs]
  exact puts_ok rfl fun pair member => ⟨clean pair member,fine pair member⟩

theorem box_panics (even : argv.length % 2 = 0) (bad : ∃ pair ∈ argPairs argv, Malformed pair) :
    ∃ error, cfunBox mem self argv = .panic error := by
  have long : argv.length = 0 + 2 * (argv.length / 2) := by omega
  have parity : ¬argv.length % 2 = 1 := by omega
  obtain ⟨error,looped⟩ : ∃ error, boxLoop argv self (argv.length / 2) 0 (zeroBox mem self) = .panic error :=
    loop_panics long bad
  exact ⟨error,by simp [cfunBox,parity,looped]⟩

theorem box_fills (even : argv.length % 2 = 0) (fine : ∀ pair ∈ argPairs argv, ¬Malformed pair) :
    ∃ box, cfunBox mem self argv = .ok (filledBox mem self argv,box) := by
  have long : argv.length = 0 + 2 * (argv.length / 2) := by omega
  have parity : ¬argv.length % 2 = 1 := by omega
  have looped : boxLoop argv self (argv.length / 2) 0 (zeroBox mem self) = .ok (filledBox mem self argv) :=
    loop_ok long fine
  rw [cfunBox,if_neg parity,looped]
  exact ⟨_,rfl⟩

theorem box_agreement_exact (mem : CMem) (self : Addr) (even : argv.length % 2 = 0) :
    BoxAgreement mem self argv ↔
      (∀ pair ∈ argPairs argv, ¬Stray pair) ∨ ∃ pair ∈ argPairs argv, Malformed pair := by
  by_cases broken : ∃ pair ∈ argPairs argv, Malformed pair
  · obtain ⟨error,panicked⟩ : ∃ error, cfunBox mem self argv = .panic error := box_panics even broken
    obtain ⟨pair,member,malformed⟩ := broken
    obtain ⟨other,refused⟩ : ∃ other, putScript mem self argv = .panic other :=
      script_panics ⟨pair,member,.inr malformed⟩
    exact iff_of_true (.inr ⟨error,other,panicked,refused⟩) (.inr ⟨pair,member,malformed⟩)
  · have fine : ∀ pair ∈ argPairs argv, ¬Malformed pair := fun pair member bad => broken ⟨pair,member,bad⟩
    obtain ⟨box,made⟩ : ∃ box, cfunBox mem self argv = .ok (filledBox mem self argv,box) := box_fills even fine
    by_cases strays : ∃ pair ∈ argPairs argv, Stray pair
    · obtain ⟨pair,member,stray⟩ := strays
      obtain ⟨other,refused⟩ : ∃ other, putScript mem self argv = .panic other :=
        script_panics ⟨pair,member,.inl stray⟩
      refine iff_of_false ?_ ?_
      · rintro (⟨_,_,_,returned,_⟩ | ⟨_,_,panicked,_⟩)
        · rw [refused] at returned
          cases returned
        · rw [made] at panicked
          cases panicked
      · rintro (clean | bad)
        · exact clean pair member stray
        · exact broken bad
    · have clean : ∀ pair ∈ argPairs argv, ¬Stray pair := fun pair member bad => strays ⟨pair,member,bad⟩
      refine iff_of_true (.inl ⟨_,_,made,script_puts clean fine,?_⟩) (.inl clean)
      intro member _
      have zero : boxMember self (zeroBox mem self) member = 0 := by simp [boxMember,zeroBox,CType.toInt32]
      exact ⟨rfl,by rw [filledBox,Registers.read_last (box_framed self),zero]⟩

theorem box_agreement_exact_two : BoxAgreement blankMem 8 [.keyword "x",janetInteger 1,.keyword "x",janetInteger 2] ↔
    (∀ pair ∈ argPairs [.keyword "x",janetInteger 1,.keyword "x",janetInteger 2], ¬Stray pair) ∨
      ∃ pair ∈ argPairs [.keyword "x",janetInteger 1,.keyword "x",janetInteger 2], Malformed pair :=
  box_agreement_exact blankMem 8 (by decide)

-- `(box :w 5)` is the zero box, and `(put (box) :w 5)` panics.
theorem misspelt_member_ignored : ¬∀ mem self argv, argv.length % 2 = 0 → BoxAgreement mem self argv := by
  intro agree
  have refused : ∃ error, putScript blankMem 8 [.keyword "w",janetInteger 5] = .panic error := ⟨_,rfl⟩
  rcases agree blankMem 8 [.keyword "w",janetInteger 5] rfl with ⟨_,_,_,returned,_⟩ | ⟨_,_,panicked,_⟩
  · obtain ⟨error,panics⟩ := refused
    rw [panics] at returned
    cases returned
  · cases panicked

end Janetland
