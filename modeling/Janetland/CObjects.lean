import Janetland.AbstractTypes

namespace Janetland

-- The state of the C structs, read member by member. `ptr` is a member that holds
-- an address, `bits` the raw bits of an integer, enum or bool member.
structure CMem where
  ptr : Addr → String → String → Addr
  bits : Addr → String → String → Nat
  num : Addr → String → String → Number
  cstr : Addr → List UInt8
  bytes : Addr → Nat → List UInt8
  ptrElem : Addr → Nat → Addr
  word : Addr → Nat → Nat

-- What a C function of the library sees: the structs, the layout the C compiler
-- chose, the VM's type registry, and the cells `janet_abstract` will hand out.
structure Env where
  mem : CMem
  offsetof : String → String → Nat
  registry : Registry
  alloc : Nat → Addr

-- A memory in which every member of every struct is NULL, zero or empty.
def blankMem : CMem := ⟨fun _ _ _ => 0,fun _ _ _ => 0,fun _ _ _ => .finite 0,fun _ => [],fun _ _ => [],
  fun _ _ => 0,fun _ _ => 0⟩
def blankEnv : Env := ⟨blankMem,fun _ _ => 0,loadedRegistry,fun n => n+1⟩

inductive CType where
  | int16 | uint16 | uint8 | int32 | uint32 | size
deriving DecidableEq

-- The conversion to int32_t that the argument of janet_wrap_integer goes through.
def CType.toInt32 : CType → Nat → Int
  | .int16,raw => (BitVec.ofNat 16 raw).toInt
  | .uint16,raw => (BitVec.ofNat 16 raw).toNat
  | .uint8,raw => (BitVec.ofNat 8 raw).toNat
  | _,raw => (BitVec.ofNat 32 raw).toInt

def uint32 (raw : Nat) : Nat := raw % 4294967296

namespace Env

def readPtr (env : Env) (obj : Addr) (struct member : String) : Res Addr :=
  if obj = 0 then .fault .nullDeref else .ok (env.mem.ptr obj struct member)

def readBits (env : Env) (obj : Addr) (struct member : String) : Res Nat :=
  if obj = 0 then .fault .nullDeref else .ok (env.mem.bits obj struct member)

def readNum (env : Env) (obj : Addr) (struct member : String) : Res Number :=
  if obj = 0 then .fault .nullDeref else .ok (env.mem.num obj struct member)

@[simp] theorem readPtr_live (env : Env) (live : obj ≠ 0) :
    env.readPtr obj struct member = .ok (env.mem.ptr obj struct member) := if_neg live
@[simp] theorem readBits_live (env : Env) (live : obj ≠ 0) :
    env.readBits obj struct member = .ok (env.mem.bits obj struct member) := if_neg live
@[simp] theorem readNum_live (env : Env) (live : obj ≠ 0) :
    env.readNum obj struct member = .ok (env.mem.num obj struct member) := if_neg live

-- `&obj->member` computes an address and reads nothing.
def memberAddr (env : Env) (obj : Addr) (struct member : String) : Addr := obj + env.offsetof struct member

def janetCstringv (env : Env) (text : Addr) : Res Janet :=
  if text = 0 then .fault .nullDeref else .ok (.string (env.mem.cstr text))

def janetWrapU64 (env : Env) (n : Nat) (value : Nat) : Janet :=
  .abstract ⟨env.alloc n,.foreign "core/u64",.inlined value⟩

-- janet_buffer_push_bytes with a length converted to int32_t; a length of zero
-- returns before the source is touched.
def pushBytes (env : Env) (source : Addr) (length : Int) : Res Janet :=
  if length = 0 then .ok (.buffer [])
  else if source = 0 then .fault .nullDeref
  else if length < 0 then .fault .badRead
  else .ok (.buffer (env.mem.bytes source length.toNat))

end Env

-- The loops that push `count` values onto a fresh array.
def pushAll (count : Nat) (item : Nat → Janet) : Res Janet :=
  if int32Max < count then panicf "array overflow" []
  else .ok (.array ((List.range count).map item))

theorem pushAll_exact : pushAll count item = .ok value ↔
    count ≤ int32Max ∧ value = .array ((List.range count).map item) := by
  unfold pushAll panicf
  split
  · rename_i tooMany
    simp [Int.not_le.mpr tooMany]
  · rename_i fits
    simp [Int.not_lt.mp fits,eq_comm]

end Janetland
