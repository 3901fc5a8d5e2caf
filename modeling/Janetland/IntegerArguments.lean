import Janetland.LibraryCalls
import Janetland.Foundations.Narrowing

namespace Janetland
open Narrowing (IntType)

def int16Type : IntType := ⟨true,16,by decide⟩
def uint16Type : IntType := ⟨false,16,by decide⟩
def uint32Type : IntType := ⟨false,32,by decide⟩

-- The calls that narrow integer arguments.
inductive NarrowCall where
  | xwaylandSurfaceConfigure | xwaylandSetCursor | seatKeyboardNotifyKey | seatPointerNotifyButton
  | seatKeyboardNotifyEnter | xkbStateKeyGetSyms

-- The integers that reach the library.
def LibCall.integers : LibCall → List Int
  | .seatKeyboardNotifyKey _ time keycode _ => [time.toNat,keycode.toNat]
  | .seatKeyboardNotifyEnter _ _ keycodes _ => keycodes.map fun keycode => (keycode.toNat : Int)
  | .seatPointerNotifyButton _ time button _ => [time.toNat,button.toNat]
  | .xwaylandSetCursor _ _ stride width height _ _ => [stride.toNat,width.toNat,height.toNat]
  | .xwaylandSurfaceConfigure _ x y width height => [x.toInt,y.toInt,width.toNat,height.toNat]
  | .xkbStateKeyGetSyms _ keycode => [keycode.toNat]
  | _ => []

-- The integer arguments, each with the C type it is cast to.
def NarrowCall.arguments (argv : List Janet) : NarrowCall → List (Janet × IntType)
  | .xwaylandSurfaceConfigure => [(slot argv 1,int16Type),(slot argv 2,int16Type),(slot argv 3,uint16Type),
    (slot argv 4,uint16Type)]
  | .xwaylandSetCursor => [(slot argv 2,uint32Type),(slot argv 3,uint32Type),(slot argv 4,uint32Type)]
  | .seatKeyboardNotifyKey | .seatPointerNotifyButton => [(slot argv 1,uint32Type),(slot argv 2,uint32Type)]
  | .seatKeyboardNotifyEnter => match slot argv 2 with
    | .tuple items | .array items => items.map fun item => (item,uint32Type)
    | _ => []
  | .xkbStateKeyGetSyms => [(slot argv 1,uint32Type)]

def Reads (result : Res α) : Prop := ∃ value, result = .ok value

section
variable (scan : List UInt8 → Option (BitVec 64))

-- The mathematical integer that a Janet value is.
def givenInteger : Janet → Option Int
  | .number (.finite value) => if value.den = 1 then some value.num else none
  | .string bytes => (scan bytes).map fun word => word.toNat
  | .abstract value =>
    if value.type = .foreign "core/s64" then some (BitVec.ofNat 64 value.payload.firstWord).toInt
    else if value.type = .foreign "core/u64" then some (BitVec.ofNat 64 value.payload.firstWord).toNat
    else none
  | _ => none

-- `serial` and `syms` are what the library returns.
def NarrowCall.run (env : Env) (serial : BitVec 32) (syms : List (BitVec 32)) (argv : List Janet) :
    NarrowCall → Res (LibCall × Janet)
  | .xwaylandSurfaceConfigure => cfunWlrXwaylandSurfaceConfigure argv
  | .xwaylandSetCursor => cfunWlrXwaylandSetCursor scan argv
  | .seatKeyboardNotifyKey => cfunWlrSeatKeyboardNotifyKey scan argv
  | .seatPointerNotifyButton => cfunWlrSeatPointerNotifyButton scan serial argv
  | .seatKeyboardNotifyEnter => cfunWlrSeatKeyboardNotifyEnter scan argv
  | .xkbStateKeyGetSyms => cfunXkbStateKeyGetSyms scan env syms argv

-- The argument readers of the call accept what they are given.
def NarrowCall.Accepted (argv : List Janet) : NarrowCall → Prop
  | .xwaylandSurfaceConfigure => Reads (janetFixarity argv 5) ∧
    Reads (jlGetAbsObjPointer argv 0 .jwlrAtWlrXwaylandSurface) ∧ Reads (janetGetinteger argv 1) ∧
    Reads (janetGetinteger argv 2) ∧ Reads (janetGetinteger argv 3) ∧ Reads (janetGetinteger argv 4)
  | .xwaylandSetCursor => Reads (janetFixarity argv 7) ∧ Reads (jlGetAbsObjPointer argv 0 .jwlrAtWlrXwayland) ∧
    Reads (janetGetbuffer argv 1) ∧ Reads (janetGetuinteger64 scan argv 2) ∧
    Reads (janetGetuinteger64 scan argv 3) ∧ Reads (janetGetuinteger64 scan argv 4) ∧
    Reads (janetGetinteger argv 5) ∧ Reads (janetGetinteger argv 6)
  | .seatKeyboardNotifyKey => Reads (janetFixarity argv 4) ∧ Reads (jlGetAbsObjPointer argv 0 .jwlrAtWlrSeat) ∧
    Reads (janetGetuinteger64 scan argv 1) ∧ Reads (janetGetuinteger64 scan argv 2) ∧
    Reads (jlGetKeyDef argv 3 wlKeyboardKeyStateDefs)
  | .seatPointerNotifyButton => Reads (janetFixarity argv 4) ∧ Reads (jlGetAbsObjPointer argv 0 .jwlrAtWlrSeat) ∧
    Reads (janetGetuinteger64 scan argv 1) ∧ Reads (janetGetuinteger64 scan argv 2) ∧
    Reads (jlGetKeyDef argv 3 wlrButtonStateDefs)
  | .seatKeyboardNotifyEnter => Reads (janetFixarity argv 4) ∧ Reads (jlGetAbsObjPointer argv 0 .jwlrAtWlrSeat) ∧
    Reads (jlGetAbsObjPointer argv 1 .jwlrAtWlrSurface) ∧
    (∃ items, janetGetindexed argv 2 = .ok items ∧ items.length ≤ keycodesCap ∧
      ∀ item ∈ items, Reads (janetUnwrapU64 scan item)) ∧
    Reads (jlGetAbsObjPointer argv 3 .jwlrAtWlrKeyboardModifiers)
  | .xkbStateKeyGetSyms => Reads (janetFixarity argv 2) ∧ Reads (jlGetAbsObjPointer argv 0 .jxkbAtXkbState) ∧
    Reads (janetGetuinteger64 scan argv 1)

-- Every integer that is forwarded is the one that was given.
def Carries (argv : List Janet) (call : NarrowCall) : Res (LibCall × Janet) → Prop
  | .ok (forwarded,_) => List.Forall₂ (fun argument integer => givenInteger scan argument.1 = some integer)
    (call.arguments argv) forwarded.integers
  | .panic _ => True
  | .fault _ => False

end

variable {scan : List UInt8 → Option (BitVec 64)} {argv : List Janet}

theorem integer_given (read : janetGetinteger argv n = .ok z) : givenInteger scan (slot argv n) = some z := by
  unfold janetGetinteger badSlot panicf at read
  repeat' split at read
  all_goals cases read
  rename_i number there _ fits
  unfold Number.int32? at fits
  repeat' split at fits
  all_goals cases fits
  rename_i value inside
  rw [there,givenInteger]
  simp [inside.1]

theorem wide_given (read : janetUnwrapU64 scan value = .ok word) :
    ∃ z, givenInteger scan value = some z ∧ word = BitVec.ofInt 64 z := by
  unfold janetUnwrapU64 panicf at read
  split at read
  · rename_i accepted
    cases read
    cases value with
    | number number =>
        obtain ⟨z,fits,rfl⟩ := Option.map_eq_some_iff.mp accepted
        unfold Number.uint64? at fits
        repeat' split at fits
        all_goals cases fits
        rename_i rational inside
        exact ⟨rational.num,by simp [givenInteger,inside.1],rfl⟩
    | string bytes =>
        have scanned : scan bytes = some word := accepted
        refine ⟨word.toNat,by simp [givenInteger,scanned],?_⟩
        rw [BitVec.ofInt_natCast,BitVec.ofNat_toNat,BitVec.setWidth_eq]
    | abstract boxed =>
        simp only [unwrapU64?,boxedWord,Option.ite_none_right_eq_some,Option.some.injEq] at accepted
        obtain ⟨typed,rfl⟩ := accepted
        by_cases signed : boxed.type = .foreign "core/s64"
        · exact ⟨_,by rw [givenInteger,if_pos signed],BitVec.ofInt_toInt.symm⟩
        · refine ⟨_,by rw [givenInteger,if_neg signed,if_pos (typed.resolve_left signed)],?_⟩
          rw [BitVec.ofInt_natCast,BitVec.ofNat_toNat,BitVec.setWidth_eq]
    | _ => simp [unwrapU64?,boxedWord] at accepted
  · cases read

-- The forwarded integer is the C conversion of the given one.
def Converts (scan : List UInt8 → Option (BitVec 64)) (argument : Janet × IntType) (forwarded : Int) : Prop :=
  ∃ z, givenInteger scan argument.1 = some z ∧ forwarded = argument.2.convert z

theorem wide_converts (read : janetUnwrapU64 scan value = .ok word) :
    Converts scan (value,uint32Type) (word.setWidth 32).toNat := by
  obtain ⟨z,given,rfl⟩ := wide_given read
  refine ⟨z,given,?_⟩
  rw [Narrowing.truncated (by decide)]
  rfl

theorem keycodes_read {items : List Janet} (reads : ∀ item ∈ items, Reads (janetUnwrapU64 scan item)) :
    ∃ keycodes, unwrapKeycodes scan items = .ok keycodes ∧ List.Forall₂ (Converts scan)
      (items.map fun item => (item,uint32Type)) (keycodes.map fun keycode => (keycode.toNat : Int)) := by
  induction items with
  | nil => exact ⟨[],rfl,.nil⟩
  | cons item rest ih =>
      obtain ⟨⟨word,read⟩,others⟩ := List.forall_mem_cons.mp reads
      obtain ⟨keycodes,ran,converted⟩ := ih others
      exact ⟨word.setWidth 32 :: keycodes,by simp [unwrapKeycodes,read,ran],.cons (wide_converts read) converted⟩

theorem keycodes_returned {items : List Janet} (ran : unwrapKeycodes scan items = .ok keycodes) :
    ∀ item ∈ items, Reads (janetUnwrapU64 scan item) := by
  induction items generalizing keycodes with
  | nil => simp
  | cons item rest ih =>
      obtain ⟨word,read,later⟩ := Res.bind_exact.mp ran
      obtain ⟨_,tail,_⟩ := Res.bind_exact.mp later
      exact List.forall_mem_cons.mpr ⟨⟨word,read⟩,ih tail⟩

-- Once all readers accept, the call is made with the converted integers.
theorem accepted_called (call : NarrowCall) (accepted : call.Accepted scan argv) : ∃ forwarded result,
    call.run scan env serial syms argv = .ok (forwarded,result) ∧
      List.Forall₂ (Converts scan) (call.arguments argv) forwarded.integers := by
  cases call with
  | xwaylandSurfaceConfigure =>
      obtain ⟨⟨_,arity⟩,⟨_,surface⟩,⟨x,gotX⟩,⟨y,gotY⟩,⟨width,gotWidth⟩,⟨height,gotHeight⟩⟩ := accepted
      refine ⟨_,_,by simp only [NarrowCall.run,cfunWlrXwaylandSurfaceConfigure,arity,surface,gotX,gotY,gotWidth,
        gotHeight,Res.bind_ok]; rfl,?_⟩
      exact .cons ⟨x,integer_given gotX,rfl⟩ (.cons ⟨y,integer_given gotY,rfl⟩
        (.cons ⟨width,integer_given gotWidth,rfl⟩ (.cons ⟨height,integer_given gotHeight,rfl⟩ .nil)))
  | xwaylandSetCursor =>
      obtain ⟨⟨_,arity⟩,⟨_,xwayland⟩,⟨_,pixels⟩,⟨_,stride⟩,⟨_,width⟩,⟨_,height⟩,⟨_,x⟩,⟨_,y⟩⟩ := accepted
      refine ⟨_,_,by simp only [NarrowCall.run,cfunWlrXwaylandSetCursor,arity,xwayland,pixels,stride,width,height,
        x,y,Res.bind_ok]; rfl,?_⟩
      exact .cons (wide_converts stride) (.cons (wide_converts width) (.cons (wide_converts height) .nil))
  | seatKeyboardNotifyKey =>
      obtain ⟨⟨_,arity⟩,⟨_,seat⟩,⟨_,time⟩,⟨_,keycode⟩,⟨_,state⟩⟩ := accepted
      refine ⟨_,_,by simp only [NarrowCall.run,cfunWlrSeatKeyboardNotifyKey,arity,seat,time,keycode,state,
        Res.bind_ok]; rfl,?_⟩
      exact .cons (wide_converts time) (.cons (wide_converts keycode) .nil)
  | seatPointerNotifyButton =>
      obtain ⟨⟨_,arity⟩,⟨_,seat⟩,⟨_,time⟩,⟨_,button⟩,⟨_,state⟩⟩ := accepted
      refine ⟨_,_,by simp only [NarrowCall.run,cfunWlrSeatPointerNotifyButton,arity,seat,time,button,state,
        Res.bind_ok]; rfl,?_⟩
      exact .cons (wide_converts time) (.cons (wide_converts button) .nil)
  | seatKeyboardNotifyEnter =>
      obtain ⟨⟨_,arity⟩,⟨_,seat⟩,⟨_,surface⟩,⟨items,view,short,reads⟩,⟨_,modifiers⟩⟩ := accepted
      obtain ⟨keycodes,ran,converted⟩ := keycodes_read reads
      refine ⟨_,_,by simp only [NarrowCall.run,cfunWlrSeatKeyboardNotifyEnter,arity,seat,surface,view,modifiers,
        Res.bind_ok,if_neg (Nat.not_lt.mpr short),ran]; rfl,?_⟩
      unfold janetGetindexed badSlot panicf at view
      split at view
      · rename_i there
        cases view
        simp only [NarrowCall.arguments,there]
        exact converted
      · rename_i there
        cases view
        simp only [NarrowCall.arguments,there]
        exact converted
      · cases view
  | xkbStateKeyGetSyms =>
      obtain ⟨⟨_,arity⟩,⟨_,state⟩,⟨_,keycode⟩⟩ := accepted
      refine ⟨_,_,by simp only [NarrowCall.run,cfunXkbStateKeyGetSyms,arity,state,keycode,Res.bind_ok]; rfl,?_⟩
      exact .cons (wide_converts keycode) .nil

theorem called_accepted (call : NarrowCall) (ran : call.run scan env serial syms argv = .ok returned) :
    call.Accepted scan argv := by
  cases call with
  | xwaylandSurfaceConfigure =>
      simp only [NarrowCall.run,cfunWlrXwaylandSurfaceConfigure,Res.bind_exact] at ran
      obtain ⟨_,arity,_,surface,_,x,_,y,_,width,_,height,_⟩ := ran
      exact ⟨⟨_,arity⟩,⟨_,surface⟩,⟨_,x⟩,⟨_,y⟩,⟨_,width⟩,⟨_,height⟩⟩
  | xwaylandSetCursor =>
      simp only [NarrowCall.run,cfunWlrXwaylandSetCursor,Res.bind_exact] at ran
      obtain ⟨_,arity,_,xwayland,_,pixels,_,stride,_,width,_,height,_,x,_,y,_⟩ := ran
      exact ⟨⟨_,arity⟩,⟨_,xwayland⟩,⟨_,pixels⟩,⟨_,stride⟩,⟨_,width⟩,⟨_,height⟩,⟨_,x⟩,⟨_,y⟩⟩
  | seatKeyboardNotifyKey =>
      simp only [NarrowCall.run,cfunWlrSeatKeyboardNotifyKey,Res.bind_exact] at ran
      obtain ⟨_,arity,_,seat,_,time,_,keycode,_,state,_⟩ := ran
      exact ⟨⟨_,arity⟩,⟨_,seat⟩,⟨_,time⟩,⟨_,keycode⟩,⟨_,state⟩⟩
  | seatPointerNotifyButton =>
      simp only [NarrowCall.run,cfunWlrSeatPointerNotifyButton,Res.bind_exact] at ran
      obtain ⟨_,arity,_,seat,_,time,_,button,_,state,_⟩ := ran
      exact ⟨⟨_,arity⟩,⟨_,seat⟩,⟨_,time⟩,⟨_,button⟩,⟨_,state⟩⟩
  | seatKeyboardNotifyEnter =>
      simp only [NarrowCall.run,cfunWlrSeatKeyboardNotifyEnter,Res.bind_exact] at ran
      obtain ⟨_,arity,_,seat,_,surface,items,view,_,modifiers,filled⟩ := ran
      split at filled
      · cases filled
      · rename_i short
        obtain ⟨_,unwrapped,_⟩ := Res.bind_exact.mp filled
        exact ⟨⟨_,arity⟩,⟨_,seat⟩,⟨_,surface⟩,
          ⟨items,view,Nat.not_lt.mp short,keycodes_returned unwrapped⟩,⟨_,modifiers⟩⟩
  | xkbStateKeyGetSyms =>
      simp only [NarrowCall.run,cfunXkbStateKeyGetSyms,Res.bind_exact] at ran
      obtain ⟨_,arity,_,state,_,keycode,_⟩ := ran
      exact ⟨⟨_,arity⟩,⟨_,state⟩,⟨_,keycode⟩⟩

def Defined (result : Res α) : Prop := ∀ kind, result ≠ .fault kind

theorem defined_bind {result : Res α} {next : α → Res β} (first : Defined result)
    (later : ∀ value, Defined (next value)) : Defined (result >>= next) := by
  intro kind faulted
  rcases Res.bind_fault_exact.mp faulted with early | ⟨value,_,late⟩
  · exact first kind early
  · exact later value kind late

theorem fixarity_defined : Defined (janetFixarity argv n) := by
  intro kind
  unfold janetFixarity panicf
  split <;> simp

theorem pointer_defined : Defined (jlGetAbsObjPointer argv n type) := by
  apply defined_bind
  · intro kind
    unfold janetGetabstract badSlot panicf
    repeat' split
    all_goals simp
  · intro value kind
    simp

theorem integer_defined : Defined (janetGetinteger argv n) := by
  intro kind
  unfold janetGetinteger badSlot panicf
  repeat' split
  all_goals simp

theorem wide_defined (scan : List UInt8 → Option (BitVec 64)) (value : Janet) :
    Defined (janetUnwrapU64 scan value) := by
  intro kind
  unfold janetUnwrapU64 panicf
  split <;> simp

theorem indexed_defined : Defined (janetGetindexed argv n) := by
  intro kind
  unfold janetGetindexed badSlot panicf
  split <;> simp

theorem buffer_defined : Defined (janetGetbuffer argv n) := by
  intro kind
  unfold janetGetbuffer badSlot panicf
  split <;> simp

theorem returned_defined (value : α) : Defined (.ok value) := nofun

theorem keycodes_defined (items : List Janet) : Defined (unwrapKeycodes scan items) := by
  induction items with
  | nil => exact returned_defined _
  | cons item rest ih =>
      exact defined_bind (wide_defined scan item) fun _ => defined_bind ih fun _ => returned_defined _

theorem call_defined (call : NarrowCall) : Defined (call.run scan env serial syms argv) := by
  have wide (n : Nat) : Defined (janetGetuinteger64 scan argv n) := wide_defined scan _
  cases call with
  | xwaylandSurfaceConfigure =>
      refine defined_bind fixarity_defined fun _ => defined_bind pointer_defined fun _ => ?_
      refine defined_bind integer_defined fun _ => defined_bind integer_defined fun _ => ?_
      exact defined_bind integer_defined fun _ => defined_bind integer_defined fun _ => returned_defined _
  | xwaylandSetCursor =>
      refine defined_bind fixarity_defined fun _ => defined_bind pointer_defined fun _ => ?_
      refine defined_bind buffer_defined fun _ => defined_bind (wide 2) fun _ => defined_bind (wide 3) fun _ => ?_
      refine defined_bind (wide 4) fun _ => defined_bind integer_defined fun _ => ?_
      exact defined_bind integer_defined fun _ => returned_defined _
  | seatKeyboardNotifyKey =>
      refine defined_bind fixarity_defined fun _ => defined_bind pointer_defined fun _ => ?_
      refine defined_bind (wide 1) fun _ => defined_bind (wide 2) fun _ => ?_
      have ended : Terminated wlKeyboardKeyStateDefs := by unfold Terminated; decide
      exact defined_bind (keyDef_defined ended argv 3) fun _ => returned_defined _
  | seatPointerNotifyButton =>
      refine defined_bind fixarity_defined fun _ => defined_bind pointer_defined fun _ => ?_
      refine defined_bind (wide 1) fun _ => defined_bind (wide 2) fun _ => ?_
      have ended : Terminated wlrButtonStateDefs := by unfold Terminated; decide
      exact defined_bind (keyDef_defined ended argv 3) fun _ => returned_defined _
  | seatKeyboardNotifyEnter =>
      refine defined_bind fixarity_defined fun _ => defined_bind pointer_defined fun _ => ?_
      refine defined_bind pointer_defined fun _ => defined_bind indexed_defined fun items => ?_
      refine defined_bind pointer_defined fun _ => ?_
      intro kind
      split
      · simp [panicf]
      · exact defined_bind (keycodes_defined items) (fun _ => returned_defined _) kind
  | xkbStateKeyGetSyms =>
      refine defined_bind fixarity_defined fun _ => defined_bind pointer_defined fun _ => ?_
      exact defined_bind (wide 1) fun _ => returned_defined _

theorem converted_exact {arguments : List (Janet × IntType)} {integers : List Int}
    (converted : List.Forall₂ (Converts scan) arguments integers) :
    List.Forall₂ (fun argument integer => givenInteger scan argument.1 = some integer) arguments integers ↔
      ∀ argument ∈ arguments, ∀ z, givenInteger scan argument.1 = some z → argument.2.Holds z := by
  induction converted with
  | nil => simp
  | cons head _ ih =>
      obtain ⟨z,given,rfl⟩ := head
      simp only [List.forall₂_cons,List.forall_mem_cons,ih,given,Option.some.injEq,forall_eq']
      rw [eq_comm,IntType.convert_exact]

theorem integer_arguments_exact (scan : List UInt8 → Option (BitVec 64)) (env : Env) (serial : BitVec 32)
    (syms : List (BitVec 32)) (argv : List Janet) (call : NarrowCall) :
    Carries scan argv call (call.run scan env serial syms argv) ↔ (call.Accepted scan argv →
      ∀ argument ∈ call.arguments argv, ∀ z, givenInteger scan argument.1 = some z → argument.2.Holds z) := by
  constructor
  · intro carries accepted
    obtain ⟨forwarded,result,ran,converted⟩ := accepted_called call accepted
    rw [ran] at carries
    exact (converted_exact converted).mp carries
  · intro inside
    cases ran : call.run scan env serial syms argv with
    | panic error => trivial
    | fault kind => exact call_defined call kind ran
    | ok returned =>
        have accepted := called_accepted call ran
        obtain ⟨forwarded,result,again,converted⟩ := accepted_called call accepted
        rw [again] at ran
        cases ran
        exact (converted_exact converted).mpr (inside accepted)

def surfaceAt : Janet := .abstract ⟨8,.own .jwlrAtWlrXwaylandSurface,.wrapper 16⟩

-- A window put at x = 40000 lands at x = -25536.
theorem wide_position_wraps : ¬∀ scan argv env serial syms (call : NarrowCall),
    Carries scan argv call (call.run scan env serial syms argv) := by
  intro carries
  have kept := carries (fun _ => none) [surfaceAt,janetInteger 40000,janetInteger 0,janetInteger 100,
    janetInteger 100] blankEnv 0 [] .xwaylandSurfaceConfigure
  cases kept with
  | cons head _ => exact absurd head (by decide)

end Janetland
