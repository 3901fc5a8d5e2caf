import Janetland.GetMethods

namespace Janetland

-- A call into wlroots or xkbcommon with the arguments that reach it.
inductive LibCall where
  | seatKeyboardNotifyKey (seat : Addr) (time keycode state : BitVec 32)
  | seatKeyboardNotifyEnter (seat surface : Addr) (keycodes : List (BitVec 32)) (modifiers : Addr)
  | seatPointerNotifyButton (seat : Addr) (time button state : BitVec 32)
  | seatPointerNotifyAxis (seat : Addr) (time orientation : BitVec 32) (value : Number)
    (valueDiscrete source : BitVec 32)
  | seatPointerNotifyMotion (seat : Addr) (time : BitVec 32) (sx sy : Number)
  | seatSetSelection (seat source : Addr) (serial : BitVec 32)
  | xwaylandSetCursor (xwayland : Addr) (pixels : List UInt8) (stride width height hotspotX hotspotY : BitVec 32)
  | xwaylandSurfaceConfigure (surface : Addr) (x y width height : BitVec 16)
  | xkbStateKeyGetSyms (state : Addr) (keycode : BitVec 32)

def janetGetnumber (argv : List Janet) (n : Nat) : Res Number :=
  match slot argv n with
  | .number value => .ok value
  | _ => badSlot argv n "number"

def janetGetindexed (argv : List Janet) (n : Nat) : Res (List Janet) :=
  match slot argv n with
  | .tuple items | .array items => .ok items
  | _ => badSlot argv n "array|tuple"

def janetGetbuffer (argv : List Janet) (n : Nat) : Res (List UInt8) :=
  match slot argv n with
  | .buffer bytes => .ok bytes
  | _ => badSlot argv n "buffer"

-- JANET_INTMAX_DOUBLE
def intmaxDouble : Int := 9007199254740992

def Number.uint64? : Number → Option Int
  | .finite value => if value.den = 1 ∧ 0 ≤ value.num ∧ value.num ≤ intmaxDouble then some value.num else none
  | _ => none

-- The reinterpreted word of Janet's two boxed integer types.
def boxedWord : Janet → Option (BitVec 64)
  | .abstract value =>
    if value.type = .foreign "core/s64" ∨ value.type = .foreign "core/u64" then
      some (BitVec.ofNat 64 value.payload.firstWord)
    else none
  | _ => none

-- C functions that take integers. `scan` is janet_scan_uint64 of Janet's core.
section
variable (scan : List UInt8 → Option (BitVec 64))

def unwrapU64? : Janet → Option (BitVec 64)
  | .number value => value.uint64?.map (BitVec.ofInt 64)
  | .string bytes => scan bytes
  | value => boxedWord value

def janetUnwrapU64 (value : Janet) : Res (BitVec 64) :=
  match unwrapU64? scan value with
  | some word => .ok word
  | none => panicf "can not convert %t %q to a 64 bit unsigned integer" [value,value]

def janetGetuinteger64 (argv : List Janet) (n : Nat) : Res (BitVec 64) := janetUnwrapU64 scan (slot argv n)

def cfunWlrSeatKeyboardNotifyKey (argv : List Janet) : Res (LibCall × Janet) := do
  janetFixarity argv 4
  let seat ← jlGetAbsObjPointer argv 0 .jwlrAtWlrSeat
  let time ← janetGetuinteger64 scan argv 1
  let keycode ← janetGetuinteger64 scan argv 2
  let state ← jlGetKeyDef argv 3 wlKeyboardKeyStateDefs
  return (.seatKeyboardNotifyKey seat (time.setWidth 32) (keycode.setWidth 32) (BitVec.ofInt 32 state),.nil)

-- The loop that fills the array of keycodes.
def unwrapKeycodes : List Janet → Res (List (BitVec 32))
  | [] => .ok []
  | item :: rest => do
    let keycode ← janetUnwrapU64 scan item
    let keycodes ← unwrapKeycodes rest
    return keycode.setWidth 32 :: keycodes

def cfunWlrSeatKeyboardNotifyEnter (argv : List Janet) : Res (LibCall × Janet) := do
  janetFixarity argv 4
  let seat ← jlGetAbsObjPointer argv 0 .jwlrAtWlrSeat
  let surface ← jlGetAbsObjPointer argv 1 .jwlrAtWlrSurface
  let kcView ← janetGetindexed argv 2
  let modifiers ← jlGetAbsObjPointer argv 3 .jwlrAtWlrKeyboardModifiers
  if keycodesCap < kcView.length then
    panicf "expected at most %d key codes, got %d" [janetInteger keycodesCap,janetInteger kcView.length]
  else do
    let keycodes ← unwrapKeycodes scan kcView
    return (.seatKeyboardNotifyEnter seat surface keycodes modifiers,.nil)

-- `serial` is what wlr_seat_pointer_notify_button returns.
def cfunWlrSeatPointerNotifyButton (serial : BitVec 32) (argv : List Janet) : Res (LibCall × Janet) := do
  janetFixarity argv 4
  let seat ← jlGetAbsObjPointer argv 0 .jwlrAtWlrSeat
  let time ← janetGetuinteger64 scan argv 1
  let button ← janetGetuinteger64 scan argv 2
  let state ← jlGetKeyDef argv 3 wlrButtonStateDefs
  return (.seatPointerNotifyButton seat (time.setWidth 32) (button.setWidth 32) (BitVec.ofInt 32 state),
    janetInteger (CType.toInt32 .uint32 serial.toNat))

def cfunWlrSeatPointerNotifyAxis (argv : List Janet) : Res (LibCall × Janet) := do
  janetFixarity argv 6
  let seat ← jlGetAbsObjPointer argv 0 .jwlrAtWlrSeat
  let time ← janetGetuinteger64 scan argv 1
  let orientation ← jlGetKeyDef argv 2 wlrAxisOrientationDefs
  let value ← janetGetnumber argv 3
  let valueDiscrete ← janetGetinteger argv 4
  let source ← jlGetKeyDef argv 5 wlrAxisSourceDefs
  return (.seatPointerNotifyAxis seat (time.setWidth 32) (BitVec.ofInt 32 orientation) value
    (BitVec.ofInt 32 valueDiscrete) (BitVec.ofInt 32 source),.nil)

def cfunWlrSeatPointerNotifyMotion (argv : List Janet) : Res (LibCall × Janet) := do
  janetFixarity argv 4
  let seat ← jlGetAbsObjPointer argv 0 .jwlrAtWlrSeat
  let time ← janetGetuinteger64 scan argv 1
  let sx ← janetGetnumber argv 2
  let sy ← janetGetnumber argv 3
  return (.seatPointerNotifyMotion seat (time.setWidth 32) sx sy,.nil)

def cfunWlrSeatSetSelection (argv : List Janet) : Res (LibCall × Janet) := do
  janetFixarity argv 3
  let seat ← jlGetAbsObjPointer argv 0 .jwlrAtWlrSeat
  let source ← match slot argv 1 with
    | .nil => Res.ok 0
    | _ => jlGetAbsObjPointer argv 1 .jwlrAtWlrDataSource
  let serial ← janetGetinteger argv 2
  return (.seatSetSelection seat source (BitVec.ofInt 32 serial),.nil)

def cfunWlrXwaylandSetCursor (argv : List Janet) : Res (LibCall × Janet) := do
  janetFixarity argv 7
  let xwayland ← jlGetAbsObjPointer argv 0 .jwlrAtWlrXwayland
  let pixels ← janetGetbuffer argv 1
  let stride ← janetGetuinteger64 scan argv 2
  let width ← janetGetuinteger64 scan argv 3
  let height ← janetGetuinteger64 scan argv 4
  let hotspotX ← janetGetinteger argv 5
  let hotspotY ← janetGetinteger argv 6
  return (.xwaylandSetCursor xwayland pixels (stride.setWidth 32) (width.setWidth 32) (height.setWidth 32)
    (BitVec.ofInt 32 hotspotX) (BitVec.ofInt 32 hotspotY),.nil)

def cfunWlrXwaylandSurfaceConfigure (argv : List Janet) : Res (LibCall × Janet) := do
  janetFixarity argv 5
  let surface ← jlGetAbsObjPointer argv 0 .jwlrAtWlrXwaylandSurface
  let x ← janetGetinteger argv 1
  let y ← janetGetinteger argv 2
  let width ← janetGetinteger argv 3
  let height ← janetGetinteger argv 4
  return (.xwaylandSurfaceConfigure surface (BitVec.ofInt 16 x) (BitVec.ofInt 16 y) (BitVec.ofInt 16 width)
    (BitVec.ofInt 16 height),.nil)

-- `syms` are the keysyms that xkb_state_key_get_syms returns.
def cfunXkbStateKeyGetSyms (env : Env) (syms : List (BitVec 32)) (argv : List Janet) : Res (LibCall × Janet) := do
  janetFixarity argv 2
  let state ← jlGetAbsObjPointer argv 0 .jxkbAtXkbState
  let keycode ← janetGetuinteger64 scan argv 1
  return (.xkbStateKeyGetSyms state (keycode.setWidth 32),
    .array (syms.mapIdx fun i sym => env.janetWrapU64 i sym.toNat))

end

end Janetland
