import Mathlib.Data.Rat.Defs
import Mathlib.Data.List.TakeWhile

namespace Janetland

-- A C address; 0 is NULL.
abbrev Addr := Nat

-- A Janet number is a double. Finite values are kept as the rationals they are.
inductive Number where
  | finite (value : Rat)
  | infinite (negative : Bool)
  | nan
deriving DecidableEq

def int32Min : Int := -2147483648
def int32Max : Int := 2147483647

def Number.int32? : Number → Option Int
  | .finite value =>
    if value.den = 1 ∧ int32Min ≤ value.num ∧ value.num ≤ int32Max then some value.num else none
  | _ => none

-- The static JanetAbstractType descriptors of wl, wlr, xkb, xcb and util.
inductive AbsType where
  | jwlAtWlEventLoop | jwlAtEventSource | jwlAtWlList | jwlAtWlSignal | jwlAtListener | jwlAtWlDisplay
  | jwlrAtBox | jwlrAtWlrBackend | jwlrAtWlrRenderer | jwlrAtWlrAllocator | jwlrAtWlrCompositor
  | jwlrAtWlrSubcompositor | jwlrAtWlrDataDeviceManager | jwlrAtWlrOutputLayout
  | jwlrAtWlrOutputLayoutOutput | jwlrAtWlrScene | jwlrAtWlrSceneOutput | jwlrAtWlrXdgShell
  | jwlrAtWlrSurface | jwlrAtWlrSurfaceState | jwlrAtWlrXdgPopup | jwlrAtWlrXdgToplevel
  | jwlrAtWlrXdgToplevelResizeEvent | jwlrAtWlrXdgToplevelMoveEvent | jwlrAtWlrXdgSurface
  | jwlrAtWlrCursor | jwlrAtWlrXcursorManager | jwlrAtWlrXcursorImage | jwlrAtWlrXcursor
  | jwlrAtWlrSeat | jwlrAtWlrSeatClient | jwlrAtWlrOutput | jwlrAtWlrOutputMode
  | jwlrAtWlrOutputCursor | jwlrAtWlrSceneTree | jwlrAtWlrSceneNode | jwlrAtWlrSceneBuffer
  | jwlrAtWlrSceneSurface | jwlrAtWlrInputDevice | jwlrAtWlrPointer | jwlrAtWlrPointerMotionEvent
  | jwlrAtWlrPointerMotionAbsoluteEvent | jwlrAtWlrPointerButtonEvent | jwlrAtWlrPointerAxisEvent
  | jwlrAtWlrSeatPointerState | jwlrAtWlrSeatKeyboardState
  | jwlrAtWlrSeatPointerRequestSetCursorEvent | jwlrAtWlrSeatRequestSetSelectionEvent
  | jwlrAtWlrDataSource | jwlrAtWlrKeyboardModifiers | jwlrAtWlrKeyboardKeyEvent
  | jwlrAtWlrKeyboard | jwlrAtWlrXwayland | jwlrAtWlrXwaylandSurface
  | jwlrAtWlrXwaylandResizeEvent | jwlrAtWlrXwaylandMinimizeEvent
  | jwlrAtWlrXwaylandSurfaceConfigureEvent | jwlrAtWlrLayerShellV1
  | jxkbAtXkbContext | jxkbAtXkbRuleNames | jxkbAtXkbKeymap | jxkbAtXkbState
  | jxcbAtInternAtomCookieT | jxcbAtXcbInternAtomReplyT | jxcbAtXcbGenericErrorT
  | jxcbAtXcbConnectionT | jxcbAtXcbSizeHintsT
  | jutilAtTimespec
deriving DecidableEq

-- An abstract value may also be of a type that Janet or another library defines.
inductive TypeRef where
  | own (type : AbsType)
  | foreign (name : String)
deriving DecidableEq

-- What `janet_abstract` allocated: a cell that holds a C pointer, or a struct held
-- inline, of which only the first machine word matters here.
inductive Payload where
  | wrapper (pointer : Addr)
  | inlined (firstWord : Nat)
deriving DecidableEq

structure Abstract where
  self : Addr
  type : TypeRef
  payload : Payload
deriving DecidableEq

inductive Janet where
  | nil
  | boolean (value : Bool)
  | number (value : Number)
  | string (bytes : List UInt8)
  | symbol (name : String)
  | keyword (name : String)
  | pointer (address : Addr)
  | abstract (value : Abstract)
  | table (address : Addr)
  | struct (address : Addr)
  | array (items : List Janet)
  | tuple (items : List Janet)
  | buffer (bytes : List UInt8)
  | function (address : Addr)
  | cfunction (address : Addr)
  | fiber (address : Addr)

-- Executions the C standard leaves undefined.
inductive Fault where
  | nullDeref
  | offsetTable
  | keyTable
  | badRead
  | missingArgument
  | overflow
  | assertion
deriving DecidableEq

structure Panic where
  format : String
  values : List Janet

-- A C function called by Janet returns, raises a Janet error, or is undefined.
inductive Res (α : Type) where
  | ok (value : α)
  | panic (error : Panic)
  | fault (kind : Fault)

def Res.bind : Res α → (α → Res β) → Res β
  | .ok value,next => next value
  | .panic error,_ => .panic error
  | .fault kind,_ => .fault kind

instance : Monad Res where
  pure := .ok
  bind := Res.bind

@[simp] theorem Res.pure_ok (value : α) : (pure value : Res α) = .ok value := rfl
@[simp] theorem Res.bind_ok (value : α) (next : α → Res β) : (Res.ok value >>= next) = next value := rfl
@[simp] theorem Res.bind_panic (error : Panic) (next : α → Res β) :
    ((Res.panic error : Res α) >>= next) = .panic error := rfl
@[simp] theorem Res.bind_fault (kind : Fault) (next : α → Res β) :
    ((Res.fault kind : Res α) >>= next) = .fault kind := rfl

theorem Res.bind_exact {result : Res α} {next : α → Res β} :
    (result >>= next) = .ok value ↔ ∃ middle, result = .ok middle ∧ next middle = .ok value := by
  cases result <;> simp

theorem Res.bind_fault_exact {result : Res α} {next : α → Res β} : (result >>= next) = .fault kind ↔
    result = .fault kind ∨ ∃ middle, result = .ok middle ∧ next middle = .fault kind := by
  cases result <;> simp

theorem Res.bind_panic_exact {result : Res α} {next : α → Res β} : (result >>= next) = .panic error ↔
    result = .panic error ∨ ∃ middle, result = .ok middle ∧ next middle = .panic error := by
  cases result <;> simp

def panicf (format : String) (values : List Janet) : Res α := .panic ⟨format,values⟩

def janetInteger (value : Int) : Janet := .number (.finite value)

-- The loop of `janet_cstrcmp` stops at the NUL that ends the C string, so bytes
-- that follow a NUL inside the Janet string are not compared.
def cString (text : String) : String := String.ofList (text.toList.takeWhile (· ≠ '\x00'))
def janetCstrcmp (name other : String) : Bool := cString name == other

@[simp] theorem cString_idem (text : String) : cString (cString text) = cString text := by
  simp [cString,List.takeWhile_idem]

@[simp] theorem janetCstrcmp_cString (name : String) : janetCstrcmp (cString name) = janetCstrcmp name := by
  funext other
  simp [janetCstrcmp]

def slot (argv : List Janet) (n : Nat) : Janet := argv.getD n .nil

def janetFixarity (argv : List Janet) (arity : Nat) : Res Unit :=
  if argv.length = arity then .ok ()
  else panicf "arity mismatch, expected %d, got %d" [janetInteger arity,janetInteger argv.length]

def janetArity (argv : List Janet) (least : Nat) (most : Option Nat) : Res Unit :=
  if argv.length < least then
    panicf "arity mismatch, expected at least %d, got %d" [janetInteger least,janetInteger argv.length]
  else match most with
    | none => .ok ()
    | some most =>
      if most < argv.length then
        panicf "arity mismatch, expected at most %d, got %d" [janetInteger most,janetInteger argv.length]
      else .ok ()

def badSlot (argv : List Janet) (n : Nat) (expected : String) : Res α :=
  panicf ("bad slot #%d, expected " ++ expected ++ ", got %v") [janetInteger n,slot argv n]

def janetCheckint : Janet → Bool
  | .number value => value.int32?.isSome
  | _ => false

def janetGetinteger (argv : List Janet) (n : Nat) : Res Int :=
  match slot argv n with
  | .number value => match value.int32? with
    | some integer => .ok integer
    | none => badSlot argv n "32 bit signed integer"
  | _ => badSlot argv n "32 bit signed integer"

def janetGetpointer (argv : List Janet) (n : Nat) : Res Addr :=
  match slot argv n with
  | .pointer address => .ok address
  | _ => badSlot argv n "pointer"

def janetGetfunction (argv : List Janet) (n : Nat) : Res Addr :=
  match slot argv n with
  | .function address => .ok address
  | _ => badSlot argv n "function"

def janetGetkeyword (argv : List Janet) (n : Nat) : Res String :=
  match slot argv n with
  | .keyword name => .ok name
  | _ => badSlot argv n "keyword"

def janetGetabstract (argv : List Janet) (n : Nat) (type : TypeRef) : Res Abstract :=
  match slot argv n with
  | .abstract value => if value.type = type then .ok value else badSlot argv n "abstract"
  | _ => badSlot argv n "abstract"

def Payload.firstWord : Payload → Nat
  | .wrapper pointer => pointer
  | .inlined word => word

-- `self` is the address `janet_abstract` returns for the new cell.
def jlPointerToAbsObj (self : Addr) (ptr : Addr) (type : AbsType) : Abstract :=
  ⟨self,.own type,.wrapper ptr⟩

def jlGetAbsObjPointer (argv : List Janet) (n : Nat) (type : AbsType) : Res Addr := do
  let value ← janetGetabstract argv n (.own type)
  return value.payload.firstWord

end Janetland
