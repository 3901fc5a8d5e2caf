import Janetland.Values
import Janetland.Foundations.SentinelScan

namespace Janetland

-- jl_key_def_t; a NULL name is the sentinel that ends a table.
structure KeyDef where
  name : Option String
  key : Int
deriving DecidableEq

def keyDef (name : String) (key : Int) : KeyDef := ⟨some name,key⟩
def KeyDef.null : KeyDef := ⟨none,0⟩

@[simp] theorem keyDef_name : (keyDef name key).name = some name := rfl
@[simp] theorem keyDef_key : (keyDef name key).key = key := rfl

-- JL_KEY_DEF_COUNT
def keyDefCount (table : List KeyDef) : Nat := table.length - 1

def jlGetKeyDef (argv : List Janet) (n : Nat) (table : List KeyDef) : Res Int := do
  let kw ← janetGetkeyword argv n
  match SentinelScan.scan KeyDef.name (janetCstrcmp kw) table with
  | .hit entry => .ok entry.key
  | .stopped => panicf "unknown key: %v" [slot argv n]
  | .overrun => .fault .keyTable

-- The loop of jl_get_key_flags at index `i`, with the items from `i` on.
def keyFlags (items : List Janet) (table : List KeyDef) : List Janet → Nat → BitVec 32 → Res (BitVec 32)
  | [],_,flags => .ok flags
  | .keyword _ :: rest,i,flags => do
    let key ← jlGetKeyDef items i table
    keyFlags items table rest (i+1) (flags ||| BitVec.ofInt 32 key)
  | item :: _,_,_ => panicf "expected keyword flags, got %v" [item]

def jlGetKeyFlags (argv : List Janet) (n : Nat) (table : List KeyDef) : Res (BitVec 32) :=
  match slot argv n with
  | .keyword _ => do
    let key ← jlGetKeyDef argv n table
    return BitVec.ofInt 32 key
  | .tuple items => keyFlags items table items 0 0
  | .array items => keyFlags items table items 0 0
  | value => panicf "bad slot #%d: expected keyword or sequence of keywords, got %v" [janetInteger n,value]

def jlGetFlagKeys (flags : BitVec 32) : List KeyDef → Res (List Janet)
  | [] => .fault .keyTable
  | entry :: rest => match entry.name with
    | none => .ok []
    | some name => do
      let keys ← jlGetFlagKeys flags rest
      return if flags &&& BitVec.ofInt 32 entry.key = 0 then keys else .keyword name :: keys

-- `janet_ckeywordv` reads the C string it is given.
def janetCkeywordv : Option String → Res Janet
  | some name => .ok (.keyword name)
  | none => .fault .nullDeref

-- `table[index].name` as the enum decoders read it.
def keyAt (table : List KeyDef) (index : Nat) : Res Janet :=
  match table[index]? with
  | some entry => janetCkeywordv entry.name
  | none => .fault .keyTable

-- The keys are the values of the C constants in wlroots 0.16, libwayland, xcb,
-- xkbcommon and, for signals and clocks, Linux.
def logDefs : List KeyDef :=
  [keyDef "silent" 0,keyDef "error" 1,keyDef "info" 2,keyDef "debug" 3,
    keyDef "log-importance-last" 4,.null]
def posixSignalDefs : List KeyDef :=
  [keyDef "abrt" 6,keyDef "alrm" 14,keyDef "bus" 7,keyDef "chld" 17,keyDef "cont" 18,keyDef "fpe" 8,
    keyDef "hup" 1,keyDef "ill" 4,keyDef "int" 2,keyDef "kill" 9,keyDef "pipe" 13,keyDef "quit" 3,
    keyDef "segv" 11,keyDef "stop" 19,keyDef "term" 15,keyDef "tstp" 20,keyDef "ttin" 21,
    keyDef "ttou" 22,keyDef "usr1" 10,keyDef "usr2" 12,keyDef "poll" 29,keyDef "prof" 27,
    keyDef "sys" 31,keyDef "trap" 5,keyDef "urg" 23,keyDef "vtalrm" 26,keyDef "xcpu" 24,
    keyDef "xfsz" 25,.null]
def wlEventDefs : List KeyDef :=
  [keyDef "readable" 1,keyDef "writable" 2,keyDef "hangup" 4,keyDef "error" 8,.null]
def wlrSurfaceStateFieldDefs : List KeyDef :=
  [keyDef "buffer" 1,keyDef "surface-damage" 2,keyDef "buffer-damage" 4,keyDef "opaque-region" 8,
    keyDef "input-region" 16,keyDef "transform" 32,keyDef "scale" 64,
    keyDef "frame-callback-list" 128,keyDef "viewport" 256,keyDef "offset" 512,.null]
def wlrEdgesDefs : List KeyDef :=
  [keyDef "none" 0,keyDef "top" 1,keyDef "bottom" 2,keyDef "left" 4,keyDef "right" 8,.null]
def wlrXdgSurfaceRoleDefs : List KeyDef := [keyDef "none" 0,keyDef "toplevel" 1,keyDef "popup" 2,.null]
def wlrOutputModeAspectRatioDefs : List KeyDef :=
  [keyDef "none" 0,keyDef "4:3" 1,keyDef "16:9" 2,keyDef "64:27" 3,keyDef "256:135" 4,.null]
def wlrSceneNodeTypeDefs : List KeyDef := [keyDef "tree" 0,keyDef "rect" 1,keyDef "buffer" 2,.null]
def wlrInputDeviceDefs : List KeyDef :=
  [keyDef "keyboard" 0,keyDef "pointer" 1,keyDef "touch" 2,keyDef "tablet-tool" 3,
    keyDef "tablet-pad" 4,keyDef "switch" 5,.null]
def wlrButtonStateDefs : List KeyDef := [keyDef "released" 0,keyDef "pressed" 1,.null]
def wlrAxisSourceDefs : List KeyDef :=
  [keyDef "wheel" 0,keyDef "finger" 1,keyDef "continuous" 2,keyDef "wheel-tilt" 3,.null]
def wlrAxisOrientationDefs : List KeyDef := [keyDef "vertical" 0,keyDef "horizontal" 1,.null]
def wlrKeyboardModifierDefs : List KeyDef :=
  [keyDef "shift" 1,keyDef "caps" 2,keyDef "ctrl" 4,keyDef "alt" 8,keyDef "mod2" 16,
    keyDef "mod3" 32,keyDef "logo" 64,keyDef "mod5" 128,.null]
def wlKeyboardKeyStateDefs : List KeyDef := [keyDef "released" 0,keyDef "pressed" 1,.null]
def xcbConnErrorDefs : List KeyDef :=
  [keyDef "none" 0,keyDef "error" 1,keyDef "closed-ext-notsupported" 2,keyDef "closed-mem-insufficient" 3,
    keyDef "closed-req-len-exceed" 4,keyDef "closed-parse-err" 5,keyDef "closed-invalid-screen" 6,
    keyDef "closed-fdpassing-failed" 7,.null]

-- A table that carries its sentinel ends every search and every flag scan.
def Terminated (table : List KeyDef) : Prop := .null ∈ table

theorem keyDef_defined (ended : Terminated table) (argv : List Janet) (n : Nat) :
    ∀ kind, jlGetKeyDef argv n table ≠ .fault kind := by
  intro kind faulted
  unfold jlGetKeyDef at faulted
  have noOverrun (kw : String) : SentinelScan.scan KeyDef.name (janetCstrcmp kw) table ≠ .overrun :=
    SentinelScan.terminated ended rfl
  unfold janetGetkeyword badSlot panicf at faulted
  split at faulted
  · rename_i kw _
    simp only [Res.bind_ok] at faulted
    split at faulted
    · cases faulted
    · cases faulted
    · rename_i overran
      exact noOverrun kw overran
  · cases faulted

theorem flagKeys_defined (ended : Terminated table) (flags : BitVec 32) :
    ∀ kind, jlGetFlagKeys flags table ≠ .fault kind := by
  intro kind faulted
  induction table with
  | nil => cases ended
  | cons entry rest ih =>
      unfold jlGetFlagKeys at faulted
      cases named : entry.name with
      | none => simp [named] at faulted
      | some name =>
          have later : Terminated rest := by
            rcases List.mem_cons.mp ended with rfl | inside
            · cases named
            · exact inside
          simp only [named,Res.bind_fault_exact] at faulted
          rcases faulted with here | ⟨keys,_,built⟩
          · exact ih later here
          · cases built

end Janetland
