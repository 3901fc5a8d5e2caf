import Janetland.KeyDefs
import Janetland.Foundations.Rosters
import Janetland.Tinyjl.Events
import Janetland.Outcomes

namespace Janetland.Tinyjl.Hotplug
open Act

-- The listeners in the table of a keyboard, and in that of an output.
inductive KeyboardListener where
  | modifiers | key | destroy
deriving DecidableEq

inductive OutputListener where
  | frame | destroy
deriving DecidableEq

def keyboardListeners : List KeyboardListener := [.modifiers,.key,.destroy]
def outputListeners : List OutputListener := [.frame,.destroy]

-- Who holds a reference to an xkb object: the script, or the wlr_keyboard of a device.
inductive Reference where
  | context (id : Nat)
  | keymap (id : Nat)
  | keyboard (device keymap : Nat)
deriving DecidableEq

-- A wlr_input_device; `type` is the value of its C enumeration.
structure Device where
  life : Life
  type : Nat
deriving DecidableEq

-- What the server table and wlroots hold of the backend's devices and outputs. The table
-- of a keyboard or an output is numbered like the object it is about.
structure Desk where
  devices : Nat → Device
  keyboards : List Nat
  keyboardBound : List (Nat × KeyboardListener)
  pointers : List Nat
  seatKeyboard : Option Nat
  capabilities : BitVec 32
  references : List Reference
  nextXkb : Nat
  lives : Nat → Life
  outputs : List Nat
  outputBound : List (Nat × OutputListener)
  -- the output layout, and whether the scene follows it
  layout : List Nat
  sceneAttached : Bool

def start (sceneAttached : Bool) : Desk where
  devices _ := ⟨.unborn,0⟩
  keyboards := []
  keyboardBound := []
  pointers := []
  seatKeyboard := none
  capabilities := 0
  references := []
  nextXkb := 0
  lives _ := .unborn
  outputs := []
  outputBound := []
  layout := []
  sceneAttached := sceneAttached

-- (wlr-keyboard :xkb-state) wraps NULL unless the keyboard took its keymap.
def xkbState (s : Desk) (keyboard : Nat) : Bool := s.references.any fun reference => match reference with
  | .keyboard owner _ => decide (owner = keyboard)
  | _ => false

structure InputAnswers where
  keyboardFound : Bool
  contextMade : Bool
  keymapMade : Bool
  keymapTaken : Bool

structure OutputAnswers where
  hasModes : Bool
  -- a mode with an unknown aspect ratio raises when it is logged
  modesRead : Bool
  preferredMode : Bool
  committed : Bool

def wlSeatCapabilityDefs : List KeyDef := [keyDef "pointer" 1,keyDef "keyboard" 2,keyDef "touch" 4,.null]

-- (device :type)
def deviceType (type : Nat) : Res Janet :=
  if keyDefCount wlrInputDeviceDefs ≤ type then
    panicf "unknown device type from wlroots input device: %d" [janetInteger type]
  else keyAt wlrInputDeviceDefs type

def succeeds (answer : Bool) (message : String) : Act Desk Unit :=
  lift (if answer then .ok () else panicf message [])

def xkbContextNew (answers : InputAnswers) : Act Desk Nat := do
  succeeds answers.contextMade "failed to create xkb context"
  let context ← read fun s => s.nextXkb
  modify fun s => { s with references := s.references ++ [.context context], nextXkb := s.nextXkb + 1 }
  return context

def xkbKeymapNewFromNames (answers : InputAnswers) : Act Desk Nat := do
  succeeds answers.keymapMade "failed to create xkb keymap"
  let keymap ← read fun s => s.nextXkb
  modify fun s => { s with references := s.references ++ [.keymap keymap], nextXkb := s.nextXkb + 1 }
  return keymap

-- Giving back a reference that is not held is undefined.
def unref (reference : Reference) : Act Desk Unit := do
  look fun s => if reference ∈ s.references then .ok () else .fault .badRead
  modify fun s => { s with references := s.references.erase reference }

-- A keyboard without memory for the keymap stays without one, and the script goes on.
def wlrKeyboardSetKeymap (answers : InputAnswers) (device keymap : Nat) : Act Desk Unit :=
  when answers.keymapTaken <| modify fun s => { s with references := s.references ++ [.keyboard device keymap] }

def bindKeyboard (keyboard : Nat) (listener : KeyboardListener) : Act Desk Unit :=
  modify fun s => { s with keyboardBound := s.keyboardBound ++ [(keyboard,listener)] }

def bindOutput (output : Nat) (listener : OutputListener) : Act Desk Unit :=
  modify fun s => { s with outputBound := s.outputBound ++ [(output,listener)] }

def found : Option α → Res α
  | some value => .ok value
  | none => .fault .badRead

-- wl-signal-remove on listeners that are not bound is undefined.
def unbindKeyboard (keyboard : Nat) (listeners : List KeyboardListener) : Act Desk Unit := do
  let bound ← look fun s => found (Rosters.withdrawAll s.keyboardBound keyboard listeners)
  modify fun s => { s with keyboardBound := bound }

def unbindOutput (output : Nat) (listeners : List OutputListener) : Act Desk Unit := do
  let bound ← look fun s => found (Rosters.withdrawAll s.outputBound output listeners)
  modify fun s => { s with outputBound := bound }

def serverNewKeyboard (answers : InputAnswers) (device : Nat) : Act Desk Unit := do
  succeeds answers.keyboardFound "failed to get keyboard object from input device"
  let context ← xkbContextNew answers
  let keymap ← xkbKeymapNewFromNames answers
  wlrKeyboardSetKeymap answers device keymap
  unref (.keymap keymap)
  unref (.context context)
  bindKeyboard device .modifiers
  bindKeyboard device .key
  bindKeyboard device .destroy
  modify fun s => { s with seatKeyboard := some device }
  modify fun s => { s with keyboards := s.keyboards ++ [device] }

def serverNewPointer (device : Nat) : Act Desk Unit := modify fun s => { s with pointers := s.pointers ++ [device] }

def newDevice (answers : InputAnswers) (device : Nat) (type : Janet) : Act Desk Unit := match type with
  | .keyword "keyboard" => serverNewKeyboard answers device
  | .keyword "pointer" => serverNewPointer device
  | _ => pure ()

def capabilityKeys (keyboards : List Nat) : List Janet :=
  if keyboards.isEmpty then [.keyword "pointer"] else [.keyword "pointer",.keyword "keyboard"]

def wlrSeatSetCapabilities (keys : List Janet) : Act Desk Unit := do
  let caps ← lift (jlGetKeyFlags [.array keys] 0 wlSeatCapabilityDefs)
  modify fun s => { s with capabilities := caps }

def handleBackendNewInput (answers : InputAnswers) (device : Nat) : Act Desk Unit := do
  let type ← look fun s => deviceType (s.devices device).type
  newDevice answers device type
  let keyboards ← read fun s => s.keyboards
  wlrSeatSetCapabilities (capabilityKeys keyboards)

def handleWlrInputDeviceDestroy (keyboard : Nat) : Act Desk Unit := do
  unbindKeyboard keyboard [.modifiers,.key,.destroy]
  modify fun s => { s with keyboards := removeElement s.keyboards keyboard }

-- The part of handle-backend-new-output that returns early when the commit fails.
def modeSet (answers : OutputAnswers) : Act Desk Bool :=
  if answers.hasModes then do
    succeeds answers.modesRead "unknown picture aspect ratio: %d"
    succeeds answers.preferredMode "failed to get preferred mode for output"
    return answers.committed
  else return true

def handleBackendNewOutput (answers : OutputAnswers) (output : Nat) : Act Desk Unit := do
  let usable ← modeSet answers
  when usable do
    bindOutput output .frame
    bindOutput output .destroy
    modify fun s => { s with outputs := s.outputs ++ [output] }
    modify fun s => { s with layout := s.layout ++ [output] }

def handleWlrOutputDestroy (output : Nat) : Act Desk Unit := do
  unbindOutput output [.frame,.destroy]
  modify fun s => { s with outputs := removeElement s.outputs output }

-- The scene has an output for each one of a layout it follows.
def handleWlrOutputFrame (output : Nat) : Act Desk Unit :=
  look fun s => if s.sceneAttached && s.layout.contains output then .ok ()
    else panicf "failed to create wlroots scene output object" []

inductive Plug where
  | newInput (answers : InputAnswers) (device type : Nat)
  | inputDestroy (device : Nat)
  | newOutput (answers : OutputAnswers) (output : Nat)
  | outputDestroy (output : Nat)
  | frame (output : Nat)

def admits (s : Desk) : Plug → Bool
  | .newInput _ device _ => decide ((s.devices device).life = .unborn)
  | .inputDestroy device => decide ((s.devices device).life = .alive)
  | .newOutput _ output => decide (s.lives output = .unborn)
  | .outputDestroy output | .frame output => decide (s.lives output = .alive)

-- wlroots gives up what it keeps of a device that is gone.
def departed (s : Desk) (device : Nat) : Desk := { s with
  devices := Function.update s.devices device { s.devices device with life := .destroyed }
  pointers := s.pointers.filter (· ≠ device)
  seatKeyboard := s.seatKeyboard.filter (· ≠ device)
  references := s.references.filter fun reference => match reference with
    | .keyboard owner _ => owner ≠ device
    | _ => true }

def removed (s : Desk) (output : Nat) : Desk := { s with
  lives := Function.update s.lives output .destroyed
  layout := s.layout.erase output }

def arrived (s : Desk) (device type : Nat) : Desk :=
  { s with devices := Function.update s.devices device ⟨.alive,type⟩ }

def lit (s : Desk) (output : Nat) : Desk := { s with lives := Function.update s.lives output .alive }

-- A handler runs if its listener is bound.
def perform : Plug → Act Desk Unit
  | .newInput answers device type => do
    modify fun s => arrived s device type
    handleBackendNewInput answers device
  | .inputDestroy device => do
    let bound ← read fun s => s.keyboardBound.contains (device,.destroy)
    when bound (handleWlrInputDeviceDestroy device)
    modify fun s => departed s device
  | .newOutput answers output => do
    modify fun s => lit s output
    handleBackendNewOutput answers output
  | .outputDestroy output => do
    let bound ← read fun s => s.outputBound.contains (output,.destroy)
    when bound (handleWlrOutputDestroy output)
    modify fun s => removed s output
  | .frame output => do
    let bound ← read fun s => s.outputBound.contains (output,.frame)
    when bound (handleWlrOutputFrame output)

def step (s : Desk) (event : Plug) : Option Desk := if admits s event then leaves (perform event s) else none

end Janetland.Tinyjl.Hotplug
