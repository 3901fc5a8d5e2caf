import Janetland.Tinyjl.HotplugSteps
import Janetland.FlagCodec

namespace Janetland.Tinyjl.Keys
open Act

-- What the clients with the keyboard focus are told through the seat.
inductive Notice where
  | key (keyboard : Nat) (time keycode : BitVec 32) (state : ButtonState)
  | modifiers (keyboard : Nat)
deriving DecidableEq

-- The whole server table: the desktop with its views, and the devices.
structure Session where
  server : Server
  desk : Hotplug.Desk
  running : Bool
  spawned : Nat
  notices : List Notice

def start (sceneAttached : Bool) : Session := ⟨Tinyjl.start,Hotplug.start sceneAttached,true,0,[]⟩

-- A wlr_keyboard_key_event, with what the keyboard and the system answer about it.
structure KeyEvent where
  time : BitVec 32
  keycode : BitVec 32
  state : ButtonState
  -- wlr_keyboard_get_modifiers
  mask : BitVec 32
  -- xkb_state_key_get_syms
  syms : BitVec 32 → List (BitVec 32)
  spawns : Bool
  answers : Answers

-- The keysyms of xkbcommon in the generated table.
def xkbKeyEscape : BitVec 32 := 0xff1b
def xkbKeyReturn : BitVec 32 := 0xff0d
def xkbKeyF1 : BitVec 32 := 0xffbe

def onServer (act : Act Server α) : Act Session α := fun s => match act s.server with
  | (result,t) => (result,{ s with server := t })

def onDesk (act : Act Hotplug.Desk α) : Act Session α := fun s => match act s.desk with
  | (result,t) => (result,{ s with desk := t })

def serverStop : Act Session Unit := modify fun s => { s with running := false }

def osSpawn (event : KeyEvent) : Act Session Unit := do
  lift (if event.spawns then .ok () else panicf "%s" [])
  modify fun s => { s with spawned := s.spawned + 1 }

def handleKeybinding (event : KeyEvent) (sym : BitVec 32) : Act Session Bool :=
  if sym = xkbKeyEscape then do
    serverStop
    return true
  else if sym = xkbKeyReturn then do
    osSpawn event
    return true
  else if sym = xkbKeyF1 then do
    onServer (focusNextView event.answers)
    return true
  else return false

-- (map (fn [sym] (handle-keybinding server sym)) syms)
def handleSyms (event : KeyEvent) : List (BitVec 32) → Act Session (List Bool)
  | [] => return []
  | sym :: rest => do
    let handled ← handleKeybinding event sym
    let others ← handleSyms event rest
    return handled :: others

-- (+ (event :keycode) 8) is computed with 64 bits, and xkb-state-key-get-syms takes 32.
def lookedUp (keycode : BitVec 32) : BitVec 32 := (keycode.setWidth 64 + 8#64).setWidth 32

def isKeyword (name : String) : Janet → Bool
  | .keyword other => decide (name = other)
  | _ => false

-- (contains? modifiers :alt)
def altHeld (modifiers : List Janet) : Bool := modifiers.any (isKeyword "alt")

-- libxkbcommon does not look whether the state is NULL.
def xkbStateKeyGetSyms (keyboard : Nat) (event : KeyEvent) : Act Session (List (BitVec 32)) :=
  look fun s => if Hotplug.xkbState s.desk keyboard then .ok (event.syms (lookedUp event.keycode))
    else .fault .nullDeref

def handledSyms (event : KeyEvent) (syms : List (BitVec 32)) (modifiers : List Janet) : Act Session (List Bool) :=
  if altHeld modifiers && decide (event.state = .pressed) then handleSyms event syms
  else return syms.map fun _ => false

def wlrSeatSetKeyboard (keyboard : Nat) : Act Session Unit :=
  onDesk (modify fun s => { s with seatKeyboard := some keyboard })

def notify (notice : Notice) : Act Session Unit := modify fun s => { s with notices := s.notices ++ [notice] }

def handleWlrKeyboardModifiers (keyboard : Nat) : Act Session Unit := do
  wlrSeatSetKeyboard keyboard
  notify (.modifiers keyboard)

def handleWlrKeyboardKey (keyboard : Nat) (event : KeyEvent) : Act Session Unit := do
  let syms ← xkbStateKeyGetSyms keyboard event
  let modifiers ← lift (jlGetFlagKeys event.mask wlrKeyboardModifierDefs)
  let handled ← handledSyms event syms modifiers
  when (!handled.any id) do
    wlrSeatSetKeyboard keyboard
    notify (.key keyboard event.time event.keycode event.state)

inductive Input where
  | desktop (event : Event)
  | plug (event : Hotplug.Plug)
  | key (keyboard : Nat) (event : KeyEvent)
  | modifiers (keyboard : Nat)
  -- SIGINT or SIGTERM
  | signal

-- What the keyboards do reaches the desktop through their own handlers here.
def fromKeyboard : Event → Bool
  | .keyF1 _ | .modifiers => true
  | _ => false

def admits (s : Session) : Input → Bool
  | .desktop event => !fromKeyboard event && Tinyjl.admits s.server event
  | .plug event => Hotplug.admits s.desk event
  | .key keyboard _ | .modifiers keyboard => decide ((s.desk.devices keyboard).life = .alive)
  | .signal => true

-- A handler runs if its listener is bound.
def heard (keyboard : Nat) (listener : Hotplug.KeyboardListener) (handler : Act Session Unit) : Act Session Unit := do
  let bound ← read fun s => s.desk.keyboardBound.contains (keyboard,listener)
  when bound handler

def perform : Input → Act Session Unit
  | .desktop event => onServer (Tinyjl.perform event)
  | .plug event => onDesk (Hotplug.perform event)
  | .key keyboard event => heard keyboard .key (handleWlrKeyboardKey keyboard event)
  | .modifiers keyboard => heard keyboard .modifiers (handleWlrKeyboardModifiers keyboard)
  | .signal => serverStop

def step (s : Session) (input : Input) : Option Session :=
  if admits s input then leaves (perform input s) else none

end Janetland.Tinyjl.Keys
