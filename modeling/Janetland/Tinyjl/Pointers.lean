import Janetland.Foundations.Strokes
import Janetland.Simulations
import Janetland.Tinyjl.Grabs
import Janetland.Tinyjl.KeyRuns

namespace Janetland.Tinyjl.Pointers
open Act

-- What the seat is told of the pointer, for the client under it.
inductive Notice where
  | enter (surface : WlSurface) (sx sy : Rat)
  | motion (time : BitVec 32) (sx sy : Rat)
  | clearFocus
  | button (time button : BitVec 32) (state : ButtonState)
  | axis (time orientation : BitVec 32) (delta : Rat) (deltaDiscrete source : BitVec 32)
  | frame
deriving DecidableEq

-- The image of (server :cursor), which has none at first; a client may hide it by giving
-- no surface.
inductive Image where
  | unset
  | leftPtr
  | surface (surface : Option WlSurface) (hotspotX hotspotY : BitVec 32)
deriving DecidableEq

-- A button of one of the pointers. They all move (server :cursor).
abbrev Button := Nat × BitVec 32

-- The compositor with its pointers.
structure Pointing where
  session : Keys.Session
  -- the buttons that are down, each with whether Alt was when it went down
  held : List (Button × Bool)
  notices : List Notice
  image : Image

def start (sceneAttached : Bool) : Pointing := ⟨Keys.start sceneAttached,[],[],.unset⟩

-- wlr-cursor-move and wlr-cursor-warp-absolute move the cursor to (x,y), and the buffer
-- of the surface that wlr-scene-node-at finds there is met at (sx,sy).
structure MotionEvent where
  time : BitVec 32
  x : Rat
  y : Rat
  sx : Rat
  sy : Rat
  answers : Answers

structure ButtonEvent where
  time : BitVec 32
  pointer : Nat
  button : BitVec 32
  state : ButtonState
  -- wlr_keyboard_get_modifiers of the keyboard of the seat
  mask : BitVec 32
  answers : Answers

structure AxisEvent where
  time : BitVec 32
  source : BitVec 32
  orientation : BitVec 32
  delta : Rat
  deltaDiscrete : BitVec 32

structure SetCursorEvent where
  seatClient : Nat
  focusedClient : Option Nat
  surface : Option WlSurface
  hotspotX : BitVec 32
  hotspotY : BitVec 32

def onSession (act : Act Keys.Session α) : Act Pointing α :=
  on Pointing.session (fun t s => { s with session := t }) act

def onServer (act : Act Server α) : Act Pointing α := onSession (Keys.onServer act)

def notify (notice : Notice) : Act Pointing Unit := modify fun s => { s with notices := s.notices ++ [notice] }

def wlrSeatPointerNotifyEnter (surface : WlSurface) (sx sy : Rat) : Act Pointing Unit := notify (.enter surface sx sy)
def wlrSeatPointerNotifyMotion (time : BitVec 32) (sx sy : Rat) : Act Pointing Unit := notify (.motion time sx sy)
def wlrSeatPointerClearFocus : Act Pointing Unit := notify .clearFocus

def wlrXcursorManagerSetCursorImage : Act Pointing Unit := modify fun s => { s with image := .leftPtr }

def processCursorMotion (event : MotionEvent) : Act Pointing Unit := do
  let mode ← read fun s => s.session.server.cursorMode
  match mode with
  | .move => onServer processCursorMove
  | .resize => do
    let _ ← onServer (processCursorResize event.answers)
  | .passthrough => do
    let found ← onServer (desktopViewAt event.answers)
    when found.isNone wlrXcursorManagerSetCursorImage
    match found with
    | none => wlrSeatPointerClearFocus
    | some (_,surface) => do
      wlrSeatPointerNotifyEnter surface event.sx event.sy
      wlrSeatPointerNotifyMotion event.time event.sx event.sy

def handleCursorMotion (event : MotionEvent) : Act Pointing Unit := do
  onServer <| modify fun s => { s with cursorX := event.x, cursorY := event.y }
  processCursorMotion event

def handleCursorMotionAbsolute := handleCursorMotion

def modifiersOf (event : ButtonEvent) : Act Pointing (List Janet) := do
  let keyboard ← read fun s => s.session.desk.seatKeyboard
  match keyboard with
  | none => return []
  | some _ => lift (jlGetFlagKeys event.mask wlrKeyboardModifierDefs)

-- With Alt the button is the compositor's own.
def handleCursorButton (event : ButtonEvent) : Act Pointing Unit := do
  let modifiers ← modifiersOf event
  let alt := Keys.altHeld modifiers
  when (!alt) (notify (.button event.time event.button event.state))
  onServer (Tinyjl.handleCursorButton { event.answers with alt := alt } event.button.toNat event.state)

-- A C enumeration that is read through its table of names.
def named (table : List KeyDef) (message : String) (value : BitVec 32) : Res Unit :=
  if keyDefCount table ≤ value.toNat then panicf message [janetInteger value.toInt] else .ok ()

def handleCursorAxis (event : AxisEvent) : Act Pointing Unit := do
  lift (named wlrAxisSourceDefs "unknown axis source from wlroots pointer axis event: %d" event.source)
  lift (named wlrAxisOrientationDefs "unknown axis orientation from wlroots pointer axis event: %d" event.orientation)
  notify (.axis event.time event.orientation event.delta event.deltaDiscrete event.source)

def handleCursorFrame : Act Pointing Unit := notify .frame

def handleSeatRequestSetCursor (event : SetCursorEvent) : Act Pointing Unit :=
  when (decide (event.focusedClient = some event.seatClient)) <| modify fun s =>
    { s with image := .surface event.surface event.hotspotX event.hotspotY }

inductive Input where
  | session (input : Keys.Input)
  | motion (event : MotionEvent)
  | motionAbsolute (event : MotionEvent)
  | button (event : ButtonEvent)
  | axis (event : AxisEvent)
  | frame
  | setCursor (event : SetCursorEvent)

-- What the pointers do reaches the desktop through their own handlers here.
def fromPointer : Keys.Input → Bool
  | .desktop (.cursorMotion ..) | .desktop (.cursorButton ..) => true
  | _ => false

-- A button goes down when it is up.
def strikes (s : Pointing) (event : ButtonEvent) : Bool := match event.state with
  | .pressed => (Strokes.markOf (event.pointer,event.button) s.held).isNone
  | .released => (Strokes.markOf (event.pointer,event.button) s.held).isSome

def admits (s : Pointing) : Input → Bool
  | .session input => !fromPointer input && Keys.admits s.session input
  | .button event => strikes s event
  | _ => true

def altDown (s : Pointing) (event : ButtonEvent) : Bool :=
  s.session.desk.seatKeyboard.isSome && decide (event.mask &&& 8 ≠ 0)

def heldAfter (s : Pointing) (event : ButtonEvent) : List (Button × Bool) := match event.state with
  | .pressed => s.held ++ [((event.pointer,event.button),altDown s event)]
  | .released => Strokes.released (event.pointer,event.button) s.held

def perform : Input → Act Pointing Unit
  | .session input => onSession (Keys.perform input)
  | .motion event => handleCursorMotion event
  | .motionAbsolute event => handleCursorMotionAbsolute event
  | .button event => do
    modify fun s => { s with held := heldAfter s event }
    handleCursorButton event
  | .axis event => handleCursorAxis event
  | .frame => handleCursorFrame
  | .setCursor event => handleSeatRequestSetCursor event

def step (s : Pointing) (input : Input) : Option Pointing := if admits s input then leaves (perform input s) else none

end Janetland.Tinyjl.Pointers
