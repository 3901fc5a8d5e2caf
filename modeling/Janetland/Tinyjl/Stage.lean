import Janetland.Foundations.Arrangements
import Janetland.Simulations
import Janetland.Tinyjl.Toggles

namespace Janetland.Tinyjl
open Act
open Toggles (Mode Layout getMaximizeGeoBox)

-- The fields of a struct wlr_box are ints, so a position that was put into one is in range.
structure SavedBox where
  box : Box
  fits : (fitsInt32 box.x && fitsInt32 box.y) = true

-- The server with what its handlers do to the order and the positions of the nodes, and
-- to the X11 windows.
structure Stage where
  server : Server
  -- the children of the root tree, the lowest first
  stack : List Nat
  -- where each node is in its parent
  place : Nat → Int × Int
  -- (xw-surface :x) and (xw-surface :y), which are int16_t
  window : Nat → BitVec 16 × BitVec 16
  -- (view :maximized) and (view :fullscreen), where `none` is nil or false
  saved : Nat → Mode → Option SavedBox

namespace Stage

-- Each X11 window has a position when it is created.
def start (windows : Nat → BitVec 16 × BitVec 16) : Stage := ⟨Tinyjl.start,[],fun _ => (0,0),windows,fun _ _ => none⟩

def onServer (act : Act Server α) : Act Stage α := on Stage.server (fun t s => { s with server := t }) act

def putTable (view : Nat) (change : Server → View → View) : Act Stage Unit :=
  onServer <| modify fun s => s.setTable view (change s)

-- wlroots puts a new node above its siblings, at the origin of its parent.
def appear (parent : Nat) (create : Act Server Nat) : Act Stage Nat := do
  let tree ← onServer create
  modify fun s => { s with
    place := Function.update s.place tree (0,0)
    stack := if parent = sceneRoot then s.stack ++ [tree] else s.stack }
  return tree

def wlrSceneTreeCreate (answers : Answers) (parent : Nat) : Act Stage Nat :=
  appear parent (Tinyjl.wlrSceneTreeCreate answers parent)

def wlrSceneSubsurfaceTreeCreate (answers : Answers) (parent surface : Nat) : Act Stage Nat :=
  appear parent (Tinyjl.wlrSceneSubsurfaceTreeCreate answers parent surface)

def wlrSceneXdgSurfaceCreate (answers : Answers) (parent surface : Nat) : Act Stage Nat :=
  appear parent (Tinyjl.wlrSceneXdgSurfaceCreate answers parent surface)

def wlrSceneNodeDestroy (root : Nat) : Act Stage Unit := do
  onServer (Tinyjl.wlrSceneNodeDestroy root)
  modify fun s => { s with stack := s.stack.filter fun tree => (s.server.trees tree).alive }

def wlrSceneNodeRaiseToTop (tree : Nat) : Act Stage Unit := do
  onServer (reach tree)
  modify fun s => { s with stack := Arrangements.toEnd tree s.stack }

def wlrSceneNodeSetPosition (tree : Option Nat) (x y : Int) : Act Stage Unit := do
  onServer (Tinyjl.wlrSceneNodeSetPosition tree x y)
  modify fun s => tree.elim s fun tree => { s with place := Function.update s.place tree (x,y) }

-- The position of an X11 window has 16 bits.
def wlrXwaylandSurfaceConfigure (xwSurface : Nat) (x y : Int) : Act Stage Unit := do
  lift (integerArgument 1 x)
  lift (integerArgument 2 y)
  modify fun s => { s with window := Function.update s.window xwSurface (BitVec.ofInt 16 x,BitVec.ofInt 16 y) }

def xwLocalCoords (xwSurface : Nat) (s : Stage) : Int × Int := match (s.server.surfaces xwSurface).parent with
  | none => ((s.window xwSurface).1.toInt,(s.window xwSurface).2.toInt)
  | some xwParent => ((s.window xwSurface).1.toInt - (s.window xwParent).1.toInt,
      (s.window xwSurface).2.toInt - (s.window xwParent).2.toInt)

def treeOf (answers : Answers) (parent : Nat) : Option Nat → Act Stage Nat
  | none => wlrSceneTreeCreate answers parent
  | some tree => pure tree

def sceneXwaylandSurfaceCreate (answers : Answers) (parent xwSurface : Nat) : Act Stage (Nat × Nat) := do
  let data ← read fun s => (s.server.surfaces xwSurface).data
  let tree ← treeOf answers parent data
  let surfaceTree ← wlrSceneSubsurfaceTreeCreate answers tree xwSurface
  when data.isNone <| onServer <| modify fun s =>
    s.setSurface xwSurface fun surface => { surface with sceneXwSurface := some tree }
  let coords ← read (xwLocalCoords xwSurface)
  wlrSceneNodeSetPosition (some tree) coords.1 coords.2
  return (tree,surfaceTree)

def focusView (answers : Answers) (view : Nat) (surface : Option WlSurface) : Act Stage Unit := do
  let prevSurface ← read fun s => s.server.focusedSurface
  if prevSurface = surface then pure ()
  else do
    when prevSurface.isSome (lift answers.deactivated)
    let sceneTree ← onServer (look fun s => needed (s.tables view).sceneTree)
    wlrSceneNodeRaiseToTop sceneTree
    onServer <| modify fun s =>
      if contains s.views view then { s with views := removeElement s.views view ++ [view] } else s
    let wlrSurface ← read fun s => ownSurface s.server view
    onServer <| when answers.keyboard do
      let wlrSurface ← lift (wlrSurface.elim (nilArgument 1 "wlr/wlr-surface") .ok)
      when (!answers.seatGrab) <| modify fun s => { s with focusedSurface := some wlrSurface }

def processCursorMove : Act Stage Unit := do
  let grabX ← onServer (look fun s => needed s.grabX)
  let view ← onServer (look fun s => needed s.grabbedView)
  putTable view fun s table => { table with x := mathRound (s.cursorX - grabX) }
  let grabY ← onServer (look fun s => needed s.grabY)
  putTable view fun s table => { table with y := mathRound (s.cursorY - grabY) }
  let table ← read fun s => s.server.tables view
  wlrSceneNodeSetPosition table.sceneTree table.x table.y
  let xwayland ← read fun s => (s.server.surfaces view).xwayland
  when xwayland do
    let _ ← onServer (look fun s => needed (ownSurface s view))
    wlrXwaylandSurfaceConfigure view table.x table.y

def processCursorResize (answers : Answers) : Act Stage (Int × Int) := do
  let view ← onServer (look fun s => needed s.grabbedView)
  let borderX ← onServer (look fun s => return s.cursorX - (← needed s.grabX))
  let borderY ← onServer (look fun s => return s.cursorY - (← needed s.grabY))
  let geobox ← onServer (look fun s => needed s.grabGeobox)
  let edges ← onServer (look fun s => needed s.resizeEdges)
  let vertical := dragged geobox.y (geobox.y + geobox.height) borderY (contains edges "top") (contains edges "bottom")
  let horizontal := dragged geobox.x (geobox.x + geobox.width) borderX (contains edges "left") (contains edges "right")
  let geoBox ← onServer (look (getGeometryFromView answers view))
  putTable view fun _ table => { table with x := mathRound (horizontal.1 - geoBox.x) }
  putTable view fun _ table => { table with y := mathRound (vertical.1 - geoBox.y) }
  let table ← read fun s => s.server.tables view
  wlrSceneNodeSetPosition table.sceneTree table.x table.y
  let newWidth := mathRound (horizontal.2 - horizontal.1)
  let newHeight := mathRound (vertical.2 - vertical.1)
  let xwayland ← read fun s => (s.server.surfaces view).xwayland
  let size ← lift (sendSize xwayland table newWidth newHeight)
  when xwayland (wlrXwaylandSurfaceConfigure view table.x table.y)
  return size

def processCursorMotion (answers : Answers) : Act Stage Unit := do
  let mode ← read fun s => s.server.cursorMode
  match mode with
  | .move => processCursorMove
  | .resize => do
    let _ ← processCursorResize answers
  | .passthrough => do
    let _ ← onServer (desktopViewAt answers)

def handleCursorMotion (answers : Answers) (x y : Rat) : Act Stage Unit := do
  onServer <| modify fun s => { s with cursorX := x, cursorY := y }
  processCursorMotion answers

def putIntoScene (answers : Answers) (view : Nat) : Act Stage Unit := do
  let parentTree ← onServer (look (parentTreeOf view))
  let made ← sceneXwaylandSurfaceCreate answers parentTree view
  onServer do
    modify fun s => s.setTable view fun table => { table with sceneTree := some made.1 }
    modify fun s => s.setTable view fun table => { table with surfaceTree := some made.2 }
    modify fun s => s.setSurface view fun surface => { surface with data := some made.1 }
    modify fun s => s.setTree made.1 fun tree => { tree with data := some view }

def focusMapped (answers : Answers) (view : Nat) : Act Stage Unit := do
  let skipped ← read fun s => unfocusable s.server view
  onServer <| when skipped <| modify fun s => { s with views := s.views.dropLast }
  when (!skipped) do
    let wlrSurface ← read fun s => ownSurface s.server view
    focusView answers view wlrSurface

def handleSurfaceMap (answers : Answers) (view : Nat) : Act Stage Unit := do
  onServer <| modify fun s => { s with views := s.views ++ [view] }
  let xwayland ← read fun s => (s.server.surfaces view).xwayland
  when xwayland (putIntoScene answers view)
  focusMapped answers view

def focusLastView (answers : Answers) : Act Stage Unit := do
  let last ← read fun s => s.server.views.getLast?
  match last with
  | none => pure ()
  | some nextView => do
    let wlrSurface ← read fun s => ownSurface s.server nextView
    focusView answers nextView wlrSurface

def handleSurfaceUnmap (answers : Answers) (view : Nat) : Act Stage Unit := do
  let grabbedView ← read fun s => s.server.grabbedView
  onServer <| when (decide (grabbedView = some view)) resetCursorMode
  onServer <| modify fun s => { s with views := removeElement s.views view }
  focusLastView answers

def destroySurface (id : Nat) : Act Stage Unit := do
  let tree ← read fun s => if (s.server.surfaces id).xwayland then (s.server.surfaces id).sceneXwSurface
    else (s.server.surfaces id).data
  tree.elim (pure ()) wlrSceneNodeDestroy
  onServer <| modify fun s => { s with surfaces := departed s id }

def focusViewAt (answers : Answers) : Act Stage Unit := do
  let found ← onServer (desktopViewAt answers)
  match found with
  | none => pure ()
  | some (view,surface) => do
    let skipped ← read fun s => unfocusable s.server view
    when (!skipped) (focusView answers view (some surface))

def handleCursorButton (answers : Answers) (button : Nat) (state : ButtonState) : Act Stage Unit :=
  if answers.alt then onServer (Tinyjl.handleCursorButton answers button state)
  else do
    onServer <| modify fun s => { s with lastButtonEvent := some (answers.serial,state) }
    match state with
    | .released => onServer resetCursorMode
    | .pressed => focusViewAt answers

def focusNextView (answers : Answers) : Act Stage Unit := do
  let views ← read fun s => s.server.views
  match views with
  | nextView :: _ :: _ => do
    let wlrSurface ← read fun s => ownSurface s.server nextView
    focusView answers nextView wlrSurface
  | _ => pure ()

def handleXdgShellNewSurface (answers : Answers) (view : Nat) : Act Stage Unit := do
  let sceneTree ← wlrSceneXdgSurfaceCreate answers sceneRoot view
  onServer do
    modify fun s => s.setTable view fun _ => ⟨some sceneTree,none,0,0⟩
    modify fun s => s.setTree sceneTree fun tree => { tree with data := some view }
    modify fun s => s.setSurface view fun surface => { surface with data := some sceneTree }
    modify fun s => s.setSurface view fun surface => { surface with bound := true }

-- The handlers that place a view. Those of XWayland surfaces look at its tree while it is mapped.
def placed (view : Nat) (x y : Int) : Act Stage Unit := do
  putTable view fun _ table => { table with x := x }
  putTable view fun _ table => { table with y := y }

def showing (s : Stage) (view : Nat) : Bool := (s.server.surfaces view).mapped && (s.server.tables view).sceneTree.isSome

def handleXwaylandSurfaceRequestConfigure (view : Nat) (x y : BitVec 16) : Act Stage Unit := do
  wlrXwaylandSurfaceConfigure view x.toInt y.toInt
  let shown ← read fun s => showing s view
  when shown do
    placed view x.toInt y.toInt
    let sceneTree ← read fun s => (s.server.tables view).sceneTree
    wlrSceneNodeSetPosition sceneTree x.toInt y.toInt

def handleXwaylandSurfaceSetGeometry (view : Nat) : Act Stage Unit := do
  let same ← read fun s => decide ((s.server.tables view).x = (s.window view).1.toInt) &&
    decide ((s.server.tables view).y = (s.window view).2.toInt)
  when (!same) do
    let coords ← read (xwLocalCoords view)
    placed view coords.1 coords.2
    let shown ← read fun s => showing s view
    when shown do
      let sceneTree ← read fun s => (s.server.tables view).sceneTree
      wlrSceneNodeSetPosition sceneTree coords.1 coords.2

-- The position of the view is put into the box of its geometry, :x before :y.
def geoBoxAt (geoBox : Box) (x y : Int) : Res SavedBox :=
  if fits : (fitsInt32 x && fitsInt32 y) = true then .ok ⟨{ geoBox with x := x, y := y },fits⟩
  else panicf "expected a 32-bit signed integer, got %v" [janetInteger (if fitsInt32 x then y else x)]

def putSaved (view : Nat) (mode : Mode) (box : Option SavedBox) : Act Stage Unit := modify fun s =>
  { s with saved := Function.update s.saved view (Function.update (s.saved view) mode box) }

-- Both branches of the handlers put the view into a box and send its size.
def impose (resize : Box → Act Stage Unit) (view : Nat) (box : Box) : Act Stage Unit := do
  placed view box.x box.y
  let sceneTree ← read fun s => (s.server.tables view).sceneTree
  wlrSceneNodeSetPosition sceneTree box.x box.y
  resize box

def handleRequest (resize : Box → Act Stage Unit) (mode : Mode) (answers : Answers) (layout : Layout) (view : Nat) :
    Act Stage Unit := do
  let saved ← read fun s => s.saved view mode
  match saved with
  | none => do
    let geoBox ← onServer (look (getGeometryFromView answers view))
    let oldBox ← onServer (look fun s => geoBoxAt geoBox (s.tables view).x (s.tables view).y)
    putSaved view mode (some oldBox)
    let outputBox ← read fun s => getMaximizeGeoBox layout (s.server.tables view).x (s.server.tables view).y
    impose resize view outputBox
  | some oldBox => do
    putSaved view mode none
    impose resize view oldBox.box

def resizeXdg (box : Box) : Act Stage Unit := do
  lift (integerArgument 1 box.width)
  lift (integerArgument 2 box.height)

-- The four arguments are checked in order before the call.
def resizeXwayland (view : Nat) (box : Box) : Act Stage Unit := do
  lift (integerArgument 1 box.x)
  lift (integerArgument 2 box.y)
  lift (integerArgument 3 box.width)
  lift (integerArgument 4 box.height)
  wlrXwaylandSurfaceConfigure view box.x box.y

def requestMode (mode : Mode) (answers : Answers) (layout : Layout) (view : Nat) : Act Stage Unit := do
  let xwayland ← read fun s => (s.server.surfaces view).xwayland
  handleRequest (if xwayland then resizeXwayland view else resizeXdg) mode answers layout view

inductive Event where
  | desktop (event : Tinyjl.Event)
  | requestConfigure (id : Nat) (x y : BitVec 16)
  -- wlroots has seen the window at a new position
  | setGeometry (id : Nat) (x y : BitVec 16)
  -- request_maximize or request_fullscreen
  | requestMode (mode : Mode) (answers : Answers) (layout : Layout) (id : Nat)

def admits (s : Stage) : Event → Bool
  | .desktop event => Tinyjl.admits s.server event
  | .requestConfigure id _ _ | .setGeometry id _ _ => liveXwayland s.server id
  | .requestMode _ _ _ id => decide ((s.server.surfaces id).life = .alive)

def listened (id : Nat) (handler : Act Stage Unit) : Act Stage Unit := do
  let bound ← read fun s => (s.server.surfaces id).bound
  when bound handler

def performDesktop : Tinyjl.Event → Act Stage Unit
  | .newXdgSurface answers id => do
    onServer <| modify fun s => s.setSurface id Surface.waking
    handleXdgShellNewSurface answers id
  | .map answers id => do
    onServer <| modify fun s => s.setSurface id Surface.mapping
    listened id (handleSurfaceMap answers id)
  | .unmap answers id => do
    onServer <| modify fun s => s.setSurface id fun surface => { surface with mapped := false }
    listened id (handleSurfaceUnmap answers id)
  | .destroy id => destroySurface id
  | .cursorMotion answers x y => handleCursorMotion answers x y
  | .cursorButton answers button state => handleCursorButton answers button state
  | .keyF1 answers => focusNextView answers
  | event => onServer (Tinyjl.perform event)

def perform : Event → Act Stage Unit
  | .desktop event => performDesktop event
  | .requestConfigure id x y => listened id (handleXwaylandSurfaceRequestConfigure id x y)
  | .setGeometry id x y => do
    modify fun s => { s with window := Function.update s.window id (x,y) }
    listened id (handleXwaylandSurfaceSetGeometry id)
  | .requestMode mode answers layout id => listened id (requestMode mode answers layout id)

def step (s : Stage) (event : Event) : Option Stage := if admits s event then leaves (perform event s) else none

end Stage

end Janetland.Tinyjl
