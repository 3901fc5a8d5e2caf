import Mathlib.Data.Rat.Floor
import Mathlib.Data.List.Basic
import Janetland.IntegerArguments
import Janetland.Tinyjl.State

namespace Janetland.Tinyjl
open Act

-- Looking a field up in nil, or arithmetic with nil.
def needed : Option α → Res α
  | some value => .ok value
  | none => panicf "%v called with 1 argument" [.nil]

-- What the argument checks of the C functions raise here.
def nilArgument (n : Nat) (expected : String) : Res α :=
  panicf ("bad slot #%d, expected " ++ expected ++ ", got %v") [janetInteger n,.nil]

def fitsInt32 (value : Int) : Bool := decide (int32Min ≤ value) && decide (value ≤ int32Max)

def integerArgument (n : Nat) (value : Int) : Res Unit :=
  if fitsInt32 value then .ok ()
  else panicf "bad slot #%d, expected 32 bit signed integer, got %v" [janetInteger n,janetInteger value]

theorem checked_fits (checked : integerArgument n value = .ok ()) : fitsInt32 value = true := by
  unfold integerArgument at checked
  split at checked
  · assumption
  · simp [panicf] at checked

def when (condition : Bool) (act : Act σ Unit) : Act σ Unit := if condition then act else pure ()

def removeElement [DecidableEq α] : List α → α → List α
  | [],_ => []
  | first :: rest,e => if first = e then rest else first :: removeElement rest e

def contains [DecidableEq α] (arr : List α) (e : α) : Bool := (arr.map fun ee => decide (e = ee)).any id

theorem removeElement_erase [DecidableEq α] (arr : List α) (e : α) : removeElement arr e = arr.erase e := by
  induction arr with
  | nil => rfl
  | cons first rest ih =>
      by_cases same : first = e
      · simp [removeElement,same]
      · simp [removeElement,same,ih]

theorem contains_exact [DecidableEq α] (arr : List α) (e : α) : contains arr e = true ↔ e ∈ arr := by
  simp [contains]

-- C round(): halves go away from zero.
def mathRound (value : Rat) : Int := if 0 ≤ value then ⌊value + 1/2⌋ else ⌈value - 1/2⌉

def boxPut (value : Int) : Res Int :=
  if fitsInt32 value then .ok value
  else panicf "expected a 32-bit signed integer, got %v" [janetInteger value]

-- wl_surface pointers; an XWayland surface has one while it is mapped.
def ownSurface (s : Server) (view : Nat) : Option WlSurface :=
  if (s.surfaces view).xwayland && !(s.surfaces view).mapped then none else some (.main view)

-- Touching a destroyed node is undefined.
def reach (tree : Nat) : Act Server Unit :=
  look fun s => if (s.trees tree).alive then .ok () else .fault .badRead

-- wlroots makes a tree, numbered next.
def grow (parent : Nat) (content : Option Nat) : Act Server Nat := fun s => (.ok s.nextTree,s.grown parent content)

def wlrSceneTreeCreate (answers : Answers) (parent : Nat) : Act Server Nat := do
  reach parent
  if answers.treeCreated then grow parent none
  else lift (panicf "failed to create wlroots scene tree object" [])

def wlrSceneSubsurfaceTreeCreate (answers : Answers) (parent surface : Nat) : Act Server Nat := do
  reach parent
  if answers.subsurfaceTreeCreated then grow parent (some surface)
  else lift (panicf "failed to create wlroots scene subsurface tree object" [])

def wlrSceneXdgSurfaceCreate (answers : Answers) (parent surface : Nat) : Act Server Nat := do
  reach parent
  if answers.treeCreated then grow parent (some surface)
  else lift (panicf "failed to create wlroots scene-graph node" [])

-- The whole subtree dies. The destroy event of each of its nodes runs the
-- tree-node-destroy-listener, which removes the listeners of that scene-xw-surface.
def wlrSceneNodeDestroy (root : Nat) : Act Server Unit := do
  reach root
  modify fun s => { s with
    trees := fun tree => if Forest.inside s.parentTree root tree then { s.trees tree with alive := false }
      else s.trees tree
    surfaces := fun id => { s.surfaces id with
      sceneXwSurface := (s.surfaces id).sceneXwSurface.filter fun tree => !Forest.inside s.parentTree root tree } }

def wlrSceneNodeSetPosition (tree : Option Nat) (x y : Int) : Act Server Unit := do
  let tree ← lift (needed tree)
  lift (integerArgument 1 x)
  lift (integerArgument 2 y)
  reach tree

-- The tree of an XWayland surface: the one of its last mapping, or a new one.
def treeOf (answers : Answers) (parent : Nat) : Option Nat → Act Server Nat
  | none => wlrSceneTreeCreate answers parent
  | some tree => pure tree

def sceneXwaylandSurfaceCreate (answers : Answers) (parent xwSurface : Nat) : Act Server (Nat × Nat) := do
  let data ← read fun s => (s.surfaces xwSurface).data
  let tree ← treeOf answers parent data
  let surfaceTree ← wlrSceneSubsurfaceTreeCreate answers tree xwSurface
  when data.isNone <| modify fun s =>
    s.setSurface xwSurface fun surface => { surface with sceneXwSurface := some tree }
  return (tree,surfaceTree)

def resetCursorMode : Act Server Unit := do
  modify fun s => { s with cursorMode := .passthrough }
  modify fun s => { s with grabbedView := none }

-- The while loop climbs to the first tree with a view; without one it ends at nil.
def desktopViewAt (answers : Answers) : Act Server (Option (Nat × WlSurface)) := match answers.nodeAt with
  | none => pure none
  | some (tree,surface) => do
    reach tree
    let view ← look fun s => needed (Forest.climb s.parentTree (fun tree => (s.trees tree).data) tree)
    return some (view,surface)

def focusView (answers : Answers) (view : Nat) (surface : Option WlSurface) : Act Server Unit := do
  let prevSurface ← read fun s => s.focusedSurface
  if prevSurface = surface then pure ()
  else do
    when prevSurface.isSome (lift answers.deactivated)
    let sceneTree ← look fun s => needed (s.tables view).sceneTree
    reach sceneTree
    modify fun s => if contains s.views view then { s with views := removeElement s.views view ++ [view] } else s
    let wlrSurface ← read fun s => ownSurface s view
    when answers.keyboard do
      let wlrSurface ← lift (wlrSurface.elim (nilArgument 1 "wlr/wlr-surface") .ok)
      when (!answers.seatGrab) <| modify fun s => { s with focusedSurface := some wlrSurface }

def getGeometryFromView (answers : Answers) (view : Nat) (s : Server) : Res Box :=
  if (s.surfaces view).xwayland then do
    let _ ← needed (ownSurface s view)
    return ⟨0,0,answers.geometry.width,answers.geometry.height⟩
  else return answers.geometry

-- The border that the edge of the grab would be dragged from.
def borderX (geoBox : Box) (view : View) (edges : List String) : Int :=
  view.x + geoBox.x + if contains edges "right" then geoBox.width else 0

def borderY (geoBox : Box) (view : View) (edges : List String) : Int :=
  view.y + geoBox.y + if contains edges "bottom" then geoBox.height else 0

-- The puts of begin-interactive for its mode. Those into the box raise outside int32.
def recordGrab (answers : Answers) (view : Nat) (edges : List String) : CursorMode → Act Server Unit
  | .move => do
    modify fun s => { s with grabX := some (s.cursorX - (s.tables view).x) }
    modify fun s => { s with grabY := some (s.cursorY - (s.tables view).y) }
  | .resize => do
    let geoBox ← look (getGeometryFromView answers view)
    modify fun s => { s with grabX := some (s.cursorX - borderX geoBox (s.tables view) edges) }
    modify fun s => { s with grabY := some (s.cursorY - borderY geoBox (s.tables view) edges) }
    let x ← look fun s => boxPut (geoBox.x + (s.tables view).x)
    let y ← look fun s => boxPut (geoBox.y + (s.tables view).y)
    modify fun s => { s with grabGeobox := some { geoBox with x := x, y := y } }
    modify fun s => { s with resizeEdges := some edges }
  | .passthrough => pure ()

def beginInteractive (answers : Answers) (view : Option Nat) (mode : CursorMode) (edges : List String) :
    Act Server Unit := do
  let view ← lift (needed view)
  let viewSurface ← read fun s => ownSurface s view
  let focusedSurface ← lift (answers.pointerFocus.elim (nilArgument 0 "wlr/wlr-surface") .ok)
  if viewSurface ≠ answers.rootSurface focusedSurface then pure ()
  else do
    modify fun s => { s with grabbedView := some view }
    modify fun s => { s with cursorMode := mode }
    recordGrab answers view edges mode

def processCursorMove : Act Server Unit := do
  let grabX ← look fun s => needed s.grabX
  let view ← look fun s => needed s.grabbedView
  modify fun s => s.setTable view fun table => { table with x := mathRound (s.cursorX - grabX) }
  let grabY ← look fun s => needed s.grabY
  modify fun s => s.setTable view fun table => { table with y := mathRound (s.cursorY - grabY) }
  let table ← read fun s => s.tables view
  wlrSceneNodeSetPosition table.sceneTree table.x table.y
  let xwayland ← read fun s => (s.surfaces view).xwayland
  when xwayland do
    let _ ← look fun s => needed (ownSurface s view)

-- One axis of a resize: the lower and the upper edge after one of them was dragged.
def dragged (low high border : Rat) (lower upper : Bool) : Rat × Rat :=
  if lower then (if high ≤ border then high - 1 else border,high)
  else if upper then (low,if border ≤ low then low + 1 else border)
  else (low,high)

def wlrXdgToplevelSetSize (width height : Int) : Res (Int × Int) := do
  integerArgument 1 width
  integerArgument 2 height
  return (width,height)

-- The size of an X11 window has 16 bits.
def wlrXwaylandSurfaceConfigure (x y width height : Int) : Res (Int × Int) := do
  integerArgument 1 x
  integerArgument 2 y
  integerArgument 3 width
  integerArgument 4 height
  return (uint16Type.convert width,uint16Type.convert height)

-- The size that the client is sent.
def sendSize (xwayland : Bool) (table : View) (width height : Int) : Res (Int × Int) :=
  if xwayland then wlrXwaylandSurfaceConfigure table.x table.y width height
  else wlrXdgToplevelSetSize width height

def processCursorResize (answers : Answers) : Act Server (Int × Int) := do
  let view ← look fun s => needed s.grabbedView
  let borderX ← look fun s => return s.cursorX - (← needed s.grabX)
  let borderY ← look fun s => return s.cursorY - (← needed s.grabY)
  let geobox ← look fun s => needed s.grabGeobox
  let edges ← look fun s => needed s.resizeEdges
  let vertical := dragged geobox.y (geobox.y + geobox.height) borderY (contains edges "top") (contains edges "bottom")
  let horizontal := dragged geobox.x (geobox.x + geobox.width) borderX (contains edges "left") (contains edges "right")
  let geoBox ← look (getGeometryFromView answers view)
  modify fun s => s.setTable view fun table => { table with x := mathRound (horizontal.1 - geoBox.x) }
  modify fun s => s.setTable view fun table => { table with y := mathRound (vertical.1 - geoBox.y) }
  let table ← read fun s => s.tables view
  wlrSceneNodeSetPosition table.sceneTree table.x table.y
  let newWidth := mathRound (horizontal.2 - horizontal.1)
  let newHeight := mathRound (vertical.2 - vertical.1)
  let xwayland ← read fun s => (s.surfaces view).xwayland
  lift (sendSize xwayland table newWidth newHeight)

def processCursorMotion (answers : Answers) : Act Server Unit := do
  let mode ← read fun s => s.cursorMode
  match mode with
  | .move => processCursorMove
  | .resize => do
    let _ ← processCursorResize answers
  | .passthrough => do
    let _ ← desktopViewAt answers

def handleCursorMotion (answers : Answers) (x y : Rat) : Act Server Unit := do
  modify fun s => { s with cursorX := x, cursorY := y }
  processCursorMotion answers

-- pointer-to-abstract-object raises when the parent has no :data.
def parentTreeOf (xwSurface : Nat) (s : Server) : Res Nat := match (s.surfaces xwSurface).parent with
  | none => .ok sceneRoot
  | some xwParent => match (s.surfaces xwParent).data with
    | some tree => .ok tree
    | none => nilArgument 0 "pointer"

-- What makes the steps before the tree is put into the view raise.
def mapRaises (answers : Answers) (view : Nat) (s : Server) : Bool :=
  (match (s.surfaces view).parent with
    | none => false
    | some xwParent => (s.surfaces xwParent).data.isNone) ||
  ((s.surfaces view).data.isNone && !answers.treeCreated) || !answers.subsurfaceTreeCreated

-- The part of handle-surface-map that puts an XWayland surface into the scene.
def putIntoScene (answers : Answers) (view : Nat) : Act Server Unit := do
  let parentTree ← look (parentTreeOf view)
  let made ← sceneXwaylandSurfaceCreate answers parentTree view
  modify fun s => s.setTable view fun table => { table with sceneTree := some made.1 }
  modify fun s => s.setTable view fun table => { table with surfaceTree := some made.2 }
  modify fun s => s.setSurface view fun surface => { surface with data := some made.1 }
  modify fun s => s.setTree made.1 fun tree => { tree with data := some view }

def unfocusable (s : Server) (view : Nat) : Bool := (s.surfaces view).xwayland && !(s.surfaces view).wantsFocus

-- A view that does not want the focus leaves the list again; another gets it.
def focusMapped (answers : Answers) (view : Nat) : Act Server Unit := do
  let skipped ← read fun s => unfocusable s view
  when skipped <| modify fun s => { s with views := s.views.dropLast }
  when (!skipped) do
    let wlrSurface ← read fun s => ownSurface s view
    focusView answers view wlrSurface

def handleSurfaceMap (answers : Answers) (view : Nat) : Act Server Unit := do
  modify fun s => { s with views := s.views ++ [view] }
  let xwayland ← read fun s => (s.surfaces view).xwayland
  when xwayland (putIntoScene answers view)
  focusMapped answers view

def focusLastView (answers : Answers) : Act Server Unit := do
  let last ← read fun s => s.views.getLast?
  match last with
  | none => pure ()
  | some nextView => do
    let wlrSurface ← read fun s => ownSurface s nextView
    focusView answers nextView wlrSurface

def handleSurfaceUnmap (answers : Answers) (view : Nat) : Act Server Unit := do
  let grabbedView ← read fun s => s.grabbedView
  when (decide (grabbedView = some view)) resetCursorMode
  modify fun s => { s with views := removeElement s.views view }
  focusLastView answers

-- wlroots drops a destroyed surface, also as the parent of others.
def departed (s : Server) (id other : Nat) : Surface :=
  if other = id then { s.surfaces id with life := .destroyed, bound := false, parent := none }
  else if (s.surfaces other).parent = some id then { s.surfaces other with parent := none }
  else s.surfaces other

-- The destroy handlers of the views only remove listeners. An XWayland surface destroys
-- the tree of its scene-xw-surface, and wlroots that of an xdg surface.
def destroySurface (id : Nat) : Act Server Unit := do
  let tree ← read fun s => if (s.surfaces id).xwayland then (s.surfaces id).sceneXwSurface else (s.surfaces id).data
  tree.elim (pure ()) wlrSceneNodeDestroy
  modify fun s => { s with surfaces := departed s id }

def handleXdgToplevelRequest (mode : CursorMode) (answers : Answers) (view : Nat) (serial : BitVec 32)
    (edges : List String) : Act Server Unit := do
  let lastBtnEvent ← read fun s => s.lastButtonEvent
  match lastBtnEvent with
  | none => pure ()
  | some (lastSerial,lastState) =>
    when (decide (lastSerial = serial) && decide (lastState = .pressed))
      (beginInteractive answers (some view) mode edges)

def handleXdgToplevelRequestMove (answers : Answers) (view : Nat) (serial : BitVec 32) : Act Server Unit :=
  handleXdgToplevelRequest .move answers view serial []
def handleXdgToplevelRequestResize := handleXdgToplevelRequest .resize

def handleXwaylandSurfaceRequest (mode : CursorMode) (answers : Answers) (view : Nat) (edges : List String) :
    Act Server Unit := do
  let mapped ← read fun s => (s.surfaces view).mapped
  when mapped (beginInteractive answers (some view) mode edges)

def handleXwaylandSurfaceRequestMove (answers : Answers) (view : Nat) : Act Server Unit :=
  handleXwaylandSurfaceRequest .move answers view []
def handleXwaylandSurfaceRequestResize := handleXwaylandSurfaceRequest .resize

-- Click to focus
def focusViewAt (answers : Answers) : Act Server Unit := do
  let found ← desktopViewAt answers
  match found with
  | none => pure ()
  | some (view,surface) => do
    let skipped ← read fun s => unfocusable s view
    when (!skipped) (focusView answers view (some surface))

def handleCursorButton (answers : Answers) (button : Nat) (state : ButtonState) : Act Server Unit :=
  if answers.alt then match state with
    | .pressed => do
      let found ← desktopViewAt answers
      if button = 272 then beginInteractive answers (found.map (·.1)) .move []
      else if button = 273 then beginInteractive answers (found.map (·.1)) .resize ["right","bottom"]
      else pure ()
    | .released => resetCursorMode
  else do
    modify fun s => { s with lastButtonEvent := some (answers.serial,state) }
    match state with
    | .released => resetCursorMode
    | .pressed => focusViewAt answers

-- handle-keybinding for F1
def focusNextView (answers : Answers) : Act Server Unit := do
  let views ← read fun s => s.views
  match views with
  | nextView :: _ :: _ => do
    let wlrSurface ← read fun s => ownSurface s nextView
    focusView answers nextView wlrSurface
  | _ => pure ()

def handleXdgShellNewSurface (answers : Answers) (view : Nat) : Act Server Unit := do
  let sceneTree ← wlrSceneXdgSurfaceCreate answers sceneRoot view
  modify fun s => s.setTable view fun _ => ⟨some sceneTree,none,0,0⟩
  modify fun s => s.setTree sceneTree fun tree => { tree with data := some view }
  modify fun s => s.setSurface view fun surface => { surface with data := some sceneTree }
  modify fun s => s.setSurface view fun surface => { surface with bound := true }

def handleXwaylandNewSurface (view : Nat) : Act Server Unit := do
  modify fun s => s.setTable view fun _ => ⟨none,none,0,0⟩
  modify fun s => s.setSurface view fun surface => { surface with bound := true }

end Janetland.Tinyjl
