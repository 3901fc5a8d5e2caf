import Mathlib.Logic.Function.Basic
import Janetland.Actions
import Janetland.Foundations.Forest

namespace Janetland.Tinyjl

-- struct wlr_box
structure Box where
  x : Int
  y : Int
  width : Int
  height : Int
deriving DecidableEq

-- A struct wlr_surface: the one of a toplevel or of an XWayland surface, or another.
inductive WlSurface where
  | main (surface : Nat)
  | other (id : Nat)
deriving DecidableEq

inductive Life where
  | unborn | alive | destroyed
deriving DecidableEq

-- An xdg toplevel or an XWayland surface. Surfaces and their views are numbered alike,
-- and scene trees have numbers of their own in place of addresses.
structure Surface where
  life : Life
  xwayland : Bool
  -- the listeners of its view are bound
  bound : Bool
  mapped : Bool
  wantsFocus : Bool
  parent : Option Nat
  data : Option Nat
  -- the tree of the scene-xw-surface whose listeners are bound
  sceneXwSurface : Option Nat
deriving DecidableEq

def Surface.waking (surface : Surface) : Surface := { surface with life := .alive }
def Surface.mapping (surface : Surface) : Surface := { surface with mapped := true }

structure View where
  sceneTree : Option Nat
  surfaceTree : Option Nat
  x : Int
  y : Int
deriving DecidableEq

-- `content` is the surface whose buffers wlroots keeps below this tree.
structure Tree where
  alive : Bool
  parent : Option Nat
  data : Option Nat
  content : Option Nat
deriving DecidableEq

inductive CursorMode where
  | passthrough | move | resize
deriving DecidableEq

inductive ButtonState where
  | released | pressed
deriving DecidableEq

-- The server table with the wlroots objects its handlers work on.
structure Server where
  surfaces : Nat → Surface
  trees : Nat → Tree
  nextTree : Nat
  tables : Nat → View
  views : List Nat
  cursorMode : CursorMode
  grabbedView : Option Nat
  grabX : Option Rat
  grabY : Option Rat
  grabGeobox : Option Box
  resizeEdges : Option (List String)
  lastButtonEvent : Option (BitVec 32 × ButtonState)
  cursorX : Rat
  cursorY : Rat
  focusedSurface : Option WlSurface

-- The tree of the scene itself.
def sceneRoot : Nat := 0

-- The server as `main` sets it up.
def start : Server where
  surfaces _ := ⟨.unborn,false,false,false,false,none,none,none⟩
  trees tree := ⟨decide (tree = sceneRoot),none,none,none⟩
  nextTree := 1
  tables _ := ⟨none,none,0,0⟩
  views := []
  cursorMode := .passthrough
  grabbedView := none
  grabX := none
  grabY := none
  grabGeobox := none
  resizeEdges := none
  lastButtonEvent := none
  cursorX := 0
  cursorY := 0
  focusedSurface := none

-- What wlroots answers the calls of one handler.
structure Answers where
  treeCreated : Bool
  subsurfaceTreeCreated : Bool
  -- taking the activation from the surface that had the focus
  deactivated : Res Unit
  keyboard : Bool
  -- a grab of the seat keeps the keyboard focus where it is
  seatGrab : Bool
  alt : Bool
  -- the parent tree of the buffer under the cursor, and its surface
  nodeAt : Option (Nat × WlSurface)
  pointerFocus : Option WlSurface
  rootSurface : WlSurface → Option WlSurface
  geometry : Box
  serial : BitVec 32

namespace Server

def setSurface (s : Server) (id : Nat) (change : Surface → Surface) : Server :=
  { s with surfaces := Function.update s.surfaces id (change (s.surfaces id)) }

def setTree (s : Server) (tree : Nat) (change : Tree → Tree) : Server :=
  { s with trees := Function.update s.trees tree (change (s.trees tree)) }

def setTable (s : Server) (view : Nat) (change : View → View) : Server :=
  { s with tables := Function.update s.tables view (change (s.tables view)) }

def grown (s : Server) (parent : Nat) (content : Option Nat) : Server :=
  { s with trees := Function.update s.trees s.nextTree ⟨true,some parent,none,content⟩, nextTree := s.nextTree + 1 }

def parentTree (s : Server) (tree : Nat) : Option Nat := (s.trees tree).parent

-- What the lives of surfaces and trees depend on.
@[ext] structure Scenery where
  surfaces : Nat → Surface
  trees : Nat → Tree
  nextTree : Nat
  sceneTree : Nat → Option Nat

def scenery (s : Server) : Scenery := ⟨s.surfaces,s.trees,s.nextTree,fun view => (s.tables view).sceneTree⟩

structure Grab where
  cursorMode : CursorMode
  grabbedView : Option Nat
  grabX : Option Rat
  grabY : Option Rat
  grabGeobox : Option Box
  resizeEdges : Option (List String)

def grab (s : Server) : Grab := ⟨s.cursorMode,s.grabbedView,s.grabX,s.grabY,s.grabGeobox,s.resizeEdges⟩

end Server

end Janetland.Tinyjl
