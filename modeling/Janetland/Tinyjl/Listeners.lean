import Janetland.Foundations.Rosters
import Janetland.Simulations
import Janetland.Tinyjl.Events

namespace Janetland.Tinyjl.Listeners
open Act

-- The tables that hold listeners: the views, and each scene-xw-surface with its tree.
inductive Owner where
  | toplevel (id : Nat)
  | xwayland (id : Nat)
  | scene (id tree : Nat)
deriving DecidableEq

-- The signals of a surface, of its toplevel and of the node of its tree.
inductive Signal where
  | map | unmap | destroy | requestConfigure | requestMove | requestResize | requestMinimize | requestMaximize
  | requestFullscreen | setOverrideRedirect | setGeometry | nodeDestroy
deriving DecidableEq

-- The wl-signal-add calls for an owner.
def added : Owner → List Signal
  | .toplevel _ => [.map,.unmap,.destroy,.requestMove,.requestResize,.requestMaximize,.requestFullscreen]
  | .xwayland _ => [.destroy,.requestConfigure,.requestMove,.requestResize,.requestMinimize,.requestMaximize,
    .requestFullscreen,.map,.unmap,.setOverrideRedirect,.setGeometry]
  | .scene .. => [.nodeDestroy,.destroy,.map,.unmap]

-- The wl-signal-remove calls of its destroy handler.
def removed : Owner → List Signal
  | .toplevel _ => [.map,.unmap,.destroy,.requestMove,.requestResize,.requestMaximize,.requestFullscreen]
  | .xwayland _ => [.destroy,.requestConfigure,.requestMove,.requestResize,.requestMinimize,.requestMaximize,
    .requestFullscreen,.map,.unmap,.setOverrideRedirect,.setGeometry]
  | .scene .. => [.nodeDestroy,.destroy,.map,.unmap]

-- The server, and the listeners that are linked into the signals of wlroots.
structure Ledger where
  server : Server
  listeners : List (Owner × Signal)

def start : Ledger := ⟨Tinyjl.start,[]⟩

-- An order in which wlroots may come by the nodes of a subtree.
structure Order where
  visit : List (Nat × Nat) → List (Nat × Nat)
  all : ∀ nodes, (visit nodes).Perm nodes

-- From the node on top to the one at the bottom.
def Order.topmost : Order := ⟨List.reverse,fun nodes => nodes.reverse_perm⟩

structure Turn where
  event : Event
  order : Order

def onServer (act : Act Server α) : Act Ledger α := on Ledger.server (fun t s => { s with server := t }) act

def bind (owner : Owner) : Act Ledger Unit :=
  modify fun s => { s with listeners := s.listeners ++ (added owner).map (owner,·) }

-- A listener that is not linked any more was freed.
def unbind (owner : Owner) : Act Ledger Unit := do
  let listeners ← look fun s => match Rosters.withdrawAll s.listeners owner (removed owner) with
    | some fewer => .ok fewer
    | none => .fault .badRead
  modify fun s => { s with listeners := listeners }

def sceneXwaylandSurfaceCreate (answers : Answers) (parent xwSurface : Nat) : Act Ledger (Nat × Nat) := do
  let data ← read fun s => (s.server.surfaces xwSurface).data
  let tree ← onServer (treeOf answers parent data)
  let surfaceTree ← onServer (wlrSceneSubsurfaceTreeCreate answers tree xwSurface)
  when data.isNone do
    bind (.scene xwSurface tree)
    onServer <| modify fun s => s.setSurface xwSurface fun surface => { surface with sceneXwSurface := some tree }
  return (tree,surfaceTree)

def putIntoScene (answers : Answers) (view : Nat) : Act Ledger Unit := do
  let parentTree ← onServer (look (parentTreeOf view))
  let made ← sceneXwaylandSurfaceCreate answers parentTree view
  onServer do
    modify fun s => s.setTable view fun table => { table with sceneTree := some made.1 }
    modify fun s => s.setTable view fun table => { table with surfaceTree := some made.2 }
    modify fun s => s.setSurface view fun surface => { surface with data := some made.1 }
    modify fun s => s.setTree made.1 fun tree => { tree with data := some view }

def handleSurfaceMap (answers : Answers) (view : Nat) : Act Ledger Unit := do
  onServer <| modify fun s => { s with views := s.views ++ [view] }
  let xwayland ← read fun s => (s.server.surfaces view).xwayland
  when xwayland (putIntoScene answers view)
  onServer (focusMapped answers view)

def handleXdgShellNewSurface (answers : Answers) (view : Nat) : Act Ledger Unit := do
  onServer (Tinyjl.handleXdgShellNewSurface answers view)
  bind (.toplevel view)

def handleXwaylandNewSurface (view : Nat) : Act Ledger Unit := do
  onServer (Tinyjl.handleXwaylandNewSurface view)
  bind (.xwayland view)

-- A listener is called while it is linked.
def notified (owner : Owner) (signal : Signal) (handler : Act Ledger Unit) : Act Ledger Unit := do
  let linked ← read fun s => decide ((owner,signal) ∈ s.listeners)
  when linked (callback handler)

def viewOf (s : Server) (id : Nat) : Owner := if (s.surfaces id).xwayland then .xwayland id else .toplevel id

-- The trees whose scene-xw-surface listens to a signal of a surface.
def scenes (listeners : List (Owner × Signal)) (id : Nat) (signal : Signal) : List Nat := listeners.filterMap fun
  | (.scene other tree,bound) => if other = id ∧ bound = signal then some tree else none
  | _ => none

-- A surface emits a signal: its view was bound before its scene-xw-surface, and what
-- is bound meanwhile is not called.
def emit (id : Nat) (signal : Signal) (handler : Act Ledger Unit) (sceneHandler : Nat → Act Ledger Unit) :
    Act Ledger Unit := do
  let present ← read fun s => scenes s.listeners id signal
  let view ← read fun s => viewOf s.server id
  notified view signal handler
  forEach (fun tree => notified (.scene id tree) signal (sceneHandler tree)) present

-- (wlr-scene-node-set-enabled ((scene-xw-surface :tree) :node) …)
def wlrSceneNodeSetEnabled (tree : Nat) : Act Ledger Unit := onServer (reach tree)

def dying (s : Ledger) (root : Nat) : List (Nat × Nat) := s.listeners.filterMap fun
  | (.scene id tree,.nodeDestroy) => if Forest.inside s.server.parentTree root tree then some (id,tree) else none
  | _ => none

def wlrSceneNodeDestroy (order : Order) (root : Nat) : Act Ledger Unit := do
  onServer (reach root)
  let nodes ← read fun s => order.visit (dying s root)
  forEach (fun node => notified (.scene node.1 node.2) .nodeDestroy (unbind (.scene node.1 node.2))) nodes
  onServer (Tinyjl.wlrSceneNodeDestroy root)

-- Both destroy handlers of the views.
def handleDestroy (view : Nat) : Act Ledger Unit := do
  let owner ← read fun s => viewOf s.server view
  unbind owner

def destroySurface (order : Order) (id : Nat) : Act Ledger Unit := do
  emit id .destroy (handleDestroy id) (wlrSceneNodeDestroy order)
  -- wlroots itself destroys the tree of an xdg surface
  let own ← read fun s => if (s.server.surfaces id).xwayland then none else (s.server.surfaces id).data
  own.elim (pure ()) (wlrSceneNodeDestroy order)
  onServer <| modify fun s => { s with surfaces := departed s id }

def perform (turn : Turn) : Act Ledger Unit := match turn.event with
  | .newXdgSurface answers id => do
    onServer <| modify fun s => s.setSurface id Surface.waking
    handleXdgShellNewSurface answers id
  | .newXwaylandSurface id wantsFocus => do
    onServer <| modify fun s => s.setSurface id fun surface =>
      { surface with life := .alive, xwayland := true, wantsFocus := wantsFocus }
    handleXwaylandNewSurface id
  | .map answers id => do
    onServer <| modify fun s => s.setSurface id Surface.mapping
    emit id .map (handleSurfaceMap answers id) wlrSceneNodeSetEnabled
  | .unmap answers id => do
    onServer <| modify fun s => s.setSurface id fun surface => { surface with mapped := false }
    emit id .unmap (onServer (handleSurfaceUnmap answers id)) wlrSceneNodeSetEnabled
  | .destroy id => destroySurface turn.order id
  | .requestMove answers id serial => emit id .requestMove
    (onServer <| byKind id (handleXdgToplevelRequestMove answers id serial)
      (handleXwaylandSurfaceRequestMove answers id))
    fun _ => pure ()
  | .requestResize answers id serial edges => emit id .requestResize
    (onServer <| byKind id (handleXdgToplevelRequestResize answers id serial edges)
      (handleXwaylandSurfaceRequestResize answers id edges))
    fun _ => pure ()
  | event => onServer (Tinyjl.perform event)

def step (s : Ledger) (turn : Turn) : Option Ledger :=
  if admits s.server turn.event then leaves (perform turn s) else none

end Janetland.Tinyjl.Listeners
