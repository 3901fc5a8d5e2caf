import Janetland.Simulations
import Janetland.Tinyjl.Grabs

namespace Janetland.Tinyjl
open Act

-- The server with what it told the clients of its views last: whether they are activated.
structure Activation where
  server : Server
  told : Nat → Bool

namespace Activation

def start : Activation := ⟨Tinyjl.start,fun _ => false⟩

def onServer (act : Act Server α) : Act Activation α := on Activation.server (fun t s => { s with server := t }) act

-- wlr-xdg-toplevel-set-activated and wlr-xwayland-surface-activate.
def tell (view : Nat) (activated : Bool) (s : Activation) : Activation :=
  { s with told := Function.update s.told view activated }

-- The surface with the focus need not be that of a view.
def silence : WlSurface → Activation → Activation
  | .main view,s => s.tell view false
  | .other _,s => s

def deactivate (answers : Answers) (previous : WlSurface) : Act Activation Unit := do
  lift answers.deactivated
  modify (silence previous)

-- Move the view to the front of the list, if it's focusable.
def toFront (view : Nat) (s : Server) : Server :=
  if contains s.views view then { s with views := removeElement s.views view ++ [view] } else s

-- The end of focus-view, for the surface of the view.
def enter (answers : Answers) (wlrSurface : Option WlSurface) : Act Server Unit := when answers.keyboard do
  let wlrSurface ← lift (wlrSurface.elim (nilArgument 1 "wlr/wlr-surface") .ok)
  when (!answers.seatGrab) <| modify fun s => { s with focusedSurface := some wlrSurface }

-- From the raised node on, focus-view gives the view the activation and then the focus.
def activate (answers : Answers) (view : Nat) : Act Activation Unit := do
  onServer (modify (toFront view))
  modify (tell view true)
  let wlrSurface ← read fun s => ownSurface s.server view
  onServer (enter answers wlrSurface)

def focusView (answers : Answers) (view : Nat) (surface : Option WlSurface) : Act Activation Unit := do
  let prevSurface ← read fun s => s.server.focusedSurface
  if prevSurface = surface then pure ()
  else do
    prevSurface.elim (pure ()) (deactivate answers)
    let sceneTree ← onServer (look fun s => needed (s.tables view).sceneTree)
    onServer (reach sceneTree)
    activate answers view

def focusMapped (answers : Answers) (view : Nat) : Act Activation Unit := do
  let skipped ← read fun s => unfocusable s.server view
  onServer <| when skipped <| modify fun s => { s with views := s.views.dropLast }
  when (!skipped) do
    let wlrSurface ← read fun s => ownSurface s.server view
    focusView answers view wlrSurface

def handleSurfaceMap (answers : Answers) (view : Nat) : Act Activation Unit := do
  onServer <| modify fun s => { s with views := s.views ++ [view] }
  let xwayland ← read fun s => (s.server.surfaces view).xwayland
  onServer <| when xwayland (putIntoScene answers view)
  focusMapped answers view

def focusLastView (answers : Answers) : Act Activation Unit := do
  let last ← read fun s => s.server.views.getLast?
  match last with
  | none => pure ()
  | some nextView => do
    let wlrSurface ← read fun s => ownSurface s.server nextView
    focusView answers nextView wlrSurface

def handleSurfaceUnmap (answers : Answers) (view : Nat) : Act Activation Unit := do
  let grabbedView ← read fun s => s.server.grabbedView
  onServer <| when (decide (grabbedView = some view)) resetCursorMode
  onServer <| modify fun s => { s with views := removeElement s.views view }
  focusLastView answers

def focusViewAt (answers : Answers) : Act Activation Unit := do
  let found ← onServer (desktopViewAt answers)
  match found with
  | none => pure ()
  | some (view,surface) => do
    let skipped ← read fun s => unfocusable s.server view
    when (!skipped) (focusView answers view (some surface))

def handleCursorButton (answers : Answers) (button : Nat) (state : ButtonState) : Act Activation Unit :=
  if answers.alt then onServer (Tinyjl.handleCursorButton answers button state)
  else do
    onServer <| modify fun s => { s with lastButtonEvent := some (answers.serial,state) }
    match state with
    | .released => onServer resetCursorMode
    | .pressed => focusViewAt answers

def focusNextView (answers : Answers) : Act Activation Unit := do
  let views ← read fun s => s.server.views
  match views with
  | nextView :: _ :: _ => do
    let wlrSurface ← read fun s => ownSurface s.server nextView
    focusView answers nextView wlrSurface
  | _ => pure ()

def listened (id : Nat) (handler : Act Activation Unit) : Act Activation Unit := do
  let bound ← read fun s => (s.server.surfaces id).bound
  when bound handler

def perform : Event → Act Activation Unit
  | .map answers id => do
    onServer <| modify fun s => s.setSurface id Surface.mapping
    listened id (handleSurfaceMap answers id)
  | .unmap answers id => do
    onServer <| modify fun s => s.setSurface id fun surface => { surface with mapped := false }
    listened id (handleSurfaceUnmap answers id)
  | .cursorButton answers button state => handleCursorButton answers button state
  | .keyF1 answers => focusNextView answers
  | event => onServer (Tinyjl.perform event)

def step (s : Activation) (event : Event) : Option Activation :=
  if admits s.server event then leaves (perform event s) else none

section
variable {large : Act Activation α} {small : Act Server α} {answers : Answers} {view id : Nat}

theorem projects_on (small : Act Server α) : Projects server (onServer small) small :=
  Act.projects_on (fun _ _ => rfl) small

theorem projects_read (inspect : Server → α) : Projects server (read fun s => inspect s.server) (read inspect) :=
  Act.projects_read inspect

theorem projects_when {large : Act Activation Unit} {small : Act Server Unit} (first : Projects server large small) :
    Projects server (when condition large) (when condition small) := by
  cases condition with
  | true => exact first
  | false => exact projects_pure ()

theorem silence_server (previous : WlSurface) (s : Activation) : (silence previous s).server = s.server := by
  cases previous <;> rfl

theorem deactivate_projects (previous : Option WlSurface) :
    Projects server (previous.elim (pure ()) (deactivate answers)) (when previous.isSome (lift answers.deactivated)) := by
  cases previous with
  | none => exact projects_pure ()
  | some previous => exact projects_noted (projects_lift _) (silence_server previous)

theorem focusView_projects : Projects server (focusView answers view surface) (Tinyjl.focusView answers view surface) := by
  apply projects_bind (projects_read _)
  intro prevSurface
  split
  · exact projects_pure ()
  · apply projects_bind (deactivate_projects prevSurface)
    intro _
    apply projects_bind (projects_on _)
    intro sceneTree
    apply projects_bind (projects_on _)
    intro _
    apply projects_bind (projects_on _)
    intro _
    refine projects_aside (fun _ => rfl) ?_
    apply projects_bind (projects_read fun s => ownSurface s view)
    intro wlrSurface
    exact projects_on _

theorem focusMapped_projects : Projects server (focusMapped answers view) (Tinyjl.focusMapped answers view) := by
  apply projects_bind (projects_read fun s => unfocusable s view)
  intro skipped
  apply projects_bind (projects_on _)
  intro _
  apply projects_when
  apply projects_bind (projects_read fun s => ownSurface s view)
  intro wlrSurface
  exact focusView_projects

theorem map_projects : Projects server (handleSurfaceMap answers view) (Tinyjl.handleSurfaceMap answers view) := by
  apply projects_bind (projects_on _)
  intro _
  apply projects_bind (projects_read fun s => (s.surfaces view).xwayland)
  intro xwayland
  apply projects_bind (projects_on _)
  intro _
  exact focusMapped_projects

theorem focusLastView_projects : Projects server (focusLastView answers) (Tinyjl.focusLastView answers) := by
  apply projects_bind (projects_read fun s => s.views.getLast?)
  intro last
  cases last with
  | none => exact projects_pure ()
  | some nextView =>
      apply projects_bind (projects_read fun s => ownSurface s nextView)
      intro wlrSurface
      exact focusView_projects

theorem unmap_projects : Projects server (handleSurfaceUnmap answers view) (Tinyjl.handleSurfaceUnmap answers view) := by
  apply projects_bind (projects_read Server.grabbedView)
  intro grabbedView
  apply projects_bind (projects_on _)
  intro _
  apply projects_bind (projects_on _)
  intro _
  exact focusLastView_projects

theorem focusViewAt_projects : Projects server (focusViewAt answers) (Tinyjl.focusViewAt answers) := by
  apply projects_bind (projects_on _)
  intro found
  cases found with
  | none => exact projects_pure ()
  | some found =>
      apply projects_bind (projects_read fun s => unfocusable s found.1)
      intro skipped
      exact projects_when focusView_projects

theorem cursorButton_projects :
    Projects server (handleCursorButton answers button state) (Tinyjl.handleCursorButton answers button state) := by
  unfold handleCursorButton Tinyjl.handleCursorButton
  cases alt : answers.alt with
  | true =>
      have whole := projects_on (Tinyjl.handleCursorButton answers button state)
      unfold Tinyjl.handleCursorButton at whole
      rw [alt] at whole
      exact whole
  | false =>
      apply projects_bind (projects_on _)
      intro _
      cases state with
      | released => exact projects_on _
      | pressed => exact focusViewAt_projects

theorem focusNextView_projects : Projects server (focusNextView answers) (Tinyjl.focusNextView answers) := by
  apply projects_bind (projects_read Server.views)
  intro views
  match views with
  | [] | [_] => exact projects_pure ()
  | nextView :: _ :: _ =>
      apply projects_bind (projects_read fun s => ownSurface s nextView)
      intro wlrSurface
      exact focusView_projects

theorem listened_projects {large : Act Activation Unit} {small : Act Server Unit}
    (first : Projects server large small) : Projects server (listened id large) (Tinyjl.listened id small) := by
  apply projects_bind (projects_read fun s => (s.surfaces id).bound)
  intro bound
  exact projects_when first

theorem perform_projects (event : Event) : Projects server (perform event) (Tinyjl.perform event) := by
  cases event with
  | map answers id =>
      apply projects_bind (projects_on _)
      intro _
      exact listened_projects map_projects
  | unmap answers id =>
      apply projects_bind (projects_on _)
      intro _
      exact listened_projects unmap_projects
  | cursorButton answers button state => exact cursorButton_projects
  | keyF1 answers => exact focusNextView_projects
  | newXdgSurface | newXwaylandSurface | setParent | setWantsFocus | destroy | requestMove | requestResize
  | cursorMotion | modifiers | keyboardFocus => exact projects_on _

end

end Activation

end Janetland.Tinyjl
