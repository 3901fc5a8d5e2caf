import Janetland.Tinyjl.Stage
import Janetland.Tinyjl.SceneSteps

namespace Janetland.Tinyjl.Stage
open Act

section
variable {large : Act Stage α} {small : Act Server α} {s : Stage} {answers : Answers} {id view : Nat}

theorem projects_on (small : Act Server α) : Projects server (onServer small) small :=
  Act.projects_on (fun _ _ => rfl) small

theorem projects_read (inspect : Server → α) : Projects server (read fun s => inspect s.server) (read inspect) :=
  Act.projects_read inspect

theorem projects_when {large : Act Stage Unit} {small : Act Server Unit} (first : Projects server large small) :
    Projects server (when condition large) (when condition small) := by
  cases condition with
  | true => exact first
  | false => exact projects_pure ()

theorem appear_projects (parent : Nat) (create : Act Server Nat) : Projects server (appear parent create) create := by
  intro s
  apply simulates_more
  exact simulates_mono (projects_on create s) (fun tree t _ => ⟨_,rfl,rfl,trivial⟩) fun _ _ => trivial

theorem treeOf_projects : Projects server (treeOf answers parent data) (Tinyjl.treeOf answers parent data) := by
  cases data with
  | none => exact appear_projects parent _
  | some tree => exact projects_pure tree

theorem setPosition_projects :
    Projects server (wlrSceneNodeSetPosition tree x y) (Tinyjl.wlrSceneNodeSetPosition tree x y) := by
  apply projects_noted (projects_on _)
  intro s
  cases tree <;> rfl

theorem nodeDestroy_projects : Projects server (wlrSceneNodeDestroy root) (Tinyjl.wlrSceneNodeDestroy root) :=
  projects_noted (projects_on _) fun _ => rfl

theorem raise_projects : Projects server (wlrSceneNodeRaiseToTop tree) (reach tree) :=
  projects_noted (projects_on _) fun _ => rfl

theorem focusView_projects : Projects server (focusView answers view surface) (Tinyjl.focusView answers view surface) := by
  apply projects_bind (projects_read _)
  intro prevSurface
  split
  · exact projects_pure ()
  · apply projects_bind (projects_when (projects_lift _))
    intro _
    apply projects_bind (projects_on _)
    intro sceneTree
    apply projects_bind raise_projects
    intro _
    apply projects_bind (projects_on _)
    intro _
    apply projects_bind (projects_read fun s => ownSurface s view)
    intro wlrSurface
    exact projects_on _

theorem focusMapped_projects : Projects server (focusMapped answers view) (Tinyjl.focusMapped answers view) := by
  apply projects_bind (projects_read fun s => unfocusable s view)
  intro skipped
  apply projects_bind (projects_on _)
  intro _
  apply projects_when
  apply projects_bind (projects_read fun s => ownSurface s view)
  intro wlrSurface
  exact focusView_projects

theorem focusLastView_projects : Projects server (focusLastView answers) (Tinyjl.focusLastView answers) := by
  apply projects_bind (projects_read fun s => s.views.getLast?)
  intro last
  cases last with
  | none => exact projects_pure ()
  | some nextView =>
      apply projects_bind (projects_read fun s => ownSurface s nextView)
      intro wlrSurface
      exact focusView_projects

theorem focusNextView_projects : Projects server (focusNextView answers) (Tinyjl.focusNextView answers) := by
  apply projects_bind (projects_read Server.views)
  intro views
  match views with
  | [] | [_] => exact projects_pure ()
  | nextView :: _ :: _ =>
      apply projects_bind (projects_read fun s => ownSurface s nextView)
      intro wlrSurface
      exact focusView_projects

theorem focusViewAt_projects : Projects server (focusViewAt answers) (Tinyjl.focusViewAt answers) := by
  apply projects_bind (projects_on _)
  intro found
  cases found with
  | none => exact projects_pure ()
  | some found =>
      apply projects_bind (projects_read fun s => unfocusable s found.1)
      intro skipped
      exact projects_when focusView_projects

theorem cursorButton_projects :
    Projects server (handleCursorButton answers button state) (Tinyjl.handleCursorButton answers button state) := by
  cases alt : answers.alt with
  | true =>
      unfold handleCursorButton
      rw [alt]
      exact projects_on _
  | false =>
      unfold handleCursorButton Tinyjl.handleCursorButton
      rw [alt]
      apply projects_bind (projects_on _)
      intro _
      cases state with
      | released => exact projects_on _
      | pressed => exact focusViewAt_projects

theorem unmap_projects : Projects server (handleSurfaceUnmap answers view) (Tinyjl.handleSurfaceUnmap answers view) := by
  apply projects_bind (projects_read Server.grabbedView)
  intro grabbedView
  apply projects_bind (projects_on _)
  intro _
  apply projects_bind (projects_on _)
  intro _
  exact focusLastView_projects

theorem newToplevel_projects :
    Projects server (handleXdgShellNewSurface answers view) (Tinyjl.handleXdgShellNewSurface answers view) := by
  apply projects_bind (appear_projects _ _)
  intro sceneTree
  exact projects_on _

theorem destroy_projects : Projects server (destroySurface id) (Tinyjl.destroySurface id) := by
  apply projects_bind (projects_read _)
  intro tree
  apply projects_bind
  · cases tree with
    | none => exact projects_pure ()
    | some tree => exact nodeDestroy_projects
  · intro _
    exact projects_on _

theorem listened_projects {large : Act Stage Unit} {small : Act Server Unit} (first : Projects server large small) :
    Projects server (listened id large) (Tinyjl.listened id small) := by
  apply projects_bind (projects_read fun s => (s.surfaces id).bound)
  intro bound
  exact projects_when first

theorem fits_word (x : BitVec 16) : fitsInt32 x.toInt = true := by
  have low := x.le_toInt
  have high := x.toInt_lt
  rw [fitsInt32,Bool.and_eq_true,decide_eq_true_eq,decide_eq_true_eq]
  unfold int32Min int32Max
  omega

-- The difference of two positions of windows is an argument that is accepted.
theorem coords_fit (s : Stage) (view : Nat) :
    fitsInt32 (xwLocalCoords view s).1 = true ∧ fitsInt32 (xwLocalCoords view s).2 = true := by
  have apart : ∀ x y : BitVec 16, fitsInt32 (x.toInt - y.toInt) = true := by
    intro x y
    have xLow := x.le_toInt
    have xHigh := x.toInt_lt
    have yLow := y.le_toInt
    have yHigh := y.toInt_lt
    rw [fitsInt32,Bool.and_eq_true,decide_eq_true_eq,decide_eq_true_eq]
    unfold int32Min int32Max
    omega
  unfold xwLocalCoords
  cases (s.server.surfaces view).parent with
  | none => exact ⟨fits_word _,fits_word _⟩
  | some xwParent => exact ⟨apart _ _,apart _ _⟩

def moved (s : Stage) (tree : Nat) (x y : Int) : Stage := { s with place := Function.update s.place tree (x,y) }

theorem position_ran (alive : (s.server.trees tree).alive = true) (fitsX : fitsInt32 x = true)
    (fitsY : fitsInt32 y = true) : wlrSceneNodeSetPosition (some tree) x y s = (.ok (),moved s tree x y) := by
  have checked : Tinyjl.wlrSceneNodeSetPosition (some tree) x y s.server = (.ok (),s.server) := by
    unfold Tinyjl.wlrSceneNodeSetPosition
    simp [bind_run,lift,needed,integerArgument,fitsX,fitsY,reach,look,alive]
  have first : onServer (Tinyjl.wlrSceneNodeSetPosition (some tree) x y) s = (.ok (),s) := by
    simp only [onServer,on,checked]
  unfold wlrSceneNodeSetPosition
  rw [bind_run,first]
  rfl

theorem subsurface_reached : Ensures (Tinyjl.wlrSceneSubsurfaceTreeCreate answers tree surface) t
    (fun _ u => (u.trees tree).alive = true) fun _ => True := by
  apply subsurface_ensures
  · intro _
    trivial
  · intro _ alive
    by_cases same : tree = t.nextTree
    · simp [Server.grown,same]
    · simp [Server.grown,same,alive]

theorem sceneCreate_projects : Projects server (sceneXwaylandSurfaceCreate answers parent view)
    (Tinyjl.sceneXwaylandSurfaceCreate answers parent view) := by
  apply projects_bind (projects_read fun s => (s.surfaces view).data)
  intro data
  apply projects_bind treeOf_projects
  intro tree s
  apply simulates_bind
  have reached := simulates_part (appear_projects tree (Tinyjl.wlrSceneSubsurfaceTreeCreate answers tree view) s)
    subsurface_reached
  apply simulates_mono reached _ fun _ _ => trivial
  rintro surfaceTree t ⟨_,alive⟩
  apply simulates_bind
  have listening : Ensures (when data.isNone <| modify fun s : Server =>
      s.setSurface view fun surface => { surface with sceneXwSurface := some tree }) t.server
      (fun _ u => (u.trees tree).alive = true) fun u => (u.trees tree).alive = true := by
    cases data <;> exact alive
  have bound : Projects server
      (when data.isNone <| onServer <| modify fun s =>
        s.setSurface view fun surface => { surface with sceneXwSurface := some tree })
      (when data.isNone <| modify fun s =>
        s.setSurface view fun surface => { surface with sceneXwSurface := some tree }) :=
    projects_when (projects_on _)
  apply simulates_mono (simulates_part (bound t) listening) _ fun _ _ => trivial
  rintro _ u ⟨_,alive⟩
  apply simulates_read
  obtain ⟨fitsX,fitsY⟩ := coords_fit u view
  exact simulates_aside (position_ran alive fitsX fitsY) rfl (simulates_pure trivial)

theorem putIntoScene_projects : Projects server (putIntoScene answers view) (Tinyjl.putIntoScene answers view) := by
  apply projects_bind (projects_on _)
  intro parentTree
  apply projects_bind sceneCreate_projects
  intro made
  exact projects_on _

theorem map_projects : Projects server (handleSurfaceMap answers view) (Tinyjl.handleSurfaceMap answers view) := by
  apply projects_bind (projects_on _)
  intro _
  apply projects_bind (projects_read fun s => (s.surfaces view).xwayland)
  intro xwayland
  apply projects_bind (projects_when putIntoScene_projects)
  intro _
  exact focusMapped_projects

-- A position that set-position took is one that configure takes.
theorem position_fits : Ensures (Tinyjl.wlrSceneNodeSetPosition tree x y) t
    (fun _ _ => fitsInt32 x = true ∧ fitsInt32 y = true) fun _ => True := by
  apply ensures_bind
  refine ensures_lift (fun _ _ => ?_) trivial
  apply ensures_bind
  refine ensures_lift (fun _ first => ?_) trivial
  apply ensures_bind
  refine ensures_lift (fun _ second => ?_) trivial
  apply reach_ensures
  intro _
  exact ⟨checked_fits first,checked_fits second⟩

theorem configure_ran (fitsX : fitsInt32 x = true) (fitsY : fitsInt32 y = true) :
    wlrXwaylandSurfaceConfigure view x y s = (.ok (),{ s with
      window := Function.update s.window view (BitVec.ofInt 16 x,BitVec.ofInt 16 y) }) := by
  unfold wlrXwaylandSurfaceConfigure
  simp [bind_run,lift,integerArgument,fitsX,fitsY,Act.modify]

theorem positioned {next : Unit → Act Stage α} {onward : Unit → Act Server α} (later : fitsInt32 x = true →
    fitsInt32 y = true → Projects server (next ()) (onward ())) :
    Projects server (wlrSceneNodeSetPosition tree x y >>= next) (Tinyjl.wlrSceneNodeSetPosition tree x y >>= onward) := by
  intro s
  apply simulates_bind
  have fits : Ensures (Tinyjl.wlrSceneNodeSetPosition tree x y) s.server
      (fun _ _ => fitsInt32 x = true ∧ fitsInt32 y = true) fun _ => True := position_fits
  have placed : Projects server (wlrSceneNodeSetPosition tree x y) (Tinyjl.wlrSceneNodeSetPosition tree x y) :=
    setPosition_projects
  apply simulates_mono (simulates_part (placed s) fits) _ fun _ _ => trivial
  rintro _ t ⟨_,fitsX,fitsY⟩
  exact later fitsX fitsY t

theorem cursorMove_projects : Projects server processCursorMove Tinyjl.processCursorMove := by
  apply projects_bind (projects_on _)
  intro grabX
  apply projects_bind (projects_on _)
  intro view
  apply projects_bind (projects_on _)
  intro _
  apply projects_bind (projects_on _)
  intro grabY
  apply projects_bind (projects_on _)
  intro _
  apply projects_bind (projects_read fun s => s.tables view)
  intro table
  apply positioned
  intro fitsX fitsY
  apply projects_bind (projects_read fun s => (s.surfaces view).xwayland)
  intro xwayland
  apply projects_when
  intro s
  apply simulates_bind
  apply simulates_mono (projects_on _ s) _ fun _ _ => trivial
  intro _ t _
  exact simulates_ended (configure_ran fitsX fitsY) rfl trivial

theorem cursorResize_projects : Projects server (processCursorResize answers) (Tinyjl.processCursorResize answers) := by
  apply projects_bind (projects_on _)
  intro view
  apply projects_bind (projects_on _)
  intro borderX
  apply projects_bind (projects_on _)
  intro borderY
  apply projects_bind (projects_on _)
  intro geobox
  apply projects_bind (projects_on _)
  intro edges
  apply projects_bind (projects_on _)
  intro geoBox
  apply projects_bind (projects_on _)
  intro _
  apply projects_bind (projects_on _)
  intro _
  apply projects_bind (projects_read fun s => s.tables view)
  intro table
  apply positioned
  intro fitsX fitsY
  apply projects_bind (projects_read fun s => (s.surfaces view).xwayland)
  intro xwayland s
  apply simulates_more
  refine simulates_mono (projects_lift _ s) ?_ fun _ _ => trivial
  intro size t _
  cases xwayland with
  | false => exact ⟨t,rfl,rfl,trivial⟩
  | true =>
      have ran : (wlrXwaylandSurfaceConfigure view table.x table.y >>= fun _ => pure size) t = (.ok size,{ t with
          window := Function.update t.window view (BitVec.ofInt 16 table.x,BitVec.ofInt 16 table.y) }) := by
        rw [bind_run,configure_ran fitsX fitsY]
        rfl
      exact ⟨_,ran,rfl,trivial⟩

theorem cursorMotion_projects : Projects server (handleCursorMotion answers x y) (Tinyjl.handleCursorMotion answers x y) := by
  apply projects_bind (projects_on _)
  intro _
  apply projects_bind (projects_read Server.cursorMode)
  intro mode
  cases mode with
  | move => exact cursorMove_projects
  | resize =>
      apply projects_bind cursorResize_projects
      intro _
      exact projects_pure ()
  | passthrough =>
      apply projects_bind (projects_on _)
      intro _
      exact projects_pure ()

-- What an event of the desktop does to the server is what it does there alone.
theorem desktop_projects (event : Tinyjl.Event) : Projects server (performDesktop event) (Tinyjl.perform event) := by
  cases event with
  | newXdgSurface answers id =>
      apply projects_bind (projects_on _)
      intro _
      exact newToplevel_projects
  | map answers id =>
      apply projects_bind (projects_on _)
      intro _
      exact listened_projects map_projects
  | unmap answers id =>
      apply projects_bind (projects_on _)
      intro _
      exact listened_projects unmap_projects
  | destroy id => exact destroy_projects
  | cursorMotion answers x y => exact cursorMotion_projects
  | cursorButton answers button state => exact cursorButton_projects
  | keyF1 answers => exact focusNextView_projects
  | newXwaylandSurface id wantsFocus => exact projects_on _
  | setParent id parent => exact projects_on _
  | setWantsFocus id wantsFocus => exact projects_on _
  | requestMove answers id serial => exact projects_on _
  | requestResize answers id serial edges => exact projects_on _
  | modifiers => exact projects_on _
  | keyboardFocus surface => exact projects_on _

end

end Janetland.Tinyjl.Stage
