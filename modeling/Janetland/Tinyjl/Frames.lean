import Janetland.Tinyjl.Events

namespace Janetland.Tinyjl
open Act

variable {part : Server → γ} {answers : Answers} {id : Nat}

theorem keeps_when {act : Act Server Unit} (kept : Keeps part act) : Keeps part (when condition act) := by
  unfold when
  split
  · exact kept
  · exact keeps_pure ()

theorem reach_keeps : Keeps part (reach tree) := keeps_look _

theorem setPosition_keeps : Keeps part (wlrSceneNodeSetPosition tree x y) := by
  apply keeps_bind (keeps_lift _)
  intro tree
  apply keeps_bind (keeps_lift _)
  intro _
  apply keeps_bind (keeps_lift _)
  intro _
  exact reach_keeps

theorem desktopViewAt_keeps : Keeps part (desktopViewAt answers) := by
  unfold desktopViewAt
  split
  · exact keeps_pure none
  · apply keeps_bind reach_keeps
    intro _
    apply keeps_bind (keeps_look _)
    intro view
    exact keeps_pure _

theorem resetCursorMode_keeps : Keeps (fun s => (s.scenery,s.views)) resetCursorMode := by
  apply keeps_bind
  · exact keeps_modify fun _ => rfl
  · intro _
    exact keeps_modify fun _ => rfl

theorem focusView_keeps : Keeps (fun s => (s.scenery,s.grab)) (focusView answers view surface) := by
  apply keeps_bind (keeps_read _)
  intro prevSurface
  split
  · exact keeps_pure ()
  · apply keeps_bind (keeps_when (keeps_lift _))
    intro _
    apply keeps_bind (keeps_look _)
    intro sceneTree
    apply keeps_bind reach_keeps
    intro _
    apply keeps_bind
    · apply keeps_modify
      intro s
      split <;> rfl
    intro _
    apply keeps_bind (keeps_read _)
    intro wlrSurface
    apply keeps_when
    apply keeps_bind (keeps_lift _)
    intro wlrSurface
    exact keeps_when (keeps_modify fun _ => rfl)

theorem recordGrab_keeps : Keeps (fun s => (s.scenery,s.views)) (recordGrab answers view edges mode) := by
  cases mode with
  | passthrough => exact keeps_pure ()
  | move =>
      refine keeps_bind (keeps_modify fun _ => rfl) fun _ => ?_
      exact keeps_modify fun _ => rfl
  | resize =>
      apply keeps_bind (keeps_look _)
      intro geoBox
      refine keeps_bind (keeps_modify fun _ => rfl) fun _ => ?_
      refine keeps_bind (keeps_modify fun _ => rfl) fun _ => ?_
      apply keeps_bind (keeps_look _)
      intro x
      apply keeps_bind (keeps_look _)
      intro y
      refine keeps_bind (keeps_modify fun _ => rfl) fun _ => ?_
      exact keeps_modify fun _ => rfl

theorem beginInteractive_keeps :
    Keeps (fun s => (s.scenery,s.views)) (beginInteractive answers view mode edges) := by
  apply keeps_bind (keeps_lift _)
  intro view
  apply keeps_bind (keeps_read _)
  intro viewSurface
  apply keeps_bind (keeps_lift _)
  intro focusedSurface
  split
  · exact keeps_pure ()
  · refine keeps_bind (keeps_modify fun _ => rfl) fun _ => ?_
    refine keeps_bind (keeps_modify fun _ => rfl) fun _ => ?_
    exact recordGrab_keeps

-- Moving a view changes its position only.
theorem moved_sceneTree (s : Server) (view : Nat) {change : View → View}
    (kept : (change (s.tables view)).sceneTree = (s.tables view).sceneTree) :
    (s.setTable view change).scenery = s.scenery := by
  unfold Server.scenery Server.setTable
  congr 1
  funext other
  by_cases same : other = view
  · subst same
    simpa using kept
  · simp [same]

theorem moved_keeps {change : Server → View → View}
    (kept : ∀ s table, (change s table).sceneTree = table.sceneTree) :
    Keeps (fun s : Server => (s.scenery,s.views,s.grab)) (modify fun s => s.setTable view (change s)) := by
  apply keeps_modify
  intro s
  have same := moved_sceneTree s view (kept s (s.tables view))
  simp only [same]
  rfl

theorem processCursorMove_keeps : Keeps (fun s => (s.scenery,s.views,s.grab)) processCursorMove := by
  apply keeps_bind (keeps_look _)
  intro grabX
  apply keeps_bind (keeps_look _)
  intro view
  refine keeps_bind (moved_keeps fun _ _ => rfl) fun _ => ?_
  apply keeps_bind (keeps_look _)
  intro grabY
  refine keeps_bind (moved_keeps fun _ _ => rfl) fun _ => ?_
  apply keeps_bind (keeps_read _)
  intro table
  apply keeps_bind setPosition_keeps
  intro _
  apply keeps_bind (keeps_read _)
  intro xwayland
  apply keeps_when
  apply keeps_bind (keeps_look _)
  intro surface
  exact keeps_pure ()

theorem processCursorResize_keeps :
    Keeps (fun s => (s.scenery,s.views,s.grab)) (processCursorResize answers) := by
  apply keeps_bind (keeps_look _)
  intro view
  apply keeps_bind (keeps_look _)
  intro borderX
  apply keeps_bind (keeps_look _)
  intro borderY
  apply keeps_bind (keeps_look _)
  intro geobox
  apply keeps_bind (keeps_look _)
  intro edges
  apply keeps_bind (keeps_look _)
  intro geoBox
  refine keeps_bind (moved_keeps fun _ _ => rfl) fun _ => ?_
  refine keeps_bind (moved_keeps fun _ _ => rfl) fun _ => ?_
  apply keeps_bind (keeps_read _)
  intro table
  apply keeps_bind setPosition_keeps
  intro _
  apply keeps_bind (keeps_read _)
  intro xwayland
  exact keeps_lift _

theorem handleCursorMotion_keeps :
    Keeps (fun s => (s.scenery,s.views,s.grab)) (handleCursorMotion answers x y) := by
  refine keeps_bind (keeps_modify fun _ => rfl) fun _ => ?_
  apply keeps_bind (keeps_read _)
  intro mode
  cases mode with
  | passthrough =>
      apply keeps_bind desktopViewAt_keeps
      intro _
      exact keeps_pure ()
  | move => exact processCursorMove_keeps
  | resize =>
      apply keeps_bind processCursorResize_keeps
      intro _
      exact keeps_pure ()

theorem focusMapped_keeps : Keeps (fun s => (s.scenery,s.grab)) (focusMapped answers view) := by
  apply keeps_bind (keeps_read _)
  intro skipped
  refine keeps_bind (keeps_when (keeps_modify fun _ => rfl)) fun _ => ?_
  apply keeps_when
  apply keeps_bind (keeps_read _)
  intro wlrSurface
  exact focusView_keeps

-- The handlers that choose a view and focus it leave what focus-view leaves.
section
variable (kept : ∀ view surface, Keeps part (focusView answers view surface))
include kept

theorem focusLastView_through : Keeps part (focusLastView answers) := by
  apply keeps_bind (keeps_read _)
  intro last
  cases last with
  | none => exact keeps_pure ()
  | some nextView =>
      apply keeps_bind (keeps_read _)
      intro wlrSurface
      exact kept nextView wlrSurface

theorem focusViewAt_through : Keeps part (focusViewAt answers) := by
  apply keeps_bind desktopViewAt_keeps
  intro found
  cases found with
  | none => exact keeps_pure ()
  | some under =>
      apply keeps_bind (keeps_read _)
      intro skipped
      exact keeps_when (kept under.1 (some under.2))

theorem focusNextView_through : Keeps part (focusNextView answers) := by
  apply keeps_bind (keeps_read _)
  intro views
  split
  · apply keeps_bind (keeps_read _)
    intro wlrSurface
    exact kept _ wlrSurface
  · exact keeps_pure ()

end

theorem focusLastView_keeps : Keeps (fun s => (s.scenery,s.grab)) (focusLastView answers) :=
  focusLastView_through fun _ _ => focusView_keeps

theorem focusViewAt_keeps : Keeps (fun s => (s.scenery,s.grab)) (focusViewAt answers) :=
  focusViewAt_through fun _ _ => focusView_keeps

theorem focusNextView_keeps : Keeps (fun s => (s.scenery,s.grab)) (focusNextView answers) :=
  focusNextView_through fun _ _ => focusView_keeps

theorem handleSurfaceUnmap_keeps : Keeps Server.scenery (handleSurfaceUnmap answers view) := by
  apply keeps_bind (keeps_read _)
  intro grabbedView
  apply keeps_bind (keeps_when (keeps_view resetCursorMode_keeps Prod.fst))
  intro _
  refine keeps_bind (keeps_modify fun _ => rfl) fun _ => ?_
  exact keeps_view focusLastView_keeps Prod.fst

theorem listened_keeps {handler : Act Server Unit} (kept : Keeps part handler) :
    Keeps part (listened id handler) := by
  apply keeps_bind (keeps_read _)
  intro bound
  exact keeps_when kept

theorem byKind_keeps {xdg xwayland : Act Server Unit} (first : Keeps part xdg) (second : Keeps part xwayland) :
    Keeps part (byKind id xdg xwayland) := by
  apply keeps_bind (keeps_read _)
  intro kind
  split
  · exact second
  · exact first

theorem handleXdgToplevelRequest_keeps :
    Keeps (fun s => (s.scenery,s.views)) (handleXdgToplevelRequest mode answers view serial edges) := by
  apply keeps_bind (keeps_read _)
  intro lastBtnEvent
  cases lastBtnEvent with
  | none => exact keeps_pure ()
  | some last => exact keeps_when beginInteractive_keeps

theorem handleXwaylandSurfaceRequest_keeps :
    Keeps (fun s => (s.scenery,s.views)) (handleXwaylandSurfaceRequest mode answers view edges) := by
  apply keeps_bind (keeps_read _)
  intro mapped
  exact keeps_when beginInteractive_keeps

theorem requestMove_keeps :
    Keeps (fun s => (s.scenery,s.views)) (perform (.requestMove answers id serial)) := by
  apply listened_keeps
  exact byKind_keeps handleXdgToplevelRequest_keeps handleXwaylandSurfaceRequest_keeps

theorem requestResize_keeps :
    Keeps (fun s => (s.scenery,s.views)) (perform (.requestResize answers id serial edges)) := by
  apply listened_keeps
  exact byKind_keeps handleXdgToplevelRequest_keeps handleXwaylandSurfaceRequest_keeps

-- A button press begins an interaction or focuses a view, a release ends an interaction.
theorem handleCursorButton_through (reset : Keeps part resetCursorMode)
    (begun : ∀ view mode edges, Keeps part (beginInteractive answers view mode edges))
    (focused : Keeps part (focusViewAt answers))
    (noted : ∀ s event, part { s with lastButtonEvent := event } = part s) :
    Keeps part (handleCursorButton answers button state) := by
  unfold handleCursorButton
  split
  · cases state with
    | released => exact reset
    | pressed =>
        apply keeps_bind desktopViewAt_keeps
        intro found
        split
        · exact begun _ _ _
        · split
          · exact begun _ _ _
          · exact keeps_pure ()
  · refine keeps_bind (keeps_modify fun s => noted s _) fun _ => ?_
    cases state with
    | released => exact reset
    | pressed => exact focused

theorem handleCursorButton_keeps : Keeps Server.scenery (handleCursorButton answers button state) := by
  apply handleCursorButton_through
  · exact keeps_view resetCursorMode_keeps Prod.fst
  · exact fun _ _ _ => keeps_view beginInteractive_keeps Prod.fst
  · exact keeps_view focusViewAt_keeps Prod.fst
  · exact fun _ _ => rfl

-- Interactions touch neither the views' tables nor the keyboard focus.
theorem recordGrab_apart : Keeps (fun s => (s.tables,s.focusedSurface)) (recordGrab answers view edges mode) := by
  cases mode with
  | passthrough => exact keeps_pure ()
  | move =>
      refine keeps_bind (keeps_modify fun _ => rfl) fun _ => ?_
      exact keeps_modify fun _ => rfl
  | resize =>
      apply keeps_bind (keeps_look _)
      intro geoBox
      refine keeps_bind (keeps_modify fun _ => rfl) fun _ => ?_
      refine keeps_bind (keeps_modify fun _ => rfl) fun _ => ?_
      apply keeps_bind (keeps_look _)
      intro x
      apply keeps_bind (keeps_look _)
      intro y
      refine keeps_bind (keeps_modify fun _ => rfl) fun _ => ?_
      exact keeps_modify fun _ => rfl

theorem beginInteractive_apart :
    Keeps (fun s => (s.tables,s.focusedSurface)) (beginInteractive answers view mode edges) := by
  apply keeps_bind (keeps_lift _)
  intro view
  apply keeps_bind (keeps_read _)
  intro viewSurface
  apply keeps_bind (keeps_lift _)
  intro focusedSurface
  split
  · exact keeps_pure ()
  · refine keeps_bind (keeps_modify fun _ => rfl) fun _ => ?_
    refine keeps_bind (keeps_modify fun _ => rfl) fun _ => ?_
    exact recordGrab_apart

theorem resetCursorMode_apart : Keeps (fun s => (s.tables,s.focusedSurface)) resetCursorMode := by
  refine keeps_bind (keeps_modify fun _ => rfl) fun _ => ?_
  exact keeps_modify fun _ => rfl

-- The requests of the clients for an interaction.
theorem interactive_apart : Keeps (fun s => (s.tables,s.focusedSurface)) (listened id (byKind id
    (handleXdgToplevelRequest mode answers id serial edges) (handleXwaylandSurfaceRequest mode answers id edges))) := by
  apply listened_keeps
  apply byKind_keeps
  · apply keeps_bind (keeps_read _)
    intro lastBtnEvent
    cases lastBtnEvent with
    | none => exact keeps_pure ()
    | some last => exact keeps_when beginInteractive_apart
  · apply keeps_bind (keeps_read _)
    intro mapped
    exact keeps_when beginInteractive_apart

end Janetland.Tinyjl
