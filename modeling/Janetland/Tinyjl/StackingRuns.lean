import Janetland.Tinyjl.Stacking

namespace Janetland.Tinyjl.Stage
open Act EventRuns Arrangements
open Server (Scenery)
open Toggles (Mode)

section
variable {s t : Stage} {answers : Answers} {view id : Nat}

theorem whole_when {act : Act Stage Unit} (kept : Keeps whole act) : Keeps whole (when condition act) := by
  cases condition with
  | true => exact kept
  | false => exact keeps_pure ()

theorem whole_look (inspect : Server → Res α) : Keeps whole (onServer (look inspect)) := whole_on (keeps_look inspect)

theorem whole_table {change : Server → View → View} (kept : ∀ s table, (change s table).sceneTree = table.sceneTree) :
    Keeps whole (putTable view change) :=
  whole_on (keeps_view (moved_keeps kept) fun kept => (kept.1,kept.2.1))

theorem whole_position : Keeps whole (wlrSceneNodeSetPosition tree x y) := by
  apply keeps_bind (whole_on setPosition_keeps)
  intro _
  apply keeps_modify
  intro s
  cases tree <;> rfl

theorem whole_configure : Keeps whole (wlrXwaylandSurfaceConfigure view x y) := by
  apply keeps_bind (keeps_lift _)
  intro _
  apply keeps_bind (keeps_lift _)
  intro _
  exact keeps_modify fun _ => rfl

theorem whole_move : Keeps whole processCursorMove := by
  apply keeps_bind (whole_look _)
  intro grabX
  apply keeps_bind (whole_look _)
  intro view
  refine keeps_bind (whole_table fun _ _ => rfl) fun _ => ?_
  apply keeps_bind (whole_look _)
  intro grabY
  refine keeps_bind (whole_table fun _ _ => rfl) fun _ => ?_
  apply keeps_bind (keeps_read _)
  intro table
  apply keeps_bind whole_position
  intro _
  apply keeps_bind (keeps_read _)
  intro xwayland
  apply whole_when
  apply keeps_bind (whole_look _)
  intro _
  exact whole_configure

theorem whole_resize : Keeps whole (processCursorResize answers) := by
  apply keeps_bind (whole_look _)
  intro view
  apply keeps_bind (whole_look _)
  intro borderX
  apply keeps_bind (whole_look _)
  intro borderY
  apply keeps_bind (whole_look _)
  intro geobox
  apply keeps_bind (whole_look _)
  intro edges
  apply keeps_bind (whole_look _)
  intro geoBox
  refine keeps_bind (whole_table fun _ _ => rfl) fun _ => ?_
  refine keeps_bind (whole_table fun _ _ => rfl) fun _ => ?_
  apply keeps_bind (keeps_read _)
  intro table
  apply keeps_bind whole_position
  intro _
  apply keeps_bind (keeps_read _)
  intro xwayland
  apply keeps_bind (keeps_lift _)
  intro size
  apply keeps_bind (whole_when whole_configure)
  intro _
  exact keeps_pure _

theorem whole_motion : Keeps whole (handleCursorMotion answers x y) := by
  refine keeps_bind (whole_on (keeps_modify fun _ => rfl)) fun _ => ?_
  apply keeps_bind (keeps_read _)
  intro mode
  cases mode with
  | move => exact whole_move
  | resize =>
      apply keeps_bind whole_resize
      intro _
      exact keeps_pure ()
  | passthrough =>
      apply keeps_bind (whole_on desktopViewAt_keeps)
      intro _
      exact keeps_pure ()

theorem whole_placed : Keeps whole (placed view x y) := by
  refine keeps_bind (whole_table fun _ _ => rfl) fun _ => ?_
  exact whole_table fun _ _ => rfl

theorem whole_listened {handler : Act Stage Unit} (kept : Keeps whole handler) : Keeps whole (listened id handler) := by
  apply keeps_bind (keeps_read _)
  intro bound
  exact whole_when kept

theorem whole_requestConfigure : Keeps whole (handleXwaylandSurfaceRequestConfigure view x y) := by
  apply keeps_bind whole_configure
  intro _
  apply keeps_bind (keeps_read _)
  intro shown
  apply whole_when
  apply keeps_bind whole_placed
  intro _
  apply keeps_bind (keeps_read _)
  intro sceneTree
  exact whole_position

theorem whole_setGeometry : Keeps whole (handleXwaylandSurfaceSetGeometry view) := by
  apply keeps_bind (keeps_read _)
  intro same
  apply whole_when
  apply keeps_bind (keeps_read _)
  intro coords
  apply keeps_bind whole_placed
  intro _
  apply keeps_bind (keeps_read _)
  intro shown
  apply whole_when
  apply keeps_bind (keeps_read _)
  intro sceneTree
  exact whole_position

theorem whole_impose {resize : Box → Act Stage Unit} (kept : ∀ box, Keeps whole (resize box)) :
    Keeps whole (impose resize view box) := by
  apply keeps_bind whole_placed
  intro _
  apply keeps_bind (keeps_read _)
  intro sceneTree
  apply keeps_bind whole_position
  intro _
  exact kept box

theorem whole_handleRequest {resize : Box → Act Stage Unit} (kept : ∀ box, Keeps whole (resize box)) :
    Keeps whole (handleRequest resize mode answers layout view) := by
  apply keeps_bind (keeps_read _)
  intro saved
  cases saved with
  | none =>
      apply keeps_bind (whole_look _)
      intro geoBox
      apply keeps_bind (whole_look _)
      intro oldBox
      refine keeps_bind (keeps_modify fun _ => rfl) fun _ => ?_
      apply keeps_bind (keeps_read _)
      intro outputBox
      exact whole_impose kept
  | some oldBox =>
      refine keeps_bind (keeps_modify fun _ => rfl) fun _ => ?_
      exact whole_impose kept

theorem whole_requestMode : Keeps whole (requestMode mode answers layout view) := by
  apply keeps_bind (keeps_read _)
  intro xwayland
  apply whole_handleRequest
  intro box
  cases xwayland with
  | true =>
      apply keeps_bind (keeps_lift _)
      intro _
      apply keeps_bind (keeps_lift _)
      intro _
      apply keeps_bind (keeps_lift _)
      intro _
      apply keeps_bind (keeps_lift _)
      intro _
      exact whole_configure
  | false =>
      apply keeps_bind (keeps_lift _)
      intro _
      exact keeps_lift _

end

-- All but the focus, the pointer and the interaction.
def rest (s : Stage) : ((Scenery × List Nat) × (Nat → View)) × List Nat × (Nat → Int × Int) ×
    (Nat → BitVec 16 × BitVec 16) × (Nat → Mode → Option SavedBox) :=
  (((s.server.scenery,s.server.views),s.server.tables),beside s)

theorem rest_on {act : Act Server α} (kept : Keeps (fun s => ((s.scenery,s.views),s.tables)) act) :
    Keeps rest (onServer act) := on_keeps kept

theorem rest_whole {s t : Stage} (same : rest t = rest s) : whole t = whole s :=
  congrArg (fun all => (all.1.1.1,all.1.1.2,all.2.1)) same

-- The handlers that choose a view and focus it keep what focus-view keeps.
section
variable {s t : Stage} {answers : Answers} {view id : Nat} {holds : Stage → Prop}
  (same : ∀ s t, rest t = rest s → holds s → holds t)
include same

theorem rest_preserves {act : Act Stage α} (kept : Keeps rest act) : Preserves holds act :=
  preserves_keeps kept same

theorem preserves_when {act : Act Stage Unit} (kept : Preserves holds act) : Preserves holds (when condition act) := by
  cases condition with
  | true => exact kept
  | false => exact rest_preserves same (keeps_pure ())

variable (focused : ∀ view surface, Preserves holds (focusView answers view surface))
include focused

theorem focusLastView_preserves : Preserves holds (focusLastView answers) := by
  apply preserves_bind (rest_preserves same (keeps_read _))
  intro last
  cases last with
  | none => exact rest_preserves same (keeps_pure ())
  | some nextView =>
      apply preserves_bind (rest_preserves same (keeps_read _))
      intro wlrSurface
      exact focused nextView wlrSurface

theorem focusNextView_preserves : Preserves holds (focusNextView answers) := by
  apply preserves_bind (rest_preserves same (keeps_read _))
  intro views
  match views with
  | [] | [_] => exact rest_preserves same (keeps_pure ())
  | nextView :: _ :: _ =>
      apply preserves_bind (rest_preserves same (keeps_read _))
      intro wlrSurface
      exact focused nextView wlrSurface

theorem focusViewAt_preserves : Preserves holds (focusViewAt answers) := by
  apply preserves_bind (rest_preserves same (rest_on desktopViewAt_keeps))
  intro found
  cases found with
  | none => exact rest_preserves same (keeps_pure ())
  | some under =>
      apply preserves_bind (rest_preserves same (keeps_read _))
      intro skipped
      exact preserves_when same (focused under.1 (some under.2))

theorem cursorButton_preserves : Preserves holds (handleCursorButton answers button state) := by
  unfold handleCursorButton
  split
  · rename_i alt
    apply rest_preserves same
    apply rest_on
    unfold Tinyjl.handleCursorButton
    rw [alt,if_pos rfl]
    cases state with
    | released => exact keeps_both resetCursorMode_keeps (keeps_view resetCursorMode_apart Prod.fst)
    | pressed =>
        apply keeps_bind desktopViewAt_keeps
        intro found
        split
        · exact keeps_both beginInteractive_keeps (keeps_view beginInteractive_apart Prod.fst)
        · split
          · exact keeps_both beginInteractive_keeps (keeps_view beginInteractive_apart Prod.fst)
          · exact keeps_pure ()
  · refine preserves_bind (rest_preserves same (rest_on (keeps_modify fun _ => rfl))) fun _ => ?_
    cases state with
    | released => exact rest_preserves same (rest_on (keeps_both resetCursorMode_keeps (keeps_view resetCursorMode_apart Prod.fst)))
    | pressed => exact focusViewAt_preserves same focused

theorem unmap_preserves (removed : ∀ s, holds s →
      holds { s with server := { s.server with views := removeElement s.server.views view } }) :
    Preserves holds (handleSurfaceUnmap answers view) := by
  apply preserves_bind (rest_preserves same (keeps_read _))
  intro grabbedView
  apply preserves_bind (rest_preserves same (rest_on (keeps_when (keeps_both resetCursorMode_keeps (keeps_view resetCursorMode_apart Prod.fst)))))
  intro _
  refine preserves_bind removed fun _ => ?_
  exact focusLastView_preserves same focused

end

-- What keeps the order of the stack where no view is added.
structure Arranged (s : Stage) : Prop where
  apart : Apart (rootTree s.server.scenery)
  distinct : s.server.views.Nodup
  levelled : Levelled s
  stacked : Stacked s

section
variable {s t : Stage} {answers : Answers} {view id : Nat}

theorem levelled_whole (s t : Stage) (same : whole t = whole s) (levelled : Levelled s) : Levelled t := by
  have scenery : t.server.scenery = s.server.scenery := congrArg Prod.fst same
  have views : (t.server.views,t.stack) = (s.server.views,s.stack) := congrArg Prod.snd same
  apply levelled_same (s := s) _ (congrArg Prod.snd views) levelled
  exact congrArg (fun c : Scenery => ((fun tree => ((c.trees tree).alive,(c.trees tree).parent)),c.nextTree)) scenery

theorem arranged_whole (s t : Stage) (same : whole t = whole s) (arranged : Arranged s) : Arranged t := by
  have scenery : t.server.scenery = s.server.scenery := congrArg Prod.fst same
  have lists : (t.server.views,t.stack) = (s.server.views,s.stack) := congrArg Prod.snd same
  obtain ⟨views,stack⟩ := Prod.mk.inj lists
  refine ⟨scenery ▸ arranged.apart,views ▸ arranged.distinct,levelled_whole s t same arranged.levelled,?_⟩
  unfold Stacked
  rw [scenery,views,stack]
  exact arranged.stacked

theorem levelled_rest (s t : Stage) (same : rest t = rest s) (levelled : Levelled s) : Levelled t :=
  levelled_whole s t (rest_whole same) levelled

theorem arranged_rest (s t : Stage) (same : rest t = rest s) (arranged : Arranged s) : Arranged t :=
  arranged_whole s t (rest_whole same) arranged

theorem turned_perm : ((turned s answers view surface).1).Perm s.server.views ∧
    ((turned s answers view surface).2).Perm s.stack := by
  unfold turned
  split
  · cases (s.server.tables view).sceneTree with
    | none => exact ⟨List.Perm.refl _,List.Perm.refl _⟩
    | some tree => exact ⟨toEnd_perm view _,toEnd_perm tree _⟩
  · exact ⟨List.Perm.refl _,List.Perm.refl _⟩

theorem refocused_levelled (levelled : Levelled s) (refocused : Refocused s answers view surface t) : Levelled t := by
  have stack : t.stack = (turned s answers view surface).2 := congrArg Prod.snd refocused.lists
  have perm : t.stack.Perm s.stack := stack ▸ turned_perm.2
  have trees : t.server.trees = s.server.trees := congrArg Scenery.trees refocused.scenery
  have next : t.server.nextTree = s.server.nextTree := congrArg Scenery.nextTree refocused.scenery
  refine ⟨perm.nodup_iff.mpr levelled.distinct,?_,?_⟩
  · intro tree
    rw [perm.mem_iff,trees]
    exact levelled.exact tree
  · rw [trees,next]
    exact levelled.fresh

theorem focusView_levelled : Preserves Levelled (focusView answers view surface) := by
  intro s levelled
  apply ensures_imp _ focusView_refocused
  exact fun _ => refocused_levelled levelled

theorem focusView_arranged : Preserves Arranged (focusView answers view surface) := by
  intro s arranged
  apply ensures_imp _ focusView_refocused
  intro t refocused
  have views : t.server.views = (turned s answers view surface).1 := congrArg Prod.fst refocused.lists
  have perm : t.server.views.Perm s.server.views := views ▸ turned_perm.1
  refine ⟨refocused.scenery ▸ arranged.apart,perm.nodup_iff.mpr arranged.distinct,?_,?_⟩
  · exact refocused_levelled arranged.levelled refocused
  · exact refocused_stacked arranged.apart arranged.distinct arranged.levelled arranged.stacked refocused

theorem removed_levelled (s : Stage) (levelled : Levelled s) :
    Levelled { s with server := { s.server with views := removeElement s.server.views view } } :=
  levelled_same (s := s) rfl rfl levelled

theorem removed_arranged (s : Stage) (arranged : Arranged s) :
    Arranged { s with server := { s.server with views := removeElement s.server.views view } } := by
  refine ⟨arranged.apart,?_,removed_levelled s arranged.levelled,?_⟩
  · rw [removeElement_erase]
    exact arranged.distinct.erase view
  · change Ordered (rootTree s.server.scenery) (removeElement s.server.views view) s.stack
    rw [removeElement_erase]
    exact ordered_removed arranged.stacked view

theorem grew_levelled {act : Act Stage α} (kept : ∀ base, Preserves (Grew base) act) : Preserves Levelled act := by
  intro s levelled
  apply ensures_imp _ (kept s.stack s ⟨levelled,List.prefix_refl _⟩)
  exact fun _ grew => grew.levelled

theorem listened_preserves {holds : Stage → Prop} {handler : Act Stage Unit}
    (same : ∀ s t, rest t = rest s → holds s → holds t) (kept : Preserves holds handler) :
    Preserves holds (listened id handler) := by
  apply preserves_bind (rest_preserves same (keeps_read _))
  intro bound
  exact preserves_when same kept

theorem focusMapped_levelled : Preserves Levelled (focusMapped answers view) := by
  apply preserves_bind (rest_preserves levelled_rest (keeps_read _))
  intro skipped
  refine preserves_bind (grew_levelled fun _ => grew_on (keeps_when (keeps_modify fun _ => rfl))) fun _ => ?_
  apply preserves_when levelled_rest
  apply preserves_bind (rest_preserves levelled_rest (keeps_read _))
  intro wlrSurface
  exact focusView_levelled

theorem map_levelled : Preserves Levelled (performDesktop (.map answers view)) := by
  refine preserves_bind (grew_levelled fun _ => grew_on (keeps_modify fun _ => rfl)) fun _ => ?_
  apply listened_preserves levelled_rest
  refine preserves_bind (grew_levelled fun _ => grew_on (keeps_modify fun _ => rfl)) fun _ => ?_
  apply preserves_bind (rest_preserves levelled_rest (keeps_read _))
  intro xwayland
  apply preserves_bind (preserves_when levelled_rest (grew_levelled fun _ => putIntoScene_grew))
  intro _
  exact focusMapped_levelled

theorem newToplevel_grew : Preserves (Grew base) (performDesktop (.newXdgSurface answers view)) := by
  refine preserves_bind (grew_on (keeps_modify fun _ => rfl)) fun _ => ?_
  apply preserves_bind (appear_grew grows_created)
  intro sceneTree
  apply grew_on
  refine keeps_bind (keeps_modify fun _ => rfl) fun _ => ?_
  refine keeps_bind (keeps_modify fun s => rungs_data s sceneTree (some view)) fun _ => ?_
  refine keeps_bind (keeps_modify fun _ => rfl) fun _ => ?_
  exact keeps_modify fun _ => rfl

theorem unmap_marked {holds : Stage → Prop} (marked : ∀ s, holds s → holds { s with
      server := s.server.setSurface view fun surface => { surface with mapped := false } })
    (kept : Preserves holds (listened view (handleSurfaceUnmap answers view))) :
    Preserves holds (performDesktop (.unmap answers view)) := by
  refine preserves_bind marked fun _ => ?_
  exact kept

theorem on_stack (act : Act Server α) : Keeps Stage.stack (onServer act) := by
  intro s
  unfold Ensures onServer on
  rcases act s.server with ⟨_ | _ | _,_⟩ <;> trivial

theorem nodeDestroy_cleared : Ensures (wlrSceneNodeDestroy root) s
    (fun _ t => t.stack = s.stack.filter fun tree => (t.server.trees tree).alive) fun _ => True := by
  apply ensures_bind
  apply ensures_weaken (on_stack (Tinyjl.wlrSceneNodeDestroy root) s)
  · intro _ t same
    apply ensures_modify
    rw [show t.stack = s.stack from same]
  · intro _ _
    trivial

-- The nodes that die leave the stack.
theorem destroy_cleared (levelled : Levelled s) : Ensures (performDesktop (.destroy view)) s
    (fun _ t => t.stack = s.stack.filter (fun tree => (t.server.trees tree).alive) ∧
      t.server.scenery = s.server.scenery.destroyed view ∧ t.server.views = s.server.views) fun _ => False := by
  have cleared : Ensures (destroySurface view) s
      (fun _ t => t.stack = s.stack.filter fun tree => (t.server.trees tree).alive) fun _ => True := by
    apply ensures_bind
    apply ensures_read
    apply ensures_bind
    generalize (if (s.server.surfaces view).xwayland then (s.server.surfaces view).sceneXwSurface
      else (s.server.surfaces view).data) = own
    cases own with
    | none =>
        apply ensures_pure
        apply ensures_modify
        exact (List.filter_eq_self.mpr fun tree inside => ((levelled.exact tree).mp inside).1).symm
    | some root =>
        apply ensures_weaken nodeDestroy_cleared
        · intro _ t kept
          apply ensures_modify
          exact kept
        · intro _ _
          trivial
  have projected : Simulates Stage.server (destroySurface view) (Tinyjl.destroySurface view) s
      (fun _ t => t.stack = s.stack.filter fun tree => (t.server.trees tree).alive) fun _ => True :=
    ⟨(destroy_projects s).1,cleared⟩
  have gone : Ensures (Tinyjl.destroySurface view) s.server
      (fun _ t => t.scenery = s.server.scenery.destroyed view ∧ t.views = s.server.views) fun _ => False := by
    apply destroySurface_ensures
    exact fun _ scenery views _ => ⟨scenery,views⟩
  exact ensures_weaken (simulates_part projected gone).2 (fun _ _ ended => ended) fun _ ended => ended.2

theorem destroy_levelled (levelled : Levelled s) (stack : t.stack = s.stack.filter fun tree => (t.server.trees tree).alive)
    (scenery : t.server.scenery = s.server.scenery.destroyed view) : Levelled t := by
  have trees : ∀ tree, t.server.trees tree = (s.server.scenery.destroyed view).trees tree :=
    congrFun (congrArg Scenery.trees scenery)
  have parent : ∀ tree, (t.server.trees tree).parent = (s.server.trees tree).parent := by
    intro tree
    rw [trees]
    exact destroyed_links.1
  refine ⟨stack ▸ levelled.distinct.filter _,?_,?_⟩
  · intro tree
    rw [stack,List.mem_filter,levelled.exact,parent]
    have alive : (t.server.trees tree).alive = true → (s.server.trees tree).alive = true := by
      rw [trees,destroyed_alive,Bool.and_eq_true]
      exact fun both => both.1
    constructor
    · intro both
      exact ⟨both.2,both.1.2⟩
    · intro both
      exact ⟨⟨alive both.1,both.2⟩,both.1⟩
  · intro tree late
    have next : t.server.nextTree = s.server.nextTree := congrArg Scenery.nextTree scenery
    rw [parent]
    exact levelled.fresh tree (next ▸ late)

-- A tree below the root dies with its own surface only.
theorem rootTree_survives {c : Scenery} (valid : Built c) (found : rootTree c other = some tree) (apart : other ≠ view) :
    c.dies view tree = false := by
  obtain ⟨shown,edge⟩ := rootTree_found.mp found
  rw [valid.matching] at shown
  have owner := (valid.cached other tree shown).2.1
  unfold Server.Scenery.dies
  cases own : c.ownTree view with
  | none => rfl
  | some root =>
      have second := (valid.cached view root (valid.own_cached own)).2.1
      have different : tree ≠ root := by
        intro same
        rw [same,second] at owner
        exact apart (Option.some.inj owner).symm
      have above : root ≠ sceneRoot := by
        intro same
        rw [same,valid.root] at second
        simp at second
      change Forest.inside c.parentTree root tree = false
      rw [Forest.inside_parent valid.grown different edge]
      exact valid.root_outside above

theorem destroy_stacked (valid : Valid s) (stacked : Stacked s) (hidden : (s.server.surfaces view).mapped = false)
    (stack : t.stack = s.stack.filter fun tree => (t.server.trees tree).alive)
    (scenery : t.server.scenery = s.server.scenery.destroyed view) (views : t.server.views = s.server.views) :
    Stacked t := by
  have fresh := valid.unlisted hidden
  have same : rootTree t.server.scenery = rootTree s.server.scenery := by
    funext other
    rw [scenery]
    unfold rootTree
    simp only [destroyed_links.1]
    rfl
  unfold Stacked
  rw [same,views,stack]
  apply ordered_kept stacked
  intro tree inside
  obtain ⟨other,listed,found⟩ := List.mem_filterMap.mp inside
  have alive := ((valid.levelled.exact tree).mp (stacked.subset inside)).1
  have survives := rootTree_survives valid.listing.sound.built found (ne_of_mem_of_not_mem listed fresh)
  have trees : t.server.trees tree = (s.server.scenery.destroyed view).trees tree :=
    congrFun (congrArg Scenery.trees scenery) tree
  rw [trees,destroyed_alive,survives,Bool.not_false,Bool.and_true]
  exact alive

theorem step_ended {holds : Stage → Prop} (accepted : step s event = some t)
    (kept : admits s event = true → Ensures (perform event) s (fun _ t => holds t) holds) : holds t := by
  unfold step at accepted
  split at accepted
  · rename_i admitted
    exact ensures_leaves accepted (kept admitted)
  · simp at accepted

-- The events of the desktop are steps of the server alone.
theorem desktop_step (s : Stage) (event : Tinyjl.Event) :
    (step s (.desktop event)).map Stage.server = Tinyjl.step s.server event := by
  have left : leaves (Tinyjl.perform event s.server) = (leaves (performDesktop event s)).map Stage.server :=
    (simulates_leaves (desktop_projects event s)).1
  unfold step Tinyjl.step
  change Option.map Stage.server (if Tinyjl.admits s.server event then leaves (performDesktop event s) else none) = _
  split
  · rw [← left]
    rcases Tinyjl.perform event s.server with ⟨_ | _ | _,_⟩ <;> rfl
  · rfl

theorem other_whole (other : ∀ inner, event ≠ .desktop inner) : Keeps whole (perform event) := by
  cases event with
  | desktop inner => exact absurd rfl (other inner)
  | requestConfigure id x y => exact whole_listened whole_requestConfigure
  | setGeometry id x y =>
      refine keeps_bind (keeps_modify fun _ => rfl) fun _ => ?_
      exact whole_listened whole_setGeometry
  | requestMode mode answers layout id => exact whole_listened whole_requestMode

theorem listing_whole (s t : Stage) (same : whole t = whole s) (listing : Listing s.server) : Listing t.server := by
  have scenery : t.server.scenery = s.server.scenery := congrArg Prod.fst same
  have views : t.server.listed = s.server.listed := congrArg (fun w => (w.2.1 : Multiset Nat)) same
  have surfaces : t.server.surfaces = s.server.surfaces := congrArg Scenery.surfaces scenery
  exact ⟨scenery ▸ listing.sound,views ▸ listing.distinct,by rw [views,surfaces]; exact listing.mapped,
    by rw [views,surfaces]; exact listing.bound⟩

theorem listing_kept (listing : Listing s.server) (accepted : step s event = some t) : Listing t.server := by
  cases event with
  | desktop inner =>
      have taken := desktop_step s inner
      rw [accepted] at taken
      exact listing_preserved listing taken.symm
  | _ =>
      apply step_ended accepted
      intro _
      exact ensures_imp (fun t same => listing_whole s t same listing) (other_whole (by simp) s)

-- The events that make or change a surface that is not on the stage yet, or neither focus nor move.
def introduces : Tinyjl.Event → Bool
  | .newXdgSurface .. | .newXwaylandSurface .. | .setParent .. | .setWantsFocus .. => true
  | _ => false

def leavesBe : Tinyjl.Event → Bool
  | .cursorMotion .. | .requestMove .. | .requestResize .. | .modifiers | .keyboardFocus _ => true
  | _ => false

theorem introduced_grew (new : introduces event = true) : Preserves (Grew base) (performDesktop event) := by
  cases event with
  | newXdgSurface answers id => exact newToplevel_grew
  | newXwaylandSurface id wantsFocus =>
      have kept : Keeps rungs (Tinyjl.perform (.newXwaylandSurface id wantsFocus)) := by
        refine keeps_bind (keeps_modify fun _ => rfl) fun _ => ?_
        refine keeps_bind (keeps_modify fun _ => rfl) fun _ => ?_
        exact keeps_modify fun _ => rfl
      exact grew_on kept
  | setParent id parent =>
      have kept : Keeps rungs (Tinyjl.perform (.setParent id parent)) := keeps_modify fun _ => rfl
      exact grew_on kept
  | setWantsFocus id wantsFocus =>
      have kept : Keeps rungs (Tinyjl.perform (.setWantsFocus id wantsFocus)) := keeps_modify fun _ => rfl
      exact grew_on kept
  | _ => simp [introduces] at new

theorem introduced_views (new : introduces event = true) : Keeps Server.views (Tinyjl.perform event) := by
  cases event with
  | newXdgSurface answers id =>
      intro s
      apply ensures_bind
      apply ensures_modify
      exact newSurface_ensures rfl rfl
  | newXwaylandSurface id wantsFocus =>
      refine keeps_bind (keeps_modify fun _ => rfl) fun _ => ?_
      refine keeps_bind (keeps_modify fun _ => rfl) fun _ => ?_
      exact keeps_modify fun _ => rfl
  | setParent id parent => exact fun _ => ensures_modify rfl
  | setWantsFocus id wantsFocus => exact fun _ => ensures_modify rfl
  | _ => simp [introduces] at new

theorem left_whole (left : leavesBe event = true) : Keeps whole (performDesktop event) := by
  cases event with
  | cursorMotion answers x y => exact whole_motion
  | requestMove answers id serial => exact whole_on requestMove_keeps
  | requestResize answers id serial edges => exact whole_on requestResize_keeps
  | modifiers => exact whole_on (keeps_pure ())
  | keyboardFocus surface =>
      have kept : Keeps (fun s => (s.scenery,s.views)) (Tinyjl.perform (.keyboardFocus surface)) :=
        keeps_modify fun _ => rfl
      exact whole_on kept
  | _ => simp [leavesBe] at left

theorem desktop_levelled (levelled : Levelled s) : Ensures (performDesktop event) s (fun _ t => Levelled t) Levelled := by
  have still : leavesBe event = true → Ensures (performDesktop event) s (fun _ t => Levelled t) Levelled :=
    fun left => preserves_keeps (left_whole left) levelled_whole s levelled
  have introduced : introduces event = true → Ensures (performDesktop event) s (fun _ t => Levelled t) Levelled :=
    fun new => grew_levelled (fun _ => introduced_grew new) s levelled
  cases event with
  | map answers id => exact map_levelled s levelled
  | unmap answers id =>
      apply unmap_marked _ _ s levelled
      · exact fun s levelled => levelled_same (s := s) rfl rfl levelled
      · apply listened_preserves levelled_rest
        exact unmap_preserves levelled_rest (fun _ _ => focusView_levelled) removed_levelled
  | destroy id =>
      apply ensures_weaken (destroy_cleared levelled)
      · exact fun _ t ended => destroy_levelled levelled ended.1 ended.2.1
      · exact fun _ impossible => impossible.elim
  | cursorButton answers button state =>
      exact cursorButton_preserves levelled_rest (fun _ _ => focusView_levelled) s levelled
  | keyF1 answers => exact focusNextView_preserves levelled_rest (fun _ _ => focusView_levelled) s levelled
  | newXdgSurface | newXwaylandSurface | setParent | setWantsFocus => exact introduced rfl
  | cursorMotion | requestMove | requestResize | modifiers | keyboardFocus => exact still rfl

theorem valid_preserved (valid : Valid s) (accepted : step s event = some t) : Valid t := by
  refine ⟨listing_kept valid.listing accepted,?_⟩
  apply step_ended accepted
  intro _
  cases event with
  | desktop inner => exact desktop_levelled valid.levelled
  | _ => exact preserves_keeps (other_whole (by simp)) levelled_whole s valid.levelled

theorem Valid.arranged (valid : Valid s) (stacked : Stacked s) : Arranged s :=
  ⟨valid.apart,valid.distinct,valid.levelled,stacked⟩

-- Only a map handler gives a mapped view another tree.
theorem scene_rootTree {c d : Scenery} (valid : Sound c) (moved : SceneStep c event d)
    (shows : ∀ answers view, event ≠ .map answers view) (mapped : (c.surfaces other).mapped = true) :
    rootTree d other = rootTree c other := by
  cases moved with
  | refused unborn => rfl
  | @shown view answers unborn =>
      have apart : other ≠ view := by
        intro same
        rw [same,valid.lives.unborn view unborn] at mapped
        simp at mapped
      have woken : Built (c.mark view Surface.waking) := valid.built.mark rfl rfl (.inl rfl)
      exact rootTree_adopted woken apart
  | born unborn => rfl
  | linked live alive => rfl
  | hinted alive => rfl
  | unmapped alive => rfl
  | mapped alive => exact absurd rfl (shows _ _)
  | leaked alive host hollow => exact absurd rfl (shows _ _)
  | reused alive bound xwayland cached => exact absurd rfl (shows _ _)
  | made alive bound xwayland host hollow uncached => exact absurd rfl (shows _ _)
  | destroyed alive hidden =>
      unfold rootTree
      simp only [destroyed_links.1]
      rfl
  | still quiet => rfl

theorem introduced_stacked (valid : Valid s) (stacked : Stacked s) (new : introduces event = true)
    (accepted : step s (.desktop event) = some t) : Stacked t := by
  have taken := desktop_step s event
  rw [accepted] at taken
  have moved := step_scene valid.listing.sound taken.symm
  have views : t.server.views = s.server.views :=
    Tinyjl.step_ensures taken.symm fun _ => introduced_views new s.server
  have grew : Grew s.stack t := step_ended accepted
    fun _ => introduced_grew new s ⟨valid.levelled,List.prefix_refl _⟩
  have shows : ∀ answers view, event ≠ .map answers view := by
    rintro answers view rfl
    simp [introduces] at new
  have same : ∀ other ∈ s.server.views, rootTree t.server.scenery other = rootTree s.server.scenery other := by
    intro other listed
    apply scene_rootTree valid.listing.sound moved shows
    exact valid.listing.mapped other (Multiset.mem_coe.mpr listed)
  unfold Stacked
  rw [views]
  exact (ordered_congr same).mpr (stacked.trans grew.lower.sublist)

theorem step_stacked (valid : Valid s) (stacked : Stacked s) (accepted : step s event = some t) :
    Stacked t ↔ lands s event = true := by
  have arranged := valid.arranged stacked
  have kept : Ensures (perform event) s (fun _ t => Arranged t) Arranged → lands s event = true →
      (Stacked t ↔ lands s event = true) := by
    intro ended passed
    exact iff_of_true (step_ended accepted fun _ => ended).stacked passed
  cases event with
  | requestConfigure | setGeometry | requestMode =>
      exact kept (preserves_keeps (other_whole (by simp)) arranged_whole s arranged) rfl
  | desktop inner =>
      have still : leavesBe inner = true → Ensures (performDesktop inner) s (fun _ t => Arranged t) Arranged :=
        fun left => preserves_keeps (left_whole left) arranged_whole s arranged
      cases inner with
      | map answers id =>
          apply step_ended accepted
          intro admitted
          change Tinyjl.admits s.server (.map answers id) = true at admitted
          simp only [Tinyjl.admits,Bool.and_eq_true,decide_eq_true_eq,Bool.not_eq_true'] at admitted
          exact map_lands valid stacked admitted.1 admitted.2
      | unmap answers id =>
          refine kept ?_ rfl
          apply unmap_marked _ _ s arranged
          · exact fun s arranged => ⟨arranged.apart,arranged.distinct,levelled_same (s := s) rfl rfl arranged.levelled,
              arranged.stacked⟩
          · apply listened_preserves arranged_rest
            exact unmap_preserves arranged_rest (fun _ _ => focusView_arranged) removed_arranged
      | destroy id =>
          refine iff_of_true ?_ rfl
          apply step_ended accepted
          intro admitted
          change Tinyjl.admits s.server (.destroy id) = true at admitted
          simp only [Tinyjl.admits,Bool.and_eq_true,decide_eq_true_eq,Bool.not_eq_true'] at admitted
          apply ensures_weaken (destroy_cleared valid.levelled)
          · exact fun _ t ended => destroy_stacked valid stacked admitted.2 ended.1 ended.2.1 ended.2.2
          · exact fun _ impossible => impossible.elim
      | cursorButton answers button state =>
          exact kept (cursorButton_preserves arranged_rest (fun _ _ => focusView_arranged) s arranged) rfl
      | keyF1 answers => exact kept (focusNextView_preserves arranged_rest (fun _ _ => focusView_arranged) s arranged) rfl
      | newXdgSurface | newXwaylandSurface | setParent | setWantsFocus =>
          exact iff_of_true (introduced_stacked valid stacked rfl accepted) rfl
      | cursorMotion | requestMove | requestResize | modifiers | keyboardFocus => exact kept (still rfl) rfl

theorem start_valid : Valid (start windows) := by
  refine ⟨start_listing,List.nodup_nil,?_,?_⟩
  · intro tree
    simp [start,Tinyjl.start]
  · intro tree _
    rfl

theorem start_stacked : Stacked (start windows) := List.Sublist.refl []

-- In every run the nodes of the listed views are stacked in the order of the list,
-- exactly if every map handler raises its view, drops it again or finds it above the others.
theorem stacking_exact (windows : Nat → BitVec 16 × BitVec 16) (events : List Event) :
    (∀ t ∈ visited step (start windows) events, Stacked t) ↔
      ∀ row ∈ taken step (start windows) events, lands row.1 row.2 = true := by
  apply gate_exact Valid Stacked fun s event => lands s event = true
  · intro s event t valid accepted
    exact valid_preserved valid accepted
  · intro s event t valid stacked accepted
    exact step_stacked valid stacked accepted
  · exact start_valid
  · exact start_stacked

end

end Janetland.Tinyjl.Stage
