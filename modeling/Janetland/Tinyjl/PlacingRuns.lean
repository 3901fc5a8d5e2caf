import Janetland.Tinyjl.Placing

namespace Janetland.Tinyjl.Stage
open Act EventRuns
open Server (Scenery)
open Toggles (Mode Layout getMaximizeGeoBox)

-- The handlers look after the node of a toplevel, and of an XWayland surface while it is mapped.
def tracked (s : Server) (view : Nat) : Bool := !(s.surfaces view).xwayland || (s.surfaces view).mapped

-- (view :x) and (view :y) are where the node of the view is.
def InPlace (s : Stage) (view : Nat) : Prop := tracked s.server view = true →
  ∀ tree, (s.server.tables view).sceneTree = some tree → s.place tree = position s.server view

def Placed (s : Stage) : Prop := ∀ view, InPlace s view

-- Without the node, the position is right where it was.
def settles (s : Stage) (target : Target) : Bool := !tracked s.server target.view ||
  (s.server.tables target.view).sceneTree.all fun tree => target.took || decide (s.place tree = (target.x,target.y))

section
variable {s t : Stage} {answers : Answers} {view id : Nat}

theorem tracked_links {s t : Server} (same : links t = links s) : tracked t = tracked s := by
  funext id
  have one := congrFun same id
  have kind : (t.surfaces id).xwayland = (s.surfaces id).xwayland := congrArg Prod.fst one
  have mapped : (t.surfaces id).mapped = (s.surfaces id).mapped := congrArg (fun link => link.2.1) one
  unfold tracked
  rw [kind,mapped]

theorem placed_same (tracks : tracked t.server = tracked s.server) (tables : t.server.tables = s.server.tables)
    (place : t.place = s.place) : Placed t ↔ Placed s := by
  unfold Placed InPlace position
  rw [tracks,tables,place]

theorem placed_spots (same : spots t = spots s) : Placed t ↔ Placed s :=
  placed_same (tracked_links (congrArg Prod.fst same)) (congrArg (fun all => all.2.1) same)
    (congrArg (fun all => all.2.2.1) same)

-- A handler of one view leaves the others in place.
theorem placed_but (placed : Placed s) (others : ∀ other, other ≠ view →
      tracked t.server other = tracked s.server other ∧ t.server.tables other = s.server.tables other ∧
        ∀ tree, (s.server.tables other).sceneTree = some tree → t.place tree = s.place tree) :
    Placed t ↔ InPlace t view := by
  constructor
  · exact fun all => all view
  · intro own other
    by_cases same : other = view
    · exact same ▸ own
    · obtain ⟨tracks,tables,place⟩ := others other same
      intro tracking tree shown
      rw [tables] at shown
      unfold position
      rw [place tree shown,tables]
      exact placed other (tracks ▸ tracking) tree shown

-- The trees of two views differ.
theorem trees_differ {c : Scenery} (valid : Built c) (apart : other ≠ view) (first : c.sceneTree other = some tree) :
    c.sceneTree view ≠ some tree := by
  intro second
  rw [valid.matching] at first second
  have one := (valid.cached other tree first).2.1
  have two := (valid.cached view tree second).2.1
  exact apart (Option.some.inj (one.symm.trans two))

theorem relocated_placed (valid : Built s.server.scenery) (placed : Placed s) (target : Target) :
    Placed (relocated s target) ↔ settles s target = true := by
  have others : ∀ other, other ≠ target.view → tracked (relocated s target).server other = tracked s.server other ∧
      (relocated s target).server.tables other = s.server.tables other ∧
        ∀ tree, (s.server.tables other).sceneTree = some tree → (relocated s target).place tree = s.place tree := by
    intro other apart
    refine ⟨rfl,Function.update_of_ne apart ..,?_⟩
    intro tree shown
    unfold relocated
    cases own : (s.server.tables target.view).sceneTree with
    | none => cases target.took <;> rfl
    | some root =>
        have different : tree ≠ root := by
          intro same
          exact trees_differ valid apart shown (same ▸ own)
        cases target.took with
        | true => exact Function.update_of_ne different ..
        | false => rfl
  rw [placed_but placed others]
  unfold settles InPlace
  have tracks : tracked (relocated s target).server target.view = tracked s.server target.view := rfl
  have table : (relocated s target).server.tables target.view =
      { s.server.tables target.view with x := target.x, y := target.y } := Function.update_self ..
  unfold position
  rw [tracks,table]
  cases tracked s.server target.view with
  | false => simp
  | true =>
      unfold relocated
      cases own : (s.server.tables target.view).sceneTree with
      | none => simp
      | some root => cases target.took <;> simp

theorem relocates_placed (valid : Built s.server.scenery) (placed : Placed s) (relocates : Relocates s target t) :
    Placed t ↔ target.all s.settles = true := by
  rw [placed_spots relocates]
  cases target with
  | none => simpa using placed
  | some target => exact relocated_placed valid placed target

theorem steered_settles (fits : (fitsInt32 x && fitsInt32 y) = true) :
    settles s (steered s.server view sends x y) = true := by
  unfold settles steered
  rw [fits]
  cases (s.server.tables view).sceneTree with
  | none => simp
  | some tree => simp

theorem request_settles : (requestTarget s mode answers layout view).all s.settles = true := by
  have fits : ∀ box, requestBox s mode answers layout view = some box → (fitsInt32 box.x && fitsInt32 box.y) = true := by
    intro box found
    unfold requestBox at found
    split at found
    · rename_i oldBox _
      obtain rfl := Option.some.inj found
      exact oldBox.fits
    · split at found
      · split at found
        · obtain rfl := Option.some.inj found
          have all := Box.fits_exact.mp (layout.getBox (layout.outputAt (s.server.tables view).x
            (s.server.tables view).y)).fits
          exact Bool.and_eq_true_iff.mpr ⟨all.1,all.2.1⟩
        · simp at found
      · simp at found
  unfold requestTarget
  cases found : requestBox s mode answers layout view with
  | none => rfl
  | some box => exact steered_settles (fits box found)

-- A window that is not shown may be anywhere.
theorem hidden_settles (kind : (s.server.surfaces view).xwayland = true) (hidden : showing s view = false) :
    settles s ⟨view,took,sent,x,y⟩ = true := by
  unfold showing at hidden
  unfold settles tracked
  rw [kind]
  cases mapped : (s.server.surfaces view).mapped with
  | false => rfl
  | true =>
      rw [mapped] at hidden
      cases shown : (s.server.tables view).sceneTree with
      | none => rfl
      | some tree =>
          rw [shown] at hidden
          simp at hidden

theorem geometry_settles (kind : (s.server.surfaces view).xwayland = true) :
    (geometryTarget s view).all s.settles = true := by
  unfold geometryTarget
  split
  · rfl
  · obtain ⟨fitsX,fitsY⟩ := coords_fit s view
    split
    · exact steered_settles (Bool.and_eq_true_iff.mpr ⟨fitsX,fitsY⟩)
    · rename_i hidden
      exact hidden_settles kind (Bool.eq_false_iff.mpr hidden)

theorem configure_settles (x y : BitVec 16) : (configureTarget s view x y).all (s.sending view x.toInt y.toInt).settles = true := by
  unfold configureTarget
  split
  · apply steered_settles (s := s.sending view x.toInt y.toInt)
    rw [fits_word,fits_word]
    rfl
  · rfl

theorem focusView_spots : Keeps spots (focusView answers view surface) := by
  apply keeps_bind (keeps_read _)
  intro prevSurface
  split
  · exact keeps_pure ()
  · apply keeps_bind (spots_when (keeps_lift _))
    intro _
    apply keeps_bind (spots_on (keeps_look _))
    intro sceneTree
    apply keeps_bind
    · apply keeps_bind (spots_on reach_keeps)
      intro _
      exact keeps_modify fun _ => rfl
    intro _
    apply keeps_bind
    · apply spots_on
      apply keeps_modify
      intro s
      split <;> rfl
    intro _
    apply keeps_bind (keeps_read _)
    intro wlrSurface
    apply spots_on
    apply keeps_when
    apply keeps_bind (keeps_lift _)
    intro wlrSurface
    exact keeps_when (keeps_modify fun _ => rfl)

theorem spots_rest {s t : Stage} (same : rest t = rest s) : spots t = spots s :=
  congrArg (fun all => (fun id => ((all.1.1.1.surfaces id).xwayland,(all.1.1.1.surfaces id).mapped,
    (all.1.1.1.surfaces id).parent),all.1.2,all.2.2.1,all.2.2.2.1)) same

theorem placed_rest (s t : Stage) (same : rest t = rest s) (placed : Placed s) : Placed t :=
  (placed_spots (spots_rest same)).mpr placed

theorem focusView_placed : Preserves Placed (focusView answers view surface) :=
  preserves_keeps focusView_spots fun _ _ same placed => (placed_spots same).mpr placed

theorem focusMapped_spots : Keeps spots (focusMapped answers view) := by
  apply keeps_bind (keeps_read _)
  intro skipped
  refine keeps_bind (spots_on (keeps_when (keeps_modify fun _ => rfl))) fun _ => ?_
  apply spots_when
  apply keeps_bind (keeps_read _)
  intro wlrSurface
  exact focusView_spots

theorem listening_places : Ensures (when condition <| onServer <| Act.modify fun s : Server =>
      s.setSurface view fun surface => { surface with sceneXwSurface := some tree }) s
    (fun _ t => t.place = s.place ∧ xwLocalCoords view t = xwLocalCoords view s) fun _ => False := by
  cases condition with
  | false => exact ensures_pure () ⟨rfl,rfl⟩
  | true =>
      apply ensures_modify
      exact ⟨rfl,by simp [xwLocalCoords,Server.setSurface]⟩

-- The nodes that there were before a map handler stay, but for the one of its view.
theorem sceneCreate_places : Ensures (sceneXwaylandSurfaceCreate answers parent view) s
    (fun made t => t.place made.1 = xwLocalCoords view s ∧
      ∀ tree, tree < s.server.nextTree → tree ≠ made.1 → t.place tree = s.place tree)
    fun t => ∀ tree, tree < s.server.nextTree → t.place tree = s.place tree := by
  apply ensures_bind
  apply ensures_read
  apply ensures_bind
  have made : Ensures (treeOf answers parent (s.server.surfaces view).data) s
      (fun _ t => (∀ tree, tree < s.server.nextTree → t.place tree = s.place tree) ∧
        s.server.nextTree ≤ t.server.nextTree ∧ xwLocalCoords view t = xwLocalCoords view s)
      fun t => ∀ tree, tree < s.server.nextTree → t.place tree = s.place tree := by
    cases (s.server.surfaces view).data with
    | some tree => exact ensures_pure tree ⟨fun _ _ => rfl,Nat.le_refl _,rfl⟩
    | none =>
        apply appear_ensures grows_created
        · intro content
          exact ⟨fun tree early => Function.update_of_ne (Nat.ne_of_lt early) ..,Nat.le_succ _,rfl⟩
        · exact fun _ _ => rfl
  apply ensures_weaken made
  · rintro tree t ⟨kept,later,coords⟩
    apply ensures_bind
    apply appear_ensures grows_created
    · intro content
      have still : ∀ other, other < s.server.nextTree →
          (t.arrived tree content).place other = s.place other := by
        intro other early
        have apart : other ≠ t.server.nextTree := by omega
        exact (Function.update_of_ne apart ..).trans (kept other early)
      apply ensures_bind
      apply ensures_weaken listening_places
      · rintro _ u ⟨places,window⟩
        apply ensures_bind
        apply ensures_read
        rw [window.trans coords]
        apply ensures_bind
        obtain ⟨fitsX,fitsY⟩ := coords_fit s view
        apply setPosition_ensures
        · rintro node ⟨⟩ _
          apply ensures_pure
          refine ⟨Function.update_self ..,?_⟩
          intro other early apart
          refine (Function.update_of_ne apart ..).trans ?_
          rw [places]
          exact still other early
        · intro failed
          rw [fitsX,fitsY] at failed
          simp at failed
      · exact fun _ impossible => impossible.elim
    · exact kept
  · exact fun _ kept => kept

theorem putIntoScene_places : Ensures (putIntoScene answers view) s
    (fun _ t => ∃ own, (t.server.tables view).sceneTree = some own ∧ t.place own = xwLocalCoords view s ∧
      ∀ tree, tree < s.server.nextTree → tree ≠ own → t.place tree = s.place tree)
    fun t => ∀ tree, tree < s.server.nextTree → t.place tree = s.place tree := by
  apply ensures_bind
  apply look_ensures
  · intro parentTree _
    apply ensures_bind
    apply ensures_weaken sceneCreate_places
    · rintro made t ⟨places,others⟩
      apply on_ensures
      apply ensures_bind
      apply ensures_modify
      apply ensures_bind
      apply ensures_modify
      apply ensures_bind
      apply ensures_modify
      apply ensures_modify
      exact ⟨made.1,by simp [Server.setTable,Server.setSurface,Server.setTree],places,others⟩
    · exact fun _ kept => kept
  · exact fun _ _ _ _ => rfl

end

-- The rest of what a map handler does to the tables.
structure PutTables (s : Server) (view : Nat) (t : Server) : Prop where
  tables : ∀ other, other ≠ view → t.tables other = s.tables other
  position : position t view = position s view
  links : links t = links s

section
variable {s t : Server} {answers : Answers} {view : Nat}

theorem links_set {change : Surface → Surface} (kind : (change (s.surfaces view)).xwayland = (s.surfaces view).xwayland)
    (mapped : (change (s.surfaces view)).mapped = (s.surfaces view).mapped)
    (parent : (change (s.surfaces view)).parent = (s.surfaces view).parent) :
    links (s.setSurface view change) = links s := by
  funext other
  by_cases same : other = view
  · subst same
    simp [links,Server.setSurface,kind,mapped,parent]
  · simp [links,Server.setSurface,same]

theorem attached_tables : PutTables s view (s.attached view tree surfaceTree) := by
  refine ⟨?_,?_,?_⟩
  · intro other apart
    simp [Server.attached,Server.setTable,Server.setSurface,Server.setTree,apart]
  · simp [position,Server.attached,Server.setTable,Server.setSurface,Server.setTree]
  · funext other
    by_cases same : other = view
    · subst same
      simp [links,Server.attached,Server.setTable,Server.setSurface,Server.setTree]
    · simp [links,Server.attached,Server.setTable,Server.setSurface,Server.setTree,same]

theorem putIntoScene_tables : Ensures (Tinyjl.putIntoScene answers view) s (fun _ t => PutTables s view t)
    fun t => t.tables = s.tables ∧ links t = links s := by
  apply putIntoScene_ensures
  · exact fun _ => ⟨rfl,rfl⟩
  · exact fun _ _ _ _ => ⟨rfl,rfl⟩
  · intro _ tree _ _
    have attached : PutTables (s.grown tree (some view)) view ((s.grown tree (some view)).attached view tree s.nextTree) :=
      attached_tables
    exact ⟨attached.tables,attached.position,attached.links⟩
  · intro _ parent _ _ _
    have attached : PutTables (((s.grown parent none).grown s.nextTree (some view)).listening view s.nextTree) view
        ((((s.grown parent none).grown s.nextTree (some view)).listening view s.nextTree).attached view s.nextTree
          (s.nextTree + 1)) := attached_tables
    refine ⟨attached.tables,attached.position,attached.links.trans ?_⟩
    exact links_set (s := (s.grown parent none).grown s.nextTree (some view)) rfl rfl rfl

end

section
variable {s t : Stage} {answers : Answers} {view id : Nat}

-- Where an event may move the node of a view, or the view from its node.
def keepsPlace (s : Stage) : Event → Bool
  | .desktop (.cursorMotion answers x y) =>
      (motionTarget answers { s.server with cursorX := x, cursorY := y }).all s.settles
  | .desktop (.map answers view) => !(s.server.surfaces view).xwayland ||
      if (s.server.surfaces view).bound && !mapRaises answers view s.server then
        decide (xwLocalCoords view s = position s.server view)
      else (s.server.tables view).sceneTree.all fun tree => decide (s.place tree = position s.server view)
  | _ => true

-- The trees of the views are old ones.
theorem tree_early {c : Scenery} (valid : Built c) (shown : c.sceneTree view = some tree) : tree < c.nextTree := by
  rw [valid.matching] at shown
  exact (valid.cached view tree shown).1

-- A view that is mapped without being put into the scene has the node that it had.
theorem stale_placed (valid : Built s.server.scenery) (placed : Placed s) (tables : t.server.tables = s.server.tables)
    (places : ∀ tree, tree < s.server.nextTree → t.place tree = s.place tree)
    (tracks : ∀ other, other ≠ view → tracked t.server other = tracked s.server other)
    (tracking : tracked t.server view = true) : Placed t ↔
      (s.server.tables view).sceneTree.all (fun tree => decide (s.place tree = position s.server view)) = true := by
  have same : position t.server view = position s.server view := by
    unfold position
    rw [tables]
  rw [placed_but placed fun other apart =>
    ⟨tracks other apart,congrFun tables other,fun tree shown => places tree (tree_early valid shown)⟩]
  unfold InPlace
  rw [same,tables]
  cases shown : (s.server.tables view).sceneTree with
  | none => simp
  | some tree =>
      have early := places tree (tree_early valid shown)
      simp [tracking,early]

theorem toplevel_stale (placed : Placed s) (kind : (s.server.surfaces view).xwayland = false) :
    (s.server.tables view).sceneTree.all (fun tree => decide (s.place tree = position s.server view)) = true := by
  have tracking : tracked s.server view = true := by
    unfold tracked
    rw [kind]
    rfl
  cases shown : (s.server.tables view).sceneTree with
  | none => rfl
  | some tree => simpa using placed view tracking tree shown

theorem marked_tracked (s : Server) (view : Nat) : (∀ other, other ≠ view →
    tracked ((s.setSurface view Surface.mapping).pushed view) other = tracked s other) ∧
      tracked ((s.setSurface view Surface.mapping).pushed view) view = true := by
  constructor
  · intro other apart
    simp [tracked,Server.pushed,Server.setSurface,apart]
  · simp [tracked,Server.pushed,Server.setSurface,Surface.mapping]

-- What a map handler does to the places and the tables when the view is put into the scene.
theorem put_placed (valid : Valid s) (placed : Placed s) (alive : (s.server.surfaces view).life = .alive)
    (bound : (s.server.surfaces view).bound = true) (kind : (s.server.surfaces view).xwayland = true) :
    Ensures (putIntoScene answers view) { s with server := (s.server.setSurface view Surface.mapping).pushed view }
      (fun _ t => mapRaises answers view s.server = false ∧
        (Placed t ↔ xwLocalCoords view s = position s.server view))
      fun t => mapRaises answers view s.server = true ∧ (Placed t ↔
        (s.server.tables view).sceneTree.all (fun tree => decide (s.place tree = position s.server view)) = true) := by
  obtain ⟨others,own⟩ := marked_tracked s.server view
  have scene : Ensures (when (s.server.surfaces view).xwayland (putIntoScene answers view))
      { s with server := (s.server.setSurface view Surface.mapping).pushed view } _ _ := put_ensures valid alive bound
  rw [kind] at scene
  have projected : Simulates Stage.server (putIntoScene answers view) (Tinyjl.putIntoScene answers view)
      { s with server := (s.server.setSurface view Surface.mapping).pushed view } _ _ :=
    ⟨(putIntoScene_projects _).1,putIntoScene_places⟩
  have both := ensures_and scene (simulates_part projected putIntoScene_tables).2
  have refusal : refused s.server answers view = mapRaises answers view s.server := by
    unfold refused
    rw [kind,Bool.true_and]
  apply ensures_weaken both
  · rintro _ t ⟨⟨_,moved,calm⟩,⟨tree,shown,place,kept⟩,tables⟩
    refine ⟨refusal ▸ calm,?_⟩
    have after := (scene_preserved valid.listing.sound moved.moved).built
    have elsewhere : ∀ other, other ≠ view → tracked t.server other = tracked s.server other ∧
        t.server.tables other = s.server.tables other ∧
          ∀ node, (s.server.tables other).sceneTree = some node → t.place node = s.place node := by
      intro other apart
      have table := tables.tables other apart
      refine ⟨(congrFun (tracked_links tables.links) other).trans (others other apart),table,?_⟩
      intro node first
      apply kept node (tree_early valid.listing.sound.built first)
      intro same
      have second : (t.server.tables other).sceneTree = some node := by
        rw [table]
        exact first
      exact trees_differ after apart second (same ▸ shown)
    have coords : xwLocalCoords view { s with server := (s.server.setSurface view Surface.mapping).pushed view } =
        xwLocalCoords view s := by
      simp [xwLocalCoords,Server.pushed,Server.setSurface,Surface.mapping]
    rw [placed_but placed elsewhere]
    unfold InPlace
    rw [shown,tables.position,congrFun (tracked_links tables.links) view,← coords,← place]
    constructor
    · exact fun held => held own tree rfl
    · rintro held _ _ ⟨⟩
      exact held
  · rintro t ⟨⟨_,_,raised⟩,kept,tables,same⟩
    refine ⟨refusal ▸ raised,?_⟩
    have tracks := tracked_links same
    apply stale_placed valid.listing.sound.built placed tables kept
    · intro other apart
      rw [tracks]
      exact others other apart
    · rw [tracks]
      exact own

theorem map_placed (valid : Valid s) (placed : Placed s) (alive : (s.server.surfaces view).life = .alive) :
    Ensures (performDesktop (.map answers view)) s
      (fun _ t => Placed t ↔ keepsPlace s (.desktop (.map answers view)) = true)
      fun t => Placed t ↔ keepsPlace s (.desktop (.map answers view)) = true := by
  obtain ⟨others,own⟩ := marked_tracked s.server view
  have marked : ((s.server.setSurface view Surface.mapping).surfaces view).bound = (s.server.surfaces view).bound ∧
      (((s.server.setSurface view Surface.mapping).pushed view).surfaces view).xwayland =
        (s.server.surfaces view).xwayland := by
    simp [Server.pushed,Server.setSurface,Surface.mapping]
  have stale : ∀ views, Placed { s with
      server := { s.server.setSurface view Surface.mapping with views := views } } ↔
      (s.server.tables view).sceneTree.all (fun tree => decide (s.place tree = position s.server view)) = true :=
    fun views => stale_placed (t := { s with
      server := { s.server.setSurface view Surface.mapping with views := views } })
      valid.listing.sound.built placed rfl (fun _ _ => rfl) others own
  unfold keepsPlace
  apply ensures_bind
  apply ensures_modify
  apply ensures_bind
  apply ensures_read
  simp only [marked.1]
  cases bound : (s.server.surfaces view).bound with
  | false =>
      apply ensures_pure
      refine (stale s.server.views).trans ?_
      cases kind : (s.server.surfaces view).xwayland with
      | true => simp
      | false => simp [toplevel_stale placed kind]
  | true =>
      apply ensures_bind
      apply ensures_modify
      apply ensures_bind
      apply ensures_read
      apply ensures_bind
      change Ensures (when (((s.server.setSurface view Surface.mapping).pushed view).surfaces view).xwayland _) _ _ _
      rw [marked.2]
      cases kind : (s.server.surfaces view).xwayland with
      | true =>
          apply ensures_weaken (put_placed valid placed alive bound kind)
          · intro _ t put
            apply ensures_imp _ (focusMapped_spots t)
            intro u same
            rw [placed_spots same,put.2,put.1]
            simp
          · intro t put
            rw [put.2,put.1]
            simp
      | false =>
          apply ensures_pure
          apply ensures_imp _ (focusMapped_spots _)
          intro u same
          refine iff_of_true ?_ rfl
          exact (placed_spots same).mpr ((stale (s.server.views ++ [view])).mpr (toplevel_stale placed kind))

theorem tracked_set {s : Server} {change : Surface → Surface}
    (kind : (change (s.surfaces view)).xwayland = (s.surfaces view).xwayland)
    (mapped : (change (s.surfaces view)).mapped = (s.surfaces view).mapped) :
    tracked (s.setSurface view change) = tracked s := by
  funext other
  by_cases same : other = view
  · subst same
    simp [tracked,Server.setSurface,kind,mapped]
  · simp [tracked,Server.setSurface,same]

theorem set_placed {change : Surface → Surface} (placed : Placed s)
    (kind : (change (s.server.surfaces view)).xwayland = (s.server.surfaces view).xwayland)
    (mapped : (change (s.server.surfaces view)).mapped = (s.server.surfaces view).mapped) :
    Placed { s with server := s.server.setSurface view change } := by
  have tracks : tracked (s.server.setSurface view change) = tracked s.server := tracked_set kind mapped
  unfold Placed InPlace
  rw [tracks]
  exact placed

theorem placed_kept {act : Act Stage α} (kept : Keeps spots act) : Preserves Placed act :=
  preserves_keeps kept fun _ _ same placed => (placed_spots same).mpr placed

-- A new toplevel is where its node is made.
theorem shown_placed (valid : Built s.server.scenery) (placed : Placed s)
    (tables : t.server.tables = Function.update s.server.tables view ⟨some s.server.nextTree,none,0,0⟩)
    (place : t.place = Function.update s.place s.server.nextTree (0,0))
    (tracks : tracked t.server = tracked s.server) : Placed t := by
  have elsewhere : ∀ other, other ≠ view → tracked t.server other = tracked s.server other ∧
      t.server.tables other = s.server.tables other ∧
        ∀ tree, (s.server.tables other).sceneTree = some tree → t.place tree = s.place tree := by
    intro other apart
    refine ⟨congrFun tracks other,?_,?_⟩
    · rw [tables]
      exact Function.update_of_ne apart ..
    · intro tree shown
      rw [place]
      exact Function.update_of_ne (Nat.ne_of_lt (tree_early valid shown)) ..
  rw [placed_but placed elsewhere]
  rintro _ tree shown
  rw [tables,Function.update_self] at shown
  obtain rfl := Option.some.inj shown
  unfold position
  rw [place,tables,Function.update_self,Function.update_self]

theorem newToplevel_placed (valid : Built s.server.scenery) (placed : Placed s) :
    Ensures (performDesktop (.newXdgSurface answers view)) s (fun _ t => Placed t) Placed := by
  have woken : links (s.server.setSurface view Surface.waking) = links s.server := links_set rfl rfl rfl
  apply ensures_bind
  apply ensures_modify
  apply ensures_bind
  apply appear_ensures grows_created
  · intro content
    apply on_ensures
    apply ensures_bind
    apply ensures_modify
    apply ensures_bind
    apply ensures_modify
    apply ensures_bind
    apply ensures_modify
    apply ensures_modify
    apply shown_placed valid placed rfl rfl
    funext other
    by_cases same : other = view
    · subst same
      simp [tracked,arrived,Server.setSurface,Server.setTable,Server.setTree,Server.grown,Surface.waking]
    · simp [tracked,arrived,Server.setSurface,Server.setTable,Server.setTree,Server.grown,same]
  · apply (placed_spots (s := s) _).mpr placed
    exact congrArg (fun linked => (linked,s.server.tables,s.place,s.window)) woken

-- What outlives a surface: the tables, the places and the windows, and the kinds of the others.
theorem destroy_kept : Keeps (fun s => (s.server.tables,s.place,s.window)) (performDesktop (.destroy view)) := by
  have framed : ∀ {act : Act Server Unit}, Keeps Server.tables act →
      Keeps (fun s : Stage => (s.server.tables,s.place,s.window)) (onServer act) :=
    fun kept => keeps_view (on_keeps kept) fun both => (both.1,both.2.2.1,both.2.2.2.1)
  apply keeps_bind (keeps_read _)
  intro tree
  apply keeps_bind
  · cases tree with
    | none => exact keeps_pure ()
    | some root =>
        apply keeps_bind
        · apply framed
          apply keeps_bind reach_keeps
          intro _
          exact keeps_modify fun _ => rfl
        · intro _
          exact keeps_modify fun _ => rfl
  · intro _
    apply framed
    exact keeps_modify fun _ => rfl

theorem destroy_links (levelled : Levelled s) : Ensures (performDesktop (.destroy view)) s
    (fun _ t => (∀ id, links t.server id = ((s.server.surfaces id).xwayland,(s.server.surfaces id).mapped,
        if id = view then none else (s.server.surfaces id).parent.filter fun parent => decide (parent ≠ view))) ∧
      (t.server.tables,t.place,t.window) = (s.server.tables,s.place,s.window)) fun _ => False := by
  apply ensures_weaken (ensures_and (destroy_cleared levelled) (destroy_kept s))
  · intro _ t ended
    obtain ⟨⟨_,scenery,_⟩,same⟩ := ended
    refine ⟨?_,same⟩
    intro id
    have surfaces := congrFun (congrArg Scenery.surfaces scenery) id
    change t.server.surfaces id = _ at surfaces
    unfold links
    rw [surfaces]
    rfl
  · exact fun _ ended => ended.1

theorem destroy_placed (levelled : Levelled s) (placed : Placed s) :
    Ensures (performDesktop (.destroy view)) s (fun _ t => Placed t) Placed := by
  apply ensures_weaken (destroy_links levelled)
  · intro _ t ended
    obtain ⟨linked,same⟩ := ended
    apply (placed_same ?_ (congrArg (fun all => all.1) same) (congrArg (fun all => all.2.1) same)).mpr placed
    funext id
    have kind : (t.server.surfaces id).xwayland = (s.server.surfaces id).xwayland := congrArg Prod.fst (linked id)
    have mapped : (t.server.surfaces id).mapped = (s.server.surfaces id).mapped :=
      congrArg (fun link => link.2.1) (linked id)
    unfold tracked
    rw [kind,mapped]
  · exact fun _ impossible => impossible.elim

theorem born_placed (placed : Placed s) : Ensures (performDesktop (.newXwaylandSurface view wantsFocus)) s
    (fun _ t => Placed t) Placed := by
  apply on_ensures
  apply ensures_bind
  apply ensures_modify
  apply ensures_bind
  apply ensures_modify
  apply ensures_modify
  intro other tracking tree shown
  by_cases same : other = view
  · subst same
    simp [Server.setSurface,Server.setTable] at shown
  · simp only [tracked,Server.setSurface,Server.setTable,Function.update_of_ne same] at tracking shown
    simp only [position,Server.setSurface,Server.setTable,Function.update_of_ne same]
    exact placed other tracking tree shown

theorem hidden_placed (placed : Placed s) : Placed { s with
    server := s.server.setSurface view fun surface => { surface with mapped := false } } := by
  intro other tracking tree shown
  apply placed other _ tree shown
  by_cases same : other = view
  · subst same
    simp only [tracked,Server.setSurface,Function.update_self,Bool.or_false] at tracking
    unfold tracked
    rw [tracking]
    rfl
  · simpa [tracked,Server.setSurface,same] using tracking

theorem desktop_placed (valid : Valid s) (placed : Placed s) (shows : ∀ answers view, event ≠ .map answers view)
    (moves : ∀ answers x y, event ≠ .cursorMotion answers x y) :
    Ensures (perform (.desktop event)) s (fun _ t => Placed t) Placed := by
  have built := valid.listing.sound.built
  change Ensures (performDesktop event) s _ _
  cases event with
  | map answers id => exact absurd rfl (shows answers id)
  | cursorMotion answers x y => exact absurd rfl (moves answers x y)
  | newXdgSurface answers id => exact newToplevel_placed built placed
  | newXwaylandSurface id wantsFocus => exact born_placed placed
  | setParent id parent =>
      apply on_ensures
      apply ensures_modify
      exact set_placed placed rfl rfl
  | setWantsFocus id wantsFocus =>
      apply on_ensures
      apply ensures_modify
      exact set_placed placed rfl rfl
  | unmap answers id =>
      apply unmap_marked _ _ s placed
      · exact fun s placed => hidden_placed placed
      · apply listened_preserves placed_rest
        exact unmap_preserves placed_rest (fun _ _ => focusView_placed) fun s placed => placed
  | destroy id => exact destroy_placed valid.levelled placed
  | requestMove answers id serial =>
      exact preserves_keeps (rest_on (keeps_both requestMove_keeps (keeps_view interactive_apart Prod.fst))) placed_rest s placed
  | requestResize answers id serial edges =>
      exact preserves_keeps (rest_on (keeps_both requestResize_keeps (keeps_view interactive_apart Prod.fst))) placed_rest s placed
  | cursorButton answers button state =>
      exact cursorButton_preserves placed_rest (fun _ _ => focusView_placed) s placed
  | keyF1 answers => exact focusNextView_preserves placed_rest (fun _ _ => focusView_placed) s placed
  | modifiers => exact ensures_pure () placed
  | keyboardFocus surface =>
      have kept : Keeps spots (performDesktop (.keyboardFocus surface)) := spots_on (keeps_modify fun _ => rfl)
      exact placed_kept kept s placed

theorem step_placed (valid : Valid s) (placed : Placed s) (accepted : step s event = some t) :
    Placed t ↔ keepsPlace s event = true := by
  have built := valid.listing.sound.built
  have kept : (admits s event = true → Ensures (perform event) s (fun _ t => Placed t) Placed) →
      keepsPlace s event = true → (Placed t ↔ keepsPlace s event = true) :=
    fun ended passed => iff_of_true (step_ended accepted ended) passed
  cases event with
  | desktop inner =>
      cases inner with
      | map answers id =>
          apply step_ended accepted
          intro admitted
          change Tinyjl.admits s.server (.map answers id) = true at admitted
          simp only [Tinyjl.admits,Bool.and_eq_true,decide_eq_true_eq] at admitted
          exact map_placed valid placed admitted.1
      | cursorMotion answers x y =>
          apply step_ended accepted
          intro _
          apply ensures_imp _ cursorMotion_relocates
          exact fun t relocates => relocates_placed built placed relocates
      | _ =>
          refine kept (fun _ => ?_) rfl
          apply desktop_placed valid placed
          · simp
          · simp
  | requestConfigure id x y =>
      refine kept (fun _ => ?_) rfl
      apply ensures_bind
      apply ensures_read
      cases (s.server.surfaces id).bound with
      | false => exact ensures_pure () placed
      | true =>
          apply ensures_imp _ requestConfigure_relocates
          intro t relocates
          have sent : Placed (s.sending id x.toInt y.toInt) := placed
          exact (relocates_placed (s := s.sending id x.toInt y.toInt) built sent relocates).mpr (configure_settles x y)
  | setGeometry id x y =>
      refine kept (fun admitted => ?_) rfl
      have live := (liveXwayland_exact.mp admitted).2
      apply ensures_bind
      apply ensures_modify
      apply ensures_bind
      apply ensures_read
      change Ensures (when (s.server.surfaces id).bound _) _ _ _
      cases (s.server.surfaces id).bound with
      | false => exact ensures_pure () placed
      | true =>
          apply ensures_imp _ setGeometry_relocates
          intro t relocates
          have seen : Placed { s with window := Function.update s.window id (x,y) } := placed
          exact (relocates_placed (s := { s with window := Function.update s.window id (x,y) }) built seen relocates).mpr
            (geometry_settles live)
  | requestMode mode answers layout id =>
      refine kept (fun _ => ?_) rfl
      apply ensures_bind
      apply ensures_read
      cases (s.server.surfaces id).bound with
      | false => exact ensures_pure () placed
      | true =>
          apply ensures_imp _ requestMode_relocates
          exact fun t relocates => (relocates_placed built placed relocates).mpr request_settles

theorem start_placed : Placed (start windows) := by
  intro view _ tree shown
  simp [start,Tinyjl.start] at shown

-- In every run the view of every toplevel and of every mapped X11 window is where its node is,
-- exactly if it is mapped there and never dragged out of the 32-bit range.
theorem placing_exact (windows : Nat → BitVec 16 × BitVec 16) (events : List Event) :
    (∀ t ∈ visited step (start windows) events, Placed t) ↔
      ∀ row ∈ taken step (start windows) events, keepsPlace row.1 row.2 = true := by
  apply gate_exact Valid Placed fun s event => keepsPlace s event = true
  · intro s event t valid accepted
    exact valid_preserved valid accepted
  · intro s event t valid placed accepted
    exact step_placed valid placed accepted
  · exact start_valid
  · exact start_placed

end

end Janetland.Tinyjl.Stage
