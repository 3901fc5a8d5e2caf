import Janetland.Tinyjl.StageSteps
import Janetland.Tinyjl.ViewList

namespace Janetland.Tinyjl.Stage
open Act EventRuns Arrangements
open Server (Scenery)
open Toggles (Mode)

-- The tree of a view, if it is one of the stacked ones.
def rootTree (c : Scenery) (view : Nat) : Option Nat :=
  (c.sceneTree view).filter fun tree => decide ((c.trees tree).parent = some sceneRoot)

-- The stack follows the list of views.
def Stacked (s : Stage) : Prop := Ordered (rootTree s.server.scenery) s.server.views s.stack

-- The stack holds the nodes that are alive below the root.
structure Levelled (s : Stage) : Prop where
  distinct : s.stack.Nodup
  exact : ∀ tree, tree ∈ s.stack ↔ (s.server.trees tree).alive = true ∧ (s.server.trees tree).parent = some sceneRoot
  fresh : ∀ tree, s.server.nextTree ≤ tree → (s.server.trees tree).parent = none

-- New nodes came on top.
structure Grew (base : List Nat) (s : Stage) : Prop where
  levelled : Levelled s
  lower : base <+: s.stack

def rungs (s : Server) : (Nat → Bool × Option Nat) × Nat :=
  (fun tree => ((s.trees tree).alive,(s.trees tree).parent),s.nextTree)

-- What the server does not hold.
def beside (s : Stage) : List Nat × (Nat → Int × Int) × (Nat → BitVec 16 × BitVec 16) × (Nat → Mode → Option SavedBox) :=
  (s.stack,s.place,s.window,s.saved)

def whole (s : Stage) : Scenery × List Nat × List Nat := (s.server.scenery,s.server.views,s.stack)

section
variable {s t : Stage} {answers : Answers} {view id : Nat}

theorem on_ensures {act : Act Server α} {returned : α → Stage → Prop} {raised : Stage → Prop}
    (ended : Ensures act s.server (fun value t => returned value { s with server := t })
      fun t => raised { s with server := t }) : Ensures (onServer act) s returned raised := ensures_on ended

theorem on_keeps {part : Server → γ} {act : Act Server α} (kept : Keeps part act) :
    Keeps (fun s => (part s.server,beside s)) (onServer act) := by
  intro s
  apply on_ensures
  exact ensures_imp (fun _ same => congrArg (fun first => (first,beside s)) same) (kept s.server)

theorem levelled_same (same : rungs t.server = rungs s.server) (stack : t.stack = s.stack) (levelled : Levelled s) :
    Levelled t := by
  have trees : ∀ tree, (t.server.trees tree).alive = (s.server.trees tree).alive ∧
      (t.server.trees tree).parent = (s.server.trees tree).parent := by
    intro tree
    have one := congrFun (congrArg Prod.fst same) tree
    exact ⟨congrArg Prod.fst one,congrArg Prod.snd one⟩
  have next : t.server.nextTree = s.server.nextTree := congrArg Prod.snd same
  refine ⟨stack ▸ levelled.distinct,?_,?_⟩
  · intro tree
    rw [stack,(trees tree).1,(trees tree).2]
    exact levelled.exact tree
  · intro tree late
    rw [(trees tree).2]
    exact levelled.fresh tree (next ▸ late)

theorem grew_same (same : rungs t.server = rungs s.server) (stack : t.stack = s.stack) (grew : Grew base s) :
    Grew base t := ⟨levelled_same same stack grew.levelled,stack ▸ grew.lower⟩

theorem grew_on {act : Act Server α} (kept : Keeps rungs act) : Preserves (Grew base) (onServer act) := by
  apply preserves_keeps (on_keeps kept)
  intro s t same grew
  exact grew_same (congrArg Prod.fst same) (congrArg (fun both => both.2.1) same) grew

theorem grew_read {inspect : Stage → α} : Preserves (Grew base) (read inspect) := fun _ grew => ensures_read grew

theorem grew_when {act : Act Stage Unit} (kept : Preserves (Grew base) act) :
    Preserves (Grew base) (when condition act) := by
  cases condition with
  | true => exact kept
  | false => exact fun _ grew => ensures_pure () grew

theorem grew_noted {change : Stage → Stage} (same : ∀ s, rungs (change s).server = rungs s.server)
    (stack : ∀ s, (change s).stack = s.stack) : Preserves (Grew base) (modify change) :=
  fun s grew => grew_same (same s) (stack s) grew

-- What the three constructors of scene nodes do.
def Grows (parent : Nat) (create : Act Server Nat) : Prop := ∀ s, Ensures create s
  (fun tree t => tree = s.nextTree ∧ ∃ content, t = s.grown parent content) fun t => t = s

theorem grows_created {created : Bool} : Grows parent (do
    reach parent
    if created then grow parent content else lift (panicf error [])) := by
  intro s
  apply ensures_bind
  apply reach_ensures
  intro _
  cases created with
  | true => exact ⟨rfl,content,rfl⟩
  | false => exact rfl

def arrived (s : Stage) (parent : Nat) (content : Option Nat) : Stage := { s with
  server := s.server.grown parent content
  place := Function.update s.place s.server.nextTree (0,0)
  stack := if parent = sceneRoot then s.stack ++ [s.server.nextTree] else s.stack }

theorem appear_ensures {create : Act Server Nat} {returned : Nat → Stage → Prop} {raised : Stage → Prop}
    (grows : Grows parent create) (made : ∀ content, returned s.server.nextTree (s.arrived parent content))
    (failed : raised s) : Ensures (appear parent create) s returned raised := by
  apply ensures_bind
  apply on_ensures
  apply ensures_weaken (grows s.server)
  · rintro _ _ ⟨rfl,content,rfl⟩
    exact made content
  · rintro _ rfl
    exact failed

theorem Levelled.absent (levelled : Levelled s) : s.server.nextTree ∉ s.stack := by
  intro inside
  have edge := ((levelled.exact _).mp inside).2
  rw [levelled.fresh _ (Nat.le_refl _)] at edge
  simp at edge

theorem Levelled.arrive (levelled : Levelled s) : Levelled (s.arrived parent content) := by
  have old : ∀ tree, tree ≠ s.server.nextTree → (s.server.grown parent content).trees tree = s.server.trees tree :=
    fun _ apart => Function.update_of_ne apart ..
  have new : (s.server.grown parent content).trees s.server.nextTree = ⟨true,some parent,none,content⟩ :=
    Function.update_self ..
  have members : ∀ tree, tree ∈ (s.arrived parent content).stack ↔
      tree ∈ s.stack ∨ tree = s.server.nextTree ∧ parent = sceneRoot := by
    intro tree
    unfold arrived
    split
    · rename_i level
      simp [level]
    · rename_i hidden
      simp [hidden]
  refine ⟨?_,?_,?_⟩
  · unfold arrived
    split
    · exact List.nodup_append_comm.mp (List.nodup_cons.mpr ⟨levelled.absent,levelled.distinct⟩)
    · exact levelled.distinct
  · intro tree
    rw [members]
    change _ ↔ ((s.server.grown parent content).trees tree).alive = true ∧
      ((s.server.grown parent content).trees tree).parent = some sceneRoot
    by_cases same : tree = s.server.nextTree
    · subst same
      simp [new,levelled.absent]
    · simp only [old tree same,same,false_and,or_false]
      exact levelled.exact tree
  · intro tree late
    have later : s.server.nextTree + 1 ≤ tree := late
    change ((s.server.grown parent content).trees tree).parent = none
    rw [old tree (by omega)]
    exact levelled.fresh tree (by omega)

theorem Grew.arrive (grew : Grew base s) : Grew base (s.arrived parent content) := by
  refine ⟨grew.levelled.arrive,grew.lower.trans ?_⟩
  unfold arrived
  split
  · exact List.prefix_append _ _
  · exact List.prefix_refl _

theorem appear_grew {create : Act Server Nat} (grows : Grows parent create) :
    Preserves (Grew base) (appear parent create) :=
  fun _ grew => appear_ensures grows (fun _ => grew.arrive) grew

theorem treeOf_grew : Preserves (Grew base) (treeOf answers parent data) := by
  cases data with
  | none => exact appear_grew grows_created
  | some tree => exact fun _ grew => ensures_pure tree grew

theorem setPosition_grew : Preserves (Grew base) (wlrSceneNodeSetPosition tree x y) := by
  apply preserves_bind (grew_on setPosition_keeps)
  intro _
  cases tree with
  | none => exact grew_noted (fun _ => rfl) fun _ => rfl
  | some tree => exact grew_noted (fun _ => rfl) fun _ => rfl

theorem sceneCreate_grew : Preserves (Grew base) (sceneXwaylandSurfaceCreate answers parent view) := by
  apply preserves_bind grew_read
  intro data
  apply preserves_bind treeOf_grew
  intro tree
  apply preserves_bind (appear_grew grows_created)
  intro surfaceTree
  refine preserves_bind (grew_when (grew_on (keeps_modify fun _ => rfl))) fun _ => ?_
  apply preserves_bind grew_read
  intro coords
  apply preserves_bind setPosition_grew
  intro _ _ grew
  exact ensures_pure _ grew

theorem rungs_data (s : Server) (tree : Nat) (data : Option Nat) :
    rungs (s.setTree tree fun node => { node with data := data }) = rungs s := by
  unfold rungs
  congr 1
  funext other
  by_cases same : other = tree
  · subst same
    simp [Server.setTree]
  · simp [Server.setTree,same]

theorem putIntoScene_grew : Preserves (Grew base) (putIntoScene answers view) := by
  apply preserves_bind (grew_on (keeps_look _))
  intro parentTree
  apply preserves_bind sceneCreate_grew
  intro made
  apply grew_on
  refine keeps_bind (keeps_modify fun _ => rfl) fun _ => ?_
  refine keeps_bind (keeps_modify fun _ => rfl) fun _ => ?_
  refine keeps_bind (keeps_modify fun _ => rfl) fun _ => ?_
  exact keeps_modify fun s => rungs_data s made.1 (some view)

-- Whether focus-view gets to the tree of the view.
def turns (answers : Answers) (surface : Option WlSurface) (s : Server) : Bool :=
  decide (s.focusedSurface ≠ surface) && (s.focusedSurface.isNone || match answers.deactivated with
    | .ok _ => true
    | _ => false)

-- What focus-view makes of the list and of the stack.
def turned (s : Stage) (answers : Answers) (view : Nat) (surface : Option WlSurface) : List Nat × List Nat :=
  if turns answers surface s.server then (s.server.tables view).sceneTree.elim (s.server.views,s.stack)
    fun tree => (toEnd view s.server.views,toEnd tree s.stack)
  else (s.server.views,s.stack)

structure Refocused (s : Stage) (answers : Answers) (view : Nat) (surface : Option WlSurface) (t : Stage) : Prop where
  scenery : t.server.scenery = s.server.scenery
  lists : (t.server.views,t.stack) = s.turned answers view surface
  alive : turns answers surface s.server = true → ∀ tree, (s.server.tables view).sceneTree = some tree →
    (s.server.trees tree).alive = true

theorem whole_on {act : Act Server α} (kept : Keeps (fun s => (s.scenery,s.views)) act) : Keeps whole (onServer act) :=
  keeps_view (on_keeps kept) fun both => (both.1.1,both.1.2,both.2.1)

theorem whole_ensures {act : Act Server Unit} {after : Stage → Prop} (kept : Keeps (fun s => (s.scenery,s.views)) act)
    (holds : ∀ t, whole t = whole s → after t) : Ensures (onServer act) s (fun _ t => after t) after :=
  ensures_imp holds (whole_on kept s)

theorem toEnd_listed (s : Server) (view : Nat) : (if contains s.views view then
    { s with views := removeElement s.views view ++ [view] } else s) = { s with views := toEnd view s.views } := by
  unfold toEnd
  rw [removeElement_erase]
  by_cases listed : view ∈ s.views
  · rw [if_pos ((contains_exact s.views view).mpr listed),if_pos listed]
  · rw [if_neg (fun found => listed ((contains_exact s.views view).mp found)),if_neg listed]

theorem refocused_still (calm : turns answers surface s.server = false) : Refocused s answers view surface s := by
  refine ⟨rfl,?_,?_⟩
  · unfold turned
    rw [calm]
    rfl
  · intro stirred
    rw [calm] at stirred
    simp at stirred

theorem refocused_turned (stirred : turns answers surface s.server = true)
    (shown : (s.server.tables view).sceneTree = some tree) (alive : (s.server.trees tree).alive = true)
    (same : whole t = (s.server.scenery,toEnd view s.server.views,toEnd tree s.stack)) :
    Refocused s answers view surface t := by
  refine ⟨congrArg Prod.fst same,?_,?_⟩
  · unfold turned
    rw [if_pos stirred,shown]
    exact congrArg Prod.snd same
  · intro _ other found
    rw [shown] at found
    obtain rfl := Option.some.inj found
    exact alive

theorem raise_ensures {returned : Unit → Stage → Prop} (holds : (s.server.trees tree).alive = true →
    returned () { s with stack := toEnd tree s.stack }) :
    Ensures (wlrSceneNodeRaiseToTop tree) s returned raised := by
  apply ensures_bind
  apply on_ensures
  apply reach_ensures
  exact holds

-- Taking the activation from another surface is the first thing that may fail.
theorem deactivated_ensures (other : s.server.focusedSurface ≠ surface) :
    Ensures (when s.server.focusedSurface.isSome (lift answers.deactivated)) s
      (fun _ t => t = s ∧ turns answers surface s.server = true)
      fun t => t = s ∧ turns answers surface s.server = false := by
  cases focused : s.server.focusedSurface with
  | none => exact ensures_pure () ⟨rfl,by simp [turns,focused,focused ▸ other]⟩
  | some previous =>
      cases calm : answers.deactivated with
      | ok value => exact ensures_pure () ⟨rfl,by simp [turns,focused,calm,focused ▸ other]⟩
      | panic error =>
          refine ensures_lift (fun _ found => by simp at found) ⟨rfl,?_⟩
          simp [turns,focused,calm]
      | fault kind => trivial

theorem look_ensures {inspect : Server → Res α} {returned : α → Stage → Prop} {raised : Stage → Prop}
    (holds : ∀ value, inspect s.server = .ok value → returned value s)
    (failed : ∀ error, inspect s.server = .panic error → raised s) :
    Ensures (onServer (look inspect)) s returned raised := on_ensures (ensures_look holds failed)

theorem needed_ensures {get : Server → Option α} {returned : α → Stage → Prop} {raised : Stage → Prop}
    (holds : ∀ value, get s.server = some value → returned value s) (failed : get s.server = none → raised s) :
    Ensures (onServer (look fun s => needed (get s))) s returned raised := by
  apply look_ensures
  · intro value found
    apply holds
    cases held : get s.server with
    | none => simp [held,needed,panicf] at found
    | some other =>
        rw [held] at found
        exact congrArg some (Res.ok.inj found)
  · intro error missing
    apply failed
    cases held : get s.server with
    | none => rfl
    | some value => simp [held,needed] at missing

theorem focusView_refocused : Ensures (focusView answers view surface) s
    (fun _ t => Refocused s answers view surface t) fun t => Refocused s answers view surface t := by
  apply ensures_bind
  apply ensures_read
  split
  · rename_i same
    exact ensures_pure () (refocused_still (by simp [turns,same]))
  · rename_i other
    apply ensures_bind
    apply ensures_weaken (deactivated_ensures other)
    · rintro _ _ ⟨rfl,stirred⟩
      rename_i s
      apply ensures_bind
      apply needed_ensures
      · intro tree shown
        apply ensures_bind
        apply raise_ensures
        intro alive
        apply ensures_bind
        apply ensures_modify
        apply ensures_bind
        apply ensures_read
        apply whole_ensures
        · apply keeps_when
          apply keeps_bind (keeps_lift _)
          intro wlrSurface
          exact keeps_when (keeps_modify fun _ => rfl)
        · intro t same
          simp only [toEnd_listed] at same
          exact refocused_turned stirred shown alive same
      · intro hidden
        refine ⟨rfl,?_,?_⟩
        · simp [turned,stirred,hidden]
        · intro _ tree shown
          rw [hidden] at shown
          simp at shown
    · rintro _ ⟨rfl,calm⟩
      exact refocused_still calm

theorem rootTree_found {c : Scenery} : rootTree c view = some tree ↔
    c.sceneTree view = some tree ∧ (c.trees tree).parent = some sceneRoot := by
  unfold rootTree
  rw [Option.filter_eq_some_iff,decide_eq_true_eq]

theorem rootTree_apart {c : Scenery} (valid : Built c) : Apart (rootTree c) := by
  intro first second tree one two
  have owned : ∀ view, rootTree c view = some tree → (c.trees tree).data = some view := by
    intro view found
    have cached := (rootTree_found.mp found).1
    rw [valid.matching] at cached
    exact (valid.cached view tree cached).2.1
  exact Option.some.inj ((owned first one).symm.trans (owned second two))

-- Where the item of a member is not stacked, focus-view leaves the stack.
theorem toEnd_hidden (levelled : Levelled s) (shown : (s.server.tables view).sceneTree = some tree)
    (hidden : rootTree s.server.scenery view = none) : toEnd tree s.stack = s.stack := by
  apply if_neg
  intro inside
  have edge := ((levelled.exact tree).mp inside).2
  have found : rootTree s.server.scenery view = some tree := rootTree_found.mpr ⟨shown,edge⟩
  rw [hidden] at found
  simp at found

theorem refocused_stacked (apart : Apart (rootTree s.server.scenery)) (distinct : s.server.views.Nodup)
    (levelled : Levelled s) (stacked : Stacked s) (refocused : Refocused s answers view surface t) : Stacked t := by
  obtain ⟨scenery,lists,alive⟩ := refocused
  unfold Stacked
  rw [scenery]
  unfold turned at lists
  split at lists
  · rename_i stirred
    cases shown : (s.server.tables view).sceneTree with
    | none =>
        rw [shown] at lists
        obtain ⟨views,stack⟩ := Prod.mk.inj lists
        rw [views,stack]
        exact stacked
    | some tree =>
        rw [shown] at lists
        obtain ⟨views,stack⟩ := Prod.mk.inj lists
        rw [views,stack]
        cases level : rootTree s.server.scenery view with
        | none =>
            rw [toEnd_hidden levelled shown level]
            exact ordered_toEnd_hidden stacked level
        | some other =>
            obtain ⟨found,edge⟩ := rootTree_found.mp level
            obtain rfl : tree = other := Option.some.inj (shown.symm.trans found)
            apply ordered_toEnd apart distinct stacked level
            intro _
            exact (levelled.exact tree).mpr ⟨alive stirred tree shown,edge⟩
  · obtain ⟨views,stack⟩ := Prod.mk.inj lists
    rw [views,stack]
    exact stacked

-- A view that was just added comes on top with its tree.
theorem refocused_top (apart : Apart (rootTree s.server.scenery)) (added : s.server.views = views ++ [view])
    (fresh : view ∉ views) (levelled : Levelled s) (ordered : Ordered (rootTree s.server.scenery) views s.stack)
    (refocused : Refocused s answers view surface t) (stirred : turns answers surface s.server = true) : Stacked t := by
  obtain ⟨scenery,lists,alive⟩ := refocused
  unfold Stacked
  rw [scenery]
  unfold turned at lists
  rw [if_pos stirred,added] at lists
  cases shown : (s.server.tables view).sceneTree with
  | none =>
      rw [shown] at lists
      obtain ⟨after,stack⟩ := Prod.mk.inj lists
      have hidden : rootTree s.server.scenery view = none := by
        unfold rootTree
        rw [show s.server.scenery.sceneTree view = none from shown]
        rfl
      rw [after,stack]
      exact (ordered_hidden hidden).mpr ordered
  | some tree =>
      rw [shown] at lists
      obtain ⟨after,stack⟩ := Prod.mk.inj lists
      rw [after,stack,toEnd_last fresh]
      cases level : rootTree s.server.scenery view with
      | none =>
          rw [toEnd_hidden levelled shown level]
          exact (ordered_hidden level).mpr ordered
      | some other =>
          obtain ⟨found,edge⟩ := rootTree_found.mp level
          obtain rfl : tree = other := Option.some.inj (shown.symm.trans found)
          exact ordered_top apart ordered fresh level ((levelled.exact tree).mpr ⟨alive stirred tree shown,edge⟩)

theorem refocused_calm (refocused : Refocused s answers view surface t) (calm : turns answers surface s.server = false) :
    Stacked t ↔ Stacked s := by
  obtain ⟨scenery,lists,_⟩ := refocused
  unfold turned at lists
  rw [calm] at lists
  obtain ⟨views,stack⟩ := Prod.mk.inj lists
  unfold Stacked
  rw [scenery,views,stack]

-- The end of a map handler: the view is last in the list, and its tree may be an old one.
theorem focusMapped_stacked (apart : Apart (rootTree s.server.scenery)) (added : s.server.views = views ++ [view])
    (fresh : view ∉ views) (levelled : Levelled s) (ordered : Ordered (rootTree s.server.scenery) views s.stack) :
    Ensures (focusMapped answers view) s
      (fun _ t => Stacked t ↔ unfocusable s.server view = true ∨
        turns answers (ownSurface s.server view) s.server = true ∨ Stacked s)
      fun t => Stacked t ↔ unfocusable s.server view = true ∨
        turns answers (ownSurface s.server view) s.server = true ∨ Stacked s := by
  apply ensures_bind
  apply ensures_read
  cases skipped : unfocusable s.server view with
  | true =>
      apply ensures_bind
      apply ensures_modify
      apply ensures_pure
      refine iff_of_true ?_ (.inl rfl)
      change Ordered (rootTree s.server.scenery) s.server.views.dropLast s.stack
      rw [added,List.dropLast_concat]
      exact ordered
  | false =>
      apply ensures_bind
      apply ensures_pure
      apply ensures_bind
      apply ensures_read
      apply ensures_imp _ focusView_refocused
      intro t refocused
      cases stirred : turns answers (ownSurface s.server view) s.server with
      | true => exact iff_of_true (refocused_top apart added fresh levelled ordered refocused stirred) (.inr (.inl rfl))
      | false =>
          rw [refocused_calm refocused stirred]
          simp

end

section
variable {c d : Scenery} {answers : Answers} {view id : Nat}

theorem rootTree_grown (valid : Built c) : rootTree (c.grown parent content) = rootTree c := by
  funext other
  unfold rootTree
  cases shown : c.sceneTree other with
  | none =>
      rw [show (c.grown parent content).sceneTree other = none from shown]
      rfl
  | some tree =>
      have early : tree ≠ c.nextTree := by
        rw [valid.matching] at shown
        exact Nat.ne_of_lt (valid.cached other tree shown).1
      rw [show (c.grown parent content).sceneTree other = some tree from shown]
      simp only [Option.filter_some,grown_old early]

theorem rootTree_adopted (valid : Built c) (apart : other ≠ id) : rootTree (c.adopt id parent) other = rootTree c other := by
  have same : (c.adopt id parent).sceneTree other = c.sceneTree other := Function.update_of_ne apart ..
  unfold rootTree
  rw [same]
  cases shown : c.sceneTree other with
  | none => rfl
  | some tree =>
      have early : tree ≠ c.nextTree := by
        rw [valid.matching] at shown
        exact Nat.ne_of_lt (valid.cached other tree shown).1
      simp only [Option.filter_some,adopted_old early]

-- A map handler changes the tree of no view but its own, and that one only where there is none.
theorem map_rootTree (valid : Sound c) (moved : SceneStep c (.map answers view) d)
    (apart : other ≠ view ∨ (c.surfaces view).data ≠ none) : rootTree d other = rootTree c other := by
  have marked : (c.surfaces view).life = .alive → Built (c.mark view Surface.mapping) :=
    fun alive => (scene_preserved valid (.mapped alive : SceneStep c (.map answers view) _)).built
  cases moved with
  | mapped alive => rfl
  | leaked alive host hollow => exact congrFun (rootTree_grown (marked alive)) other
  | reused alive bound xwayland cached => exact congrFun (rootTree_grown (marked alive)) other
  | @made view parent answers alive bound xwayland host hollow uncached =>
      rcases apart with apart | cached
      · rw [rootTree_grown,rootTree_adopted (marked alive) apart]
        · rfl
        · exact (marked alive).adopt host hollow
      · exact absurd uncached cached
  | still quiet => simp [Event.stirs] at quiet

-- A tree that a view has after its map handler and not before is new.
theorem map_fresh (valid : Sound c) (moved : SceneStep c (.map answers view) d) (uncached : (c.surfaces view).data = none)
    (found : rootTree d view = some tree) : tree = c.nextTree ∧ (d.trees tree).alive = true := by
  have marked : (c.surfaces view).life = .alive → Built (c.mark view Surface.mapping) :=
    fun alive => (scene_preserved valid (.mapped alive : SceneStep c (.map answers view) _)).built
  have before : rootTree c view ≠ some tree := by
    intro old
    have shown := (rootTree_found.mp old).1
    rw [valid.built.matching,uncached] at shown
    simp at shown
  cases moved with
  | mapped alive => exact absurd found before
  | leaked alive host hollow => exact absurd ((congrFun (rootTree_grown (marked alive)) view).symm.trans found) before
  | reused alive bound xwayland cached => exact absurd (cached.symm.trans uncached) (by simp)
  | @made view parent answers alive bound xwayland host hollow _ =>
      have shown := (rootTree_found.mp found).1
      have made : (((c.mark view Surface.mapping).adopt view parent).grown c.nextTree (some view)).sceneTree view =
        some c.nextTree := Function.update_self ..
      obtain rfl := Option.some.inj (made.symm.trans shown)
      refine ⟨rfl,?_⟩
      rw [grown_old (Nat.ne_of_lt (Nat.lt_succ_self _))]
      exact congrArg Tree.alive adopted_new
  | still quiet => simp [Event.stirs] at quiet

end

-- The map handler is about to choose what it focuses.
structure MapScene (s : Server) (answers : Answers) (view : Nat) (t : Server) : Prop where
  moved : SceneStep s.scenery (.map answers view) t.scenery
  views : t.views = s.views ++ [view]
  focused : t.focusedSurface = s.focusedSurface
  skipped : unfocusable t view = unfocusable s view
  own : ownSurface t view = some (.main view)
  level : (s.surfaces view).data = none ∨ ∀ tree, (t.trees tree).alive = true ∧ (t.trees tree).parent = some sceneRoot ↔
    (s.trees tree).alive = true ∧ (s.trees tree).parent = some sceneRoot

-- The handler raises before it puts the trees into the view.
def refused (s : Server) (answers : Answers) (view : Nat) : Bool :=
  (s.surfaces view).xwayland && mapRaises answers view s

section
variable {s t : Server} {answers : Answers} {view : Nat}

theorem mapped_scene (alive : (s.surfaces view).life = .alive) :
    MapScene s answers view ((s.setSurface view Surface.mapping).pushed view) := by
  refine ⟨.mapped alive,rfl,rfl,?_,?_,.inr fun _ => Iff.rfl⟩
  · simp [unfocusable,Server.pushed,Server.setSurface,Surface.mapping]
  · simp [ownSurface,Server.pushed,Server.setSurface,Surface.mapping]

theorem attached_seen : unfocusable (s.attached view tree surfaceTree) view = unfocusable s view ∧
    ownSurface (s.attached view tree surfaceTree) view = ownSurface s view := by
  simp [unfocusable,ownSurface,Server.attached,Server.setTable,Server.setSurface,Server.setTree]

theorem listening_seen : unfocusable (s.listening view tree) view = unfocusable s view ∧
    ownSurface (s.listening view tree) view = ownSurface s view := by
  simp [unfocusable,ownSurface,Server.listening,Server.setSurface]

-- A tree below another one than the root is not stacked.
theorem attached_level (valid : Built s.scenery) (host : tree ≠ sceneRoot) (other : Nat) :
    (((s.grown tree (some view)).attached view tree surfaceTree).trees other).alive = true ∧
      (((s.grown tree (some view)).attached view tree surfaceTree).trees other).parent = some sceneRoot ↔
    (s.trees other).alive = true ∧ (s.trees other).parent = some sceneRoot := by
  have seen := congrFun (congrArg Prod.fst (rungs_data ((s.grown tree (some view)).setSurface view
    fun surface => { surface with data := some tree }) tree (some view))) other
  have alive : (((s.grown tree (some view)).attached view tree surfaceTree).trees other).alive =
      ((s.grown tree (some view)).trees other).alive := congrArg Prod.fst seen
  have parent : (((s.grown tree (some view)).attached view tree surfaceTree).trees other).parent =
      ((s.grown tree (some view)).trees other).parent := congrArg Prod.snd seen
  rw [alive,parent]
  by_cases new : other = s.nextTree
  · subst new
    have blank : (s.trees s.nextTree).parent = none := (valid.blank s.nextTree (Nat.le_refl _)).1
    simp [Server.grown,blank,host]
  · simp [Server.grown,new]

theorem whenPut_ensures (valid : Sound s.scenery) (alive : (s.surfaces view).life = .alive)
    (bound : (s.surfaces view).bound = true) :
    Ensures (when (s.surfaces view).xwayland (Tinyjl.putIntoScene answers view))
      ((s.setSurface view Surface.mapping).pushed view)
      (fun _ t => MapScene s answers view t ∧ refused s answers view = false)
      fun t => MapScene s answers view t ∧ refused s answers view = true := by
  have plain : MapScene s answers view ((s.setSurface view Surface.mapping).pushed view) := mapped_scene alive
  have marked : Sound ((s.setSurface view Surface.mapping).pushed view).scenery := scene_preserved valid plain.moved
  have raises : mapRaises answers view ((s.setSurface view Surface.mapping).pushed view) =
      mapRaises answers view s := mapRaises_same mapping_same
  have before : (((s.setSurface view Surface.mapping).pushed view).surfaces view).data = (s.surfaces view).data :=
    (mapping_same view).1
  unfold refused
  apply when_ensures
  · intro xwayland
    rw [xwayland,← raises]
    have kind : (((s.setSurface view Surface.mapping).pushed view).surfaces view).xwayland = true := by
      simpa [Server.pushed,Server.setSurface,Surface.mapping] using xwayland
    apply putIntoScene_ensures
    · intro raised
      exact ⟨plain,by simp [raised]⟩
    · intro raised parent found uncached
      obtain ⟨early,hollow⟩ := parentTree_hollow marked found
      have missing := before.symm.trans uncached
      exact ⟨⟨.leaked alive early hollow,rfl,rfl,plain.skipped,plain.own,.inl missing⟩,by simp [raised]⟩
    · intro calm tree cached _
      have host : tree ≠ sceneRoot := by
        intro same
        have owner := (marked.built.cached view tree cached).2.1
        rw [same,marked.built.root] at owner
        simp at owner
      refine ⟨⟨?_,rfl,rfl,attached_seen.1.trans plain.skipped,attached_seen.2.trans plain.own,
        .inr (attached_level marked.built host)⟩,by simp [calm]⟩
      rw [reused_scenery marked cached]
      exact .reused alive bound xwayland (before.symm.trans cached)
    · intro calm parent found uncached _
      obtain ⟨early,hollow⟩ := parentTree_hollow marked found
      have missing := before.symm.trans uncached
      refine ⟨⟨?_,rfl,rfl,attached_seen.1.trans (listening_seen.1.trans plain.skipped),
        attached_seen.2.trans (listening_seen.2.trans plain.own),.inl missing⟩,by simp [calm]⟩
      rw [made_scenery kind]
      exact .made alive bound xwayland early hollow missing
  · intro toplevel
    exact ⟨plain,by simp [toplevel]⟩

end

structure Valid (s : Stage) : Prop where
  listing : Listing s.server
  levelled : Levelled s

section
variable {s t : Stage} {answers : Answers} {view : Nat}

theorem Valid.apart (valid : Valid s) : Apart (rootTree s.server.scenery) := rootTree_apart valid.listing.sound.built

theorem Valid.distinct (valid : Valid s) : s.server.views.Nodup := Multiset.coe_nodup.mp valid.listing.distinct

theorem Valid.unlisted (valid : Valid s) (hidden : (s.server.surfaces view).mapped = false) : view ∉ s.server.views :=
  fun listed => unmapped_unlisted valid.listing hidden (Multiset.mem_coe.mpr listed)

-- Where no node appears below the root, none is put on top.
theorem grew_level (before : Levelled s) (grew : Grew s.stack t) (level : ∀ tree,
    (t.server.trees tree).alive = true ∧ (t.server.trees tree).parent = some sceneRoot ↔
      (s.server.trees tree).alive = true ∧ (s.server.trees tree).parent = some sceneRoot) : t.stack = s.stack := by
  obtain ⟨more,joined⟩ := grew.lower
  cases more with
  | nil => rw [← joined,List.append_nil]
  | cons first rest =>
      have inside : first ∈ t.stack := by simp [← joined]
      have old := (before.exact first).mpr ((level first).mp ((grew.levelled.exact first).mp inside))
      have distinct := grew.levelled.distinct
      rw [← joined] at distinct
      exact absurd rfl (List.nodup_append.mp distinct |>.2.2 first old first List.mem_cons_self)

-- The listed views are stacked as before, and new nodes are above them.
theorem mapped_below (valid : Valid s) (stacked : Stacked s) (fresh : view ∉ s.server.views)
    (scene : MapScene s.server answers view t.server) : Ordered (rootTree t.server.scenery) s.server.views s.stack := by
  have same : ∀ other ∈ s.server.views, rootTree t.server.scenery other = rootTree s.server.scenery other := by
    intro other listed
    apply map_rootTree valid.listing.sound scene.moved
    left
    intro equal
    exact fresh (equal ▸ listed)
  exact (ordered_congr same).mpr stacked

-- Only a view with an old tree may be out of order then.
theorem mapped_stacked (valid : Valid s) (stacked : Stacked s) (fresh : view ∉ s.server.views)
    (scene : MapScene s.server answers view t.server) (grew : Grew s.stack t) :
    Stacked t ↔ Ordered (rootTree s.server.scenery) (s.server.views ++ [view]) s.stack := by
  have below := mapped_below valid stacked fresh scene
  have sound := valid.listing.sound
  unfold Stacked
  rw [scene.views]
  cases cached : (s.server.surfaces view).data with
  | some tree =>
      have data : (s.server.scenery.surfaces view).data ≠ none := by
        change (s.server.surfaces view).data ≠ none
        simp [cached]
      have same : ∀ other ∈ s.server.views ++ [view],
          rootTree t.server.scenery other = rootTree s.server.scenery other :=
        fun other _ => map_rootTree sound scene.moved (.inr data)
      rw [ordered_congr same]
      have level := scene.level.resolve_left data
      rw [grew_level valid.levelled grew level]
  | none =>
      have hidden : rootTree s.server.scenery view = none := by
        unfold rootTree
        rw [sound.built.matching,show (s.server.scenery.surfaces view).data = none from cached]
        rfl
      refine iff_of_true ?_ ((ordered_hidden hidden).mpr stacked)
      cases found : rootTree t.server.scenery view with
      | none => exact (ordered_hidden found).mpr (below.trans grew.lower.sublist)
      | some tree =>
          obtain ⟨new,alive⟩ := map_fresh sound scene.moved cached found
          have inside := (grew.levelled.exact tree).mpr ⟨alive,(rootTree_found.mp found).2⟩
          obtain ⟨more,joined⟩ := grew.lower
          rw [← joined,List.mem_append] at inside
          have last := inside.resolve_left (new ▸ valid.levelled.absent)
          rw [ordered_joined found,← joined]
          exact below.append (List.singleton_sublist.mpr last)

-- A map handler that neither drops its view nor raises it must find its tree above the others.
def lands (s : Stage) : Event → Bool
  | .desktop (.map answers view) => !(s.server.surfaces view).bound ||
      !refused s.server answers view &&
        (unfocusable s.server view || turns answers (some (.main view)) s.server) ||
      decide (((s.server.views ++ [view]).filterMap (rootTree s.server.scenery)).Sublist s.stack)
  | _ => true

theorem put_ensures (valid : Valid s) (alive : (s.server.surfaces view).life = .alive)
    (bound : (s.server.surfaces view).bound = true) :
    Ensures (when (s.server.surfaces view).xwayland (putIntoScene answers view))
      { s with server := (s.server.setSurface view Surface.mapping).pushed view }
      (fun _ t => Grew s.stack t ∧ MapScene s.server answers view t.server ∧ refused s.server answers view = false)
      fun t => Grew s.stack t ∧ MapScene s.server answers view t.server ∧ refused s.server answers view = true := by
  have before : Grew s.stack { s with server := (s.server.setSurface view Surface.mapping).pushed view } :=
    ⟨levelled_same (s := s) rfl rfl valid.levelled,List.prefix_refl _⟩
  have projected : Simulates Stage.server (when (s.server.surfaces view).xwayland (putIntoScene answers view))
      (when (s.server.surfaces view).xwayland (Tinyjl.putIntoScene answers view))
      { s with server := (s.server.setSurface view Surface.mapping).pushed view }
      (fun _ t => Grew s.stack t) fun t => Grew s.stack t :=
    ⟨(projects_when putIntoScene_projects _).1,grew_when putIntoScene_grew _ before⟩
  exact (simulates_part projected (whenPut_ensures valid.listing.sound alive bound)).2

theorem map_lands (valid : Valid s) (stacked : Stacked s) (alive : (s.server.surfaces view).life = .alive)
    (hidden : (s.server.surfaces view).mapped = false) : Ensures (performDesktop (.map answers view)) s
    (fun _ t => Stacked t ↔ lands s (.desktop (.map answers view)) = true)
    fun t => Stacked t ↔ lands s (.desktop (.map answers view)) = true := by
  have fresh := valid.unlisted hidden
  have marked : ((s.server.setSurface view Surface.mapping).surfaces view).bound = (s.server.surfaces view).bound ∧
      (((s.server.setSurface view Surface.mapping).pushed view).surfaces view).xwayland =
        (s.server.surfaces view).xwayland := by
    simp [Server.pushed,Server.setSurface,Surface.mapping]
  unfold lands
  apply ensures_bind
  apply ensures_modify
  apply ensures_bind
  apply ensures_read
  simp only [marked.1]
  cases bound : (s.server.surfaces view).bound with
  | false => exact ensures_pure () (iff_of_true stacked rfl)
  | true =>
      apply ensures_bind
      apply ensures_modify
      apply ensures_bind
      apply ensures_read
      apply ensures_bind
      change Ensures (when (((s.server.setSurface view Surface.mapping).pushed view).surfaces view).xwayland _) _ _ _
      rw [marked.2]
      apply ensures_weaken (put_ensures valid alive bound)
      · intro _ t put
        obtain ⟨grew,scene,calm⟩ := put
        have apart := rootTree_apart (scene_preserved valid.listing.sound scene.moved).built
        have below := (mapped_below valid stacked fresh scene).trans grew.lower.sublist
        apply ensures_imp _ (focusMapped_stacked apart scene.views fresh grew.levelled below)
        intro u ended
        rw [ended,mapped_stacked valid stacked fresh scene grew,scene.skipped,scene.own]
        have focused : turns answers (some (.main view)) t.server = turns answers (some (.main view)) s.server := by
          unfold turns
          rw [scene.focused]
        rw [focused,calm]
        simp [Ordered,or_assoc]
      · intro t put
        obtain ⟨grew,scene,raised⟩ := put
        rw [mapped_stacked valid stacked fresh scene grew,raised]
        simp [Ordered]

end

end Janetland.Tinyjl.Stage
