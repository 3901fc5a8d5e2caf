import Janetland.Tinyjl.Mapping

namespace Janetland.Tinyjl
open Act

namespace Server.Scenery

def mark (c : Scenery) (id : Nat) (change : Surface → Surface) : Scenery :=
  { c with surfaces := Function.update c.surfaces id (change (c.surfaces id)) }

def grown (c : Scenery) (parent : Nat) (content : Option Nat) : Scenery :=
  { c with trees := Function.update c.trees c.nextTree ⟨true,some parent,none,content⟩, nextTree := c.nextTree + 1 }

-- The next tree becomes the scene tree of a view.
def adopt (c : Scenery) (id parent : Nat) : Scenery where
  surfaces := Function.update c.surfaces id { c.surfaces id with
    data := some c.nextTree
    sceneXwSurface := if (c.surfaces id).xwayland then some c.nextTree else (c.surfaces id).sceneXwSurface }
  trees := Function.update c.trees c.nextTree
    ⟨true,some parent,some id,if (c.surfaces id).xwayland then none else some id⟩
  nextTree := c.nextTree + 1
  sceneTree := Function.update c.sceneTree id (some c.nextTree)

def parentTree (c : Scenery) (tree : Nat) : Option Nat := (c.trees tree).parent

-- The tree that goes with a surface.
def ownTree (c : Scenery) (id : Nat) : Option Nat :=
  if (c.surfaces id).xwayland then (c.surfaces id).sceneXwSurface else (c.surfaces id).data

def dies (c : Scenery) (id tree : Nat) : Bool :=
  (c.ownTree id).elim false fun root => Forest.inside c.parentTree root tree

def destroyed (c : Scenery) (id : Nat) : Scenery := { c with
  trees := fun tree => if c.dies id tree then { c.trees tree with alive := false } else c.trees tree
  surfaces := fun other =>
    { c.surfaces other with
      life := if other = id then .destroyed else (c.surfaces other).life
      bound := decide (other ≠ id) && (c.surfaces other).bound
      parent := if other = id then none else (c.surfaces other).parent.filter fun parent => decide (parent ≠ id)
      sceneXwSurface := (c.surfaces other).sceneXwSurface.filter fun tree => !c.dies id tree } }

end Server.Scenery

open Server (Scenery)

-- The events that change surfaces or trees.
def Event.stirs : Event → Bool
  | .newXdgSurface .. | .newXwaylandSurface .. | .setParent .. | .setWantsFocus .. | .map .. | .unmap ..
  | .destroy _ => true
  | _ => false

-- What the events do to surfaces and trees.
inductive SceneStep (c : Scenery) : Event → Scenery → Prop
  | refused (unborn : (c.surfaces view).life = .unborn) :
      SceneStep c (.newXdgSurface answers view) (c.mark view Surface.waking)
  | shown (unborn : (c.surfaces view).life = .unborn) :
      SceneStep c (.newXdgSurface answers view)
        (((c.mark view Surface.waking).adopt view sceneRoot).mark view
          fun surface => { surface with bound := true })
  | born (unborn : (c.surfaces view).life = .unborn) :
      SceneStep c (.newXwaylandSurface view wantsFocus) (c.mark view fun surface =>
        { surface with life := .alive, xwayland := true, wantsFocus := wantsFocus, bound := true })
  | linked (live : ∀ host, parent = some host → (c.surfaces host).life = .alive ∧ (c.surfaces host).xwayland = true)
      (alive : (c.surfaces view).life = .alive) :
      SceneStep c (.setParent view parent) (c.mark view fun surface => { surface with parent := parent })
  | hinted (alive : (c.surfaces view).life = .alive) :
      SceneStep c (.setWantsFocus view wantsFocus) (c.mark view fun surface => { surface with wantsFocus := wantsFocus })
  | unmapped (alive : (c.surfaces view).life = .alive) :
      SceneStep c (.unmap answers view) (c.mark view fun surface => { surface with mapped := false })
  | mapped (alive : (c.surfaces view).life = .alive) :
      SceneStep c (.map answers view) (c.mark view Surface.mapping)
  | leaked (alive : (c.surfaces view).life = .alive) (host : parent < c.nextTree)
      (hollow : (c.trees parent).content = none) :
      SceneStep c (.map answers view) ((c.mark view Surface.mapping).grown parent none)
  | reused (alive : (c.surfaces view).life = .alive) (bound : (c.surfaces view).bound = true)
      (xwayland : (c.surfaces view).xwayland = true) (cached : (c.surfaces view).data = some tree) :
      SceneStep c (.map answers view) ((c.mark view Surface.mapping).grown tree (some view))
  | made (alive : (c.surfaces view).life = .alive) (bound : (c.surfaces view).bound = true)
      (xwayland : (c.surfaces view).xwayland = true) (host : parent < c.nextTree) (hollow : (c.trees parent).content = none)
      (uncached : (c.surfaces view).data = none) :
      SceneStep c (.map answers view)
        (((c.mark view Surface.mapping).adopt view parent).grown c.nextTree (some view))
  | destroyed (alive : (c.surfaces view).life = .alive) (hidden : (c.surfaces view).mapped = false) :
      SceneStep c (.destroy view) (c.destroyed view)
  | still (quiet : event.stirs = false) : SceneStep c event c

structure Built (c : Scenery) : Prop where
  root : c.trees sceneRoot = ⟨true,none,none,none⟩
  rooted : sceneRoot < c.nextTree
  grown : Forest.Grown c.parentTree
  blank : ∀ tree, c.nextTree ≤ tree → (c.trees tree).parent = none ∧ (c.trees tree).content = none
  -- only the root and the trees of XWayland surfaces have children
  hosts : ∀ tree host, (c.trees tree).parent = some host → (c.trees host).content = none
  -- the view that desktop-view-at finds from a buffer is that of its surface
  shown : ∀ tree id, (c.trees tree).content = some id → (c.trees tree).data = some id ∨
    (c.trees tree).data = none ∧ ∃ host, (c.trees tree).parent = some host ∧ (c.trees host).data = some id
  cached : ∀ id tree, (c.surfaces id).data = some tree → tree < c.nextTree ∧ (c.trees tree).data = some id ∧
    (c.trees tree).content = if (c.surfaces id).xwayland then none else some id
  matching : ∀ id, c.sceneTree id = (c.surfaces id).data
  bindings : ∀ id, (c.surfaces id).sceneXwSurface = if (c.surfaces id).xwayland
    then (c.surfaces id).data.filter fun tree => (c.trees tree).alive else none

structure Lives (surfaces : Nat → Surface) : Prop where
  unborn : ∀ id, (surfaces id).life = .unborn → surfaces id = ⟨.unborn,false,false,false,false,none,none,none⟩
  living : ∀ id, (surfaces id).mapped = true → (surfaces id).life = .alive
  parents : ∀ id host, (surfaces id).parent = some host →
    (surfaces host).life = .alive ∧ (surfaces host).xwayland = true
  -- the view of a toplevel has its tree from the start
  equipped : ∀ id, (surfaces id).bound = true → (surfaces id).xwayland = true ∨ (surfaces id).data.isSome = true

section
variable {c : Scenery} {id : Nat} {change : Surface → Surface}

theorem marked_self : (c.mark id change).surfaces id = change (c.surfaces id) := Function.update_self ..
theorem marked_other (apart : other ≠ id) : (c.mark id change).surfaces other = c.surfaces other :=
  Function.update_of_ne apart ..

theorem grown_new : (c.grown parent content).trees c.nextTree = ⟨true,some parent,none,content⟩ :=
  Function.update_self ..
theorem grown_old (apart : tree ≠ c.nextTree) : (c.grown parent content).trees tree = c.trees tree :=
  Function.update_of_ne apart ..

theorem Built.host_older (valid : Built c) (edge : (c.trees tree).parent = some host) : host < c.nextTree := by
  have smaller := valid.grown tree host edge
  by_contra late
  have blank := (valid.blank tree (by omega)).1
  rw [blank] at edge
  simp at edge

theorem Built.mark (valid : Built c) (data : (change (c.surfaces id)).data = (c.surfaces id).data)
    (bound : (change (c.surfaces id)).sceneXwSurface = (c.surfaces id).sceneXwSurface)
    (kind : (change (c.surfaces id)).xwayland = (c.surfaces id).xwayland ∨ (c.surfaces id).data = none) :
    Built (c.mark id change) := by
  refine ⟨valid.root,valid.rooted,valid.grown,valid.blank,valid.hosts,valid.shown,?_,?_,?_⟩
  · intro other tree cached
    by_cases same : other = id
    · subst same
      rw [marked_self] at cached ⊢
      rw [data] at cached
      rcases kind with kept | none
      · rw [kept]
        exact valid.cached other tree cached
      · rw [none] at cached
        simp at cached
    · rw [marked_other same] at cached ⊢
      exact valid.cached other tree cached
  · intro other
    by_cases same : other = id
    · subst same
      rw [marked_self,data]
      exact valid.matching other
    · rw [marked_other same]
      exact valid.matching other
  · intro other
    by_cases same : other = id
    · subst same
      have before := valid.bindings other
      rw [marked_self,data,bound]
      rcases kind with kept | none
      · rw [kept]
        exact before
      · rw [before,none]
        simp
    · rw [marked_other same]
      exact valid.bindings other

-- What one more tree leaves of the invariants that are about trees only.
theorem Built.plant (valid : Built c) (planted : Tree) (older : parent < c.nextTree)
    (hollow : (c.trees parent).content = none) (under : planted.parent = some parent) :
    Function.update c.trees c.nextTree planted sceneRoot = ⟨true,none,none,none⟩ ∧
      Forest.Grown (fun tree => (Function.update c.trees c.nextTree planted tree).parent) ∧
      (∀ tree, c.nextTree + 1 ≤ tree → (Function.update c.trees c.nextTree planted tree).parent = none ∧
        (Function.update c.trees c.nextTree planted tree).content = none) ∧
      ∀ tree host, (Function.update c.trees c.nextTree planted tree).parent = some host →
        (Function.update c.trees c.nextTree planted host).content = none := by
  have old : ∀ tree, tree ≠ c.nextTree → Function.update c.trees c.nextTree planted tree = c.trees tree :=
    fun _ apart => Function.update_of_ne apart ..
  have new : Function.update c.trees c.nextTree planted c.nextTree = planted := Function.update_self ..
  have above : ∀ tree host, (Function.update c.trees c.nextTree planted tree).parent = some host →
      (tree = c.nextTree ∧ host = parent) ∨ (tree ≠ c.nextTree ∧ (c.trees tree).parent = some host) := by
    intro tree host edge
    by_cases last : tree = c.nextTree
    · subst last
      rw [new,under] at edge
      exact .inl ⟨rfl,(Option.some.inj edge).symm⟩
    · rw [old tree last] at edge
      exact .inr ⟨last,edge⟩
  refine ⟨?_,?_,?_,?_⟩
  · rw [old sceneRoot (Nat.ne_of_lt valid.rooted)]
    exact valid.root
  · intro tree host edge
    rcases above tree host edge with ⟨rfl,rfl⟩ | ⟨_,before⟩
    · exact older
    · exact valid.grown tree host before
  · intro tree late
    rw [old tree (Nat.ne_of_gt (Nat.lt_of_succ_le late))]
    exact valid.blank tree (Nat.le_of_succ_le late)
  · intro tree host edge
    rcases above tree host edge with ⟨rfl,rfl⟩ | ⟨_,before⟩
    · rw [old host (Nat.ne_of_lt older)]
      exact hollow
    · rw [old host (Nat.ne_of_lt (valid.host_older before))]
      exact valid.hosts tree host before

theorem Built.grow (valid : Built c) (older : parent < c.nextTree) (hollow : (c.trees parent).content = none)
    (owned : ∀ id, content = some id → (c.trees parent).data = some id) : Built (c.grown parent content) := by
  have apart : ∀ tree, tree < c.nextTree → tree ≠ c.nextTree := fun _ => Nat.ne_of_lt
  obtain ⟨root,grown,blank,hosts⟩ := valid.plant ⟨true,some parent,none,content⟩ older hollow rfl
  refine ⟨root,Nat.lt_succ_of_lt valid.rooted,grown,blank,hosts,?_,?_,valid.matching,?_⟩
  · intro tree id content
    by_cases new : tree = c.nextTree
    · subst new
      rw [grown_new] at content ⊢
      refine .inr ⟨rfl,parent,rfl,?_⟩
      rw [grown_old (apart _ older)]
      exact owned id content
    · rw [grown_old new] at content ⊢
      rcases valid.shown tree id content with own | ⟨blank,host,edge,found⟩
      · exact .inl own
      · refine .inr ⟨blank,host,edge,?_⟩
        rw [grown_old (apart _ (valid.host_older edge))]
        exact found
  · intro id tree cached
    obtain ⟨early,found,content⟩ := valid.cached id tree cached
    rw [grown_old (apart _ early)]
    exact ⟨Nat.lt_succ_of_lt early,found,content⟩
  · intro id
    have before := valid.bindings id
    cases cached : (c.surfaces id).data with
    | none =>
        rw [cached] at before
        change (c.surfaces id).sceneXwSurface = if (c.surfaces id).xwayland
          then (c.surfaces id).data.filter fun tree => ((c.grown parent content).trees tree).alive else none
        rw [cached]
        exact before
    | some tree =>
        rw [cached] at before
        change (c.surfaces id).sceneXwSurface = if (c.surfaces id).xwayland
          then (c.surfaces id).data.filter fun tree => ((c.grown parent content).trees tree).alive else none
        rw [cached]
        simp only [Option.filter_some,grown_old (apart _ (valid.cached id tree cached).1)] at before ⊢
        exact before

theorem adopted_new : (c.adopt id parent).trees c.nextTree =
    ⟨true,some parent,some id,if (c.surfaces id).xwayland then none else some id⟩ := Function.update_self ..
theorem adopted_old (apart : tree ≠ c.nextTree) : (c.adopt id parent).trees tree = c.trees tree :=
  Function.update_of_ne apart ..
theorem adopted_self : (c.adopt id parent).surfaces id = { c.surfaces id with
    data := some c.nextTree
    sceneXwSurface := if (c.surfaces id).xwayland then some c.nextTree else (c.surfaces id).sceneXwSurface } :=
  Function.update_self ..
theorem adopted_other (apart : other ≠ id) : (c.adopt id parent).surfaces other = c.surfaces other :=
  Function.update_of_ne apart ..

theorem adopted_hollow (kind : (c.surfaces id).xwayland = true) :
    ((c.adopt id parent).trees c.nextTree).content = none ∧
      ((c.adopt id parent).trees c.nextTree).data = some id := by
  rw [adopted_new,if_pos kind]
  exact ⟨rfl,rfl⟩

theorem Built.adopt (valid : Built c) (older : parent < c.nextTree) (hollow : (c.trees parent).content = none) :
    Built (c.adopt id parent) := by
  have apart : ∀ tree, tree < c.nextTree → tree ≠ c.nextTree := fun _ => Nat.ne_of_lt
  obtain ⟨root,grown,blank,hosts⟩ := valid.plant
    ⟨true,some parent,some id,if (c.surfaces id).xwayland then none else some id⟩ older hollow rfl
  refine ⟨root,Nat.lt_succ_of_lt valid.rooted,grown,blank,hosts,?_,?_,?_,?_⟩
  · intro tree owner content
    by_cases new : tree = c.nextTree
    · subst new
      rw [adopted_new] at content ⊢
      left
      split at content
      · simp at content
      · exact content
    · rw [adopted_old new] at content ⊢
      rcases valid.shown tree owner content with own | ⟨blank,host,edge,found⟩
      · exact .inl own
      · refine .inr ⟨blank,host,edge,?_⟩
        rw [adopted_old (apart _ (valid.host_older edge))]
        exact found
  · intro other tree cached
    by_cases same : other = id
    · subst same
      rw [adopted_self] at cached ⊢
      obtain rfl := Option.some.inj cached
      rw [adopted_new]
      exact ⟨Nat.lt_succ_self _,rfl,rfl⟩
    · rw [adopted_other same] at cached ⊢
      obtain ⟨early,found,content⟩ := valid.cached other tree cached
      rw [adopted_old (apart _ early)]
      exact ⟨Nat.lt_succ_of_lt early,found,content⟩
  · intro other
    by_cases same : other = id
    · subst same
      rw [adopted_self]
      exact Function.update_self ..
    · rw [adopted_other same]
      exact (Function.update_of_ne same ..).trans (valid.matching other)
  · intro other
    by_cases same : other = id
    · subst same
      have before := valid.bindings other
      rw [adopted_self]
      cases kind : (c.surfaces other).xwayland with
      | true => simp only [if_true,Option.filter_some,adopted_new]
      | false => simpa [kind] using before
    · have before := valid.bindings other
      rw [adopted_other same]
      cases cached : (c.surfaces other).data with
      | none => simpa [cached] using before
      | some tree =>
          rw [cached] at before
          simp only [Option.filter_some,adopted_old (apart _ (valid.cached other tree cached).1)] at before ⊢
          exact before

theorem destroyed_tree : (c.destroyed id).trees tree =
    if c.dies id tree then { c.trees tree with alive := false } else c.trees tree := rfl

theorem destroyed_alive : ((c.destroyed id).trees tree).alive = ((c.trees tree).alive && !c.dies id tree) := by
  rw [destroyed_tree]
  split
  · rename_i dies
    simp [dies]
  · rename_i survives
    simp [survives]

theorem destroyed_links : ((c.destroyed id).trees tree).parent = (c.trees tree).parent ∧
    ((c.destroyed id).trees tree).data = (c.trees tree).data ∧
    ((c.destroyed id).trees tree).content = (c.trees tree).content := by
  rw [destroyed_tree]
  split <;> exact ⟨rfl,rfl,rfl⟩

-- Nothing is above the root, so only its own destruction would end it.
theorem Built.root_outside (valid : Built c) (apart : tree ≠ sceneRoot) :
    Forest.inside c.parentTree tree sceneRoot = false := by
  have top : c.parentTree sceneRoot = none := by
    unfold Server.Scenery.parentTree
    rw [valid.root]
  unfold Forest.inside
  rw [Forest.climb_rootless valid.grown (if_neg apart.symm) top]
  rfl

theorem Built.own_cached (valid : Built c) (own : c.ownTree id = some tree) : (c.surfaces id).data = some tree := by
  unfold Server.Scenery.ownTree at own
  split at own
  · rename_i kind
    rw [valid.bindings,if_pos kind,Option.filter_eq_some_iff] at own
    exact own.1
  · exact own

theorem Built.root_survives (valid : Built c) : c.dies id sceneRoot = false := by
  unfold Server.Scenery.dies
  cases own : c.ownTree id with
  | none => rfl
  | some tree =>
      apply valid.root_outside
      intro same
      subst same
      have found := (valid.cached id sceneRoot (valid.own_cached own)).2.1
      rw [valid.root] at found
      simp at found

theorem Built.destroy (valid : Built c) : Built (c.destroyed id) := by
  have links : ∀ tree, ((c.destroyed id).trees tree).parent = (c.trees tree).parent ∧
      ((c.destroyed id).trees tree).data = (c.trees tree).data ∧
      ((c.destroyed id).trees tree).content = (c.trees tree).content := fun _ => destroyed_links
  refine ⟨?_,valid.rooted,?_,?_,?_,?_,?_,valid.matching,?_⟩
  · rw [destroyed_tree,if_neg (by simp [valid.root_survives])]
    exact valid.root
  · intro tree host edge
    unfold Server.Scenery.parentTree at edge
    rw [(links tree).1] at edge
    exact valid.grown tree host edge
  · intro tree late
    rw [(links tree).1,(links tree).2.2]
    exact valid.blank tree late
  · intro tree host edge
    rw [(links tree).1] at edge
    rw [(links host).2.2]
    exact valid.hosts tree host edge
  · intro tree owner content
    rw [(links tree).2.2] at content
    rw [(links tree).1,(links tree).2.1]
    rcases valid.shown tree owner content with own | ⟨blank,host,edge,found⟩
    · exact .inl own
    · refine .inr ⟨blank,host,edge,?_⟩
      rw [(links host).2.1]
      exact found
  · intro other tree cached
    rw [(links tree).2.1,(links tree).2.2]
    exact valid.cached other tree cached
  · intro other
    change (c.surfaces other).sceneXwSurface.filter (fun tree => !c.dies id tree) =
      if (c.surfaces other).xwayland then
        (c.surfaces other).data.filter fun tree => ((c.destroyed id).trees tree).alive else none
    rw [valid.bindings other]
    cases kind : (c.surfaces other).xwayland with
    | false => simp
    | true =>
        simp only [if_true,destroyed_alive,Option.filter_filter]

end

end Janetland.Tinyjl
