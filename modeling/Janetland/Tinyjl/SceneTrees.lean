import Janetland.Tinyjl.SceneSteps

namespace Janetland.Tinyjl
open EventRuns
open Server (Scenery)

-- The cached tree of every live XWayland surface exists.
def TreesLive (c : Scenery) : Prop := ∀ id, (c.surfaces id).life = .alive → (c.surfaces id).xwayland = true →
  ∀ tree, (c.surfaces id).data = some tree → (c.trees tree).alive = true

-- No other live XWayland surface has its tree below the one that goes with this surface.
def Childless (c : Scenery) (id : Nat) : Prop := ∀ other, other ≠ id → (c.surfaces other).life = .alive →
  (c.surfaces other).xwayland = true → ∀ tree root, (c.surfaces other).data = some tree →
    (c.surfaces id).data = some root → ¬Forest.Below c.parentTree tree root

def spares (c : Scenery) : Event → Prop
  | .destroy id => (c.surfaces id).xwayland = true → Childless c id
  | _ => True

section
variable {c : Scenery} {id : Nat}

theorem TreesLive.mark {change : Surface → Surface} (live : TreesLive c)
    (data : (change (c.surfaces id)).data = (c.surfaces id).data)
    (before : (c.surfaces id).data = none ∨ (c.surfaces id).life = .alive ∧
      ((change (c.surfaces id)).xwayland = true → (c.surfaces id).xwayland = true)) :
    TreesLive (c.mark id change) := by
  intro other alive kind tree cached
  by_cases same : other = id
  · subst same
    rw [marked_self] at cached kind
    rw [data] at cached
    rcases before with none | ⟨lived,kept⟩
    · rw [none] at cached
      simp at cached
    · exact live other lived (kept kind) tree cached
  · rw [marked_other same] at alive kind cached
    exact live other alive kind tree cached

theorem TreesLive.grow (valid : Built c) (live : TreesLive c) : TreesLive (c.grown parent content) := by
  intro other alive kind tree cached
  rw [grown_old (Nat.ne_of_lt (valid.cached other tree cached).1)]
  exact live other alive kind tree cached

theorem TreesLive.adopt (valid : Built c) (live : TreesLive c) : TreesLive (c.adopt id parent) := by
  intro other alive kind tree cached
  by_cases same : other = id
  · subst same
    rw [adopted_self] at cached
    obtain rfl := Option.some.inj cached
    rw [adopted_new]
  · rw [adopted_other same] at alive kind cached
    rw [adopted_old (Nat.ne_of_lt (valid.cached other tree cached).1)]
    exact live other alive kind tree cached

-- While it is alive the listeners of a cached tree are bound.
theorem own_tree (valid : Built c) (live : TreesLive c) (alive : (c.surfaces id).life = .alive) :
    c.ownTree id = (c.surfaces id).data := by
  unfold Server.Scenery.ownTree
  split
  · rename_i kind
    rw [valid.bindings id,if_pos kind]
    cases cached : (c.surfaces id).data with
    | none => rfl
    | some tree => simp [Option.filter_some,live id alive kind tree cached]
  · rfl

theorem destroyed_live (live : TreesLive c) : TreesLive (c.destroyed id) ↔ ∀ other, other ≠ id →
    (c.surfaces other).life = .alive → (c.surfaces other).xwayland = true →
      ∀ tree, (c.surfaces other).data = some tree → c.dies id tree = false := by
  constructor
  · intro after other apart alive kind tree cached
    have survived := after other (by simp [Server.Scenery.destroyed,apart,alive]) kind tree cached
    rw [destroyed_alive] at survived
    simp only [Bool.and_eq_true,Bool.not_eq_true'] at survived
    exact survived.2
  · intro spared other alive kind tree cached
    have apart : other ≠ id := by
      intro same
      simp [Server.Scenery.destroyed,same] at alive
    simp only [Server.Scenery.destroyed,if_neg apart] at alive
    rw [destroyed_alive,spared other apart alive kind tree cached,live other alive kind tree cached]
    rfl

-- No tree of an XWayland surface is in the one of a toplevel.
theorem toplevel_spares (valid : Built c) (kind : (c.surfaces id).xwayland = false)
    (other : (c.surfaces view).xwayland = true) (cached : (c.surfaces view).data = some tree) :
    c.dies id tree = false := by
  unfold Server.Scenery.dies Server.Scenery.ownTree
  rw [if_neg (by simp [kind])]
  cases own : (c.surfaces id).data with
  | none => rfl
  | some root =>
      have content := (valid.cached id root own).2.2
      rw [if_neg (by simp [kind])] at content
      have childless : ∀ child, c.parentTree child ≠ some root := by
        intro child edge
        rw [valid.hosts child root edge] at content
        simp at content
      rw [Option.elim_some,Bool.eq_false_iff]
      intro inside
      rw [Forest.inside_childless valid.grown childless] at inside
      have hollow := (valid.cached view tree cached).2.2
      rw [if_pos other,inside,content] at hollow
      simp at hollow

theorem destroyed_exact (valid : Built c) (live : TreesLive c) (alive : (c.surfaces id).life = .alive) :
    TreesLive (c.destroyed id) ↔ ((c.surfaces id).xwayland = true → Childless c id) := by
  rw [destroyed_live live]
  have own := own_tree valid live alive
  constructor
  · intro spared kind other apart lived xwayland tree root cached rooted below
    have survives := spared other apart lived xwayland tree cached
    rw [Server.Scenery.dies,own,rooted,Option.elim_some] at survives
    rw [(Forest.inside_exact valid.grown).mpr below] at survives
    simp at survives
  · intro childless other apart lived xwayland tree cached
    cases kind : (c.surfaces id).xwayland with
    | false => exact toplevel_spares valid kind xwayland cached
    | true =>
        rw [Server.Scenery.dies,own]
        cases rooted : (c.surfaces id).data with
        | none => rfl
        | some root =>
            rw [Option.elim_some,Bool.eq_false_iff]
            intro inside
            exact childless kind other apart lived xwayland tree root cached rooted
              ((Forest.inside_exact valid.grown).mp inside)

end

theorem scene_live {c d : Scenery} (valid : Sound c) (live : TreesLive c) (moved : SceneStep c event d) :
    TreesLive d ↔ spares c event := by
  have marked : ∀ id, (c.surfaces id).life = .alive → TreesLive (c.mark id Surface.mapping) :=
    fun id alive => live.mark rfl (.inr ⟨alive,fun kind => kind⟩)
  have mapped : ∀ id, (c.surfaces id).life = .alive → Built (c.mark id Surface.mapping) :=
    fun id alive => valid.built.mark rfl rfl (.inl rfl)
  cases moved with
  | destroyed alive hidden => exact destroyed_exact valid.built live alive
  | @shown view answers unborn =>
      have bare := valid.unborn_bare unborn
      have woken : Built (c.mark view Surface.waking) := valid.built.mark rfl rfl (.inl rfl)
      have shown : TreesLive ((c.mark view Surface.waking).adopt view sceneRoot) :=
        TreesLive.adopt woken (live.mark rfl (.inl bare.1))
      refine iff_of_true (shown.mark rfl (.inr ⟨?_,fun kind => kind⟩)) trivial
      rw [adopted_self,marked_self]
      rfl
  | refused unborn => exact iff_of_true (live.mark rfl (.inl (valid.unborn_bare unborn).1)) trivial
  | born unborn => exact iff_of_true (live.mark rfl (.inl (valid.unborn_bare unborn).1)) trivial
  | linked hosts alive => exact iff_of_true (live.mark rfl (.inr ⟨alive,fun kind => kind⟩)) trivial
  | hinted alive => exact iff_of_true (live.mark rfl (.inr ⟨alive,fun kind => kind⟩)) trivial
  | unmapped alive => exact iff_of_true (live.mark rfl (.inr ⟨alive,fun kind => kind⟩)) trivial
  | mapped alive => exact iff_of_true (marked _ alive) trivial
  | leaked alive host hollow => exact iff_of_true (TreesLive.grow (mapped _ alive) (marked _ alive)) trivial
  | reused alive bound xwayland cached => exact iff_of_true (TreesLive.grow (mapped _ alive) (marked _ alive)) trivial
  | @made view parent answers alive bound xwayland host hollow uncached =>
      have adopted : Built ((c.mark view Surface.mapping).adopt view parent) := (mapped view alive).adopt host hollow
      exact iff_of_true (TreesLive.grow adopted (TreesLive.adopt (mapped _ alive) (marked _ alive))) trivial
  | still quiet =>
      refine iff_of_true live ?_
      cases event with
      | destroy id => simp [Event.stirs] at quiet
      | _ => trivial

theorem start_live : TreesLive start.scenery := by
  intro id alive
  simp [Server.scenery,start] at alive

-- The tree that a map handler uses: its own from the last time, or the one of its parent.
def LookupsLive (s : Server) : Prop := ∀ id, (s.surfaces id).life = .alive → (s.surfaces id).xwayland = true →
  (∀ tree, (s.surfaces id).data = some tree → (s.trees tree).alive = true) ∧
    ∀ tree, parentTreeOf id s = .ok tree → (s.trees tree).alive = true

theorem lookups_live {s : Server} (valid : Sound s.scenery) (live : TreesLive s.scenery) : LookupsLive s := by
  intro id alive kind
  refine ⟨live id alive kind,?_⟩
  intro tree found
  unfold parentTreeOf at found
  cases link : (s.surfaces id).parent with
  | none =>
      simp only [link,Res.ok.injEq] at found
      subst found
      exact congrArg Tree.alive valid.built.root
  | some host =>
      obtain ⟨lived,xwayland⟩ := valid.lives.parents id host link
      cases cached : (s.surfaces host).data with
      | none => simp [link,cached,nilArgument,panicf] at found
      | some other =>
          simp only [link,cached,Res.ok.injEq] at found
          subst found
          exact live host lived xwayland other cached

theorem scene_trees_exact (events : List Event) :
    ((∀ t ∈ visited step start events, TreesLive t.scenery) ↔
      ∀ row ∈ taken step start events, spares row.1.scenery row.2) ∧
    ∀ t ∈ visited step start events, TreesLive t.scenery → LookupsLive t := by
  constructor
  · apply gate_exact (fun s : Server => Sound s.scenery) (fun s => TreesLive s.scenery) fun s => spares s.scenery
    · intro s event t valid accepted
      exact sound_preserved valid accepted
    · intro s event t valid live accepted
      exact scene_live valid live (step_scene valid accepted)
    · exact start_sound
    · exact start_live
  · intro t member live
    exact lookups_live (visited_sound t member) live

-- A dialog and its parent are mapped and unmapped, and the parent is destroyed first.
def orphaning : List Event := [
  .newXwaylandSurface 0 true,.newXwaylandSurface 1 true,.setParent 1 (some 0),.map granted 0,.map granted 1,
  .unmap granted 1,.unmap granted 0,.destroy 0]

-- The dialog keeps a destroyed tree, which the next mapping would use.
theorem orphan_keeps_dead_tree : ¬∀ events, ∀ t ∈ visited step start events, TreesLive t.scenery ∧ LookupsLive t := by
  intro claimed
  have found : ∃ t ∈ visited step start orphaning, (t.surfaces 1).life = .alive ∧ (t.surfaces 1).xwayland = true ∧
      (t.surfaces 1).data = some 3 ∧ (t.trees 3).alive = false := by decide
  obtain ⟨t,member,alive,kind,cached,dead⟩ := found
  have live := (claimed orphaning t member).1 1 alive kind 3 cached
  exact absurd (live.symm.trans dead) (by decide)

end Janetland.Tinyjl
