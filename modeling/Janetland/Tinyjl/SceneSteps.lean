import Janetland.Tinyjl.Scenery

namespace Janetland.Tinyjl
open Act
open Server (Scenery)

section
variable {c : Scenery} {id : Nat} {change : Surface → Surface}

theorem Lives.mark (valid : Lives c.surfaces) (alive : (change (c.surfaces id)).life = .alive)
    (kind : (c.surfaces id).xwayland = true → (change (c.surfaces id)).xwayland = true)
    (linked : ∀ host, (change (c.surfaces id)).parent = some host →
      (c.surfaces host).life = .alive ∧ (c.surfaces host).xwayland = true)
    (equipped : (change (c.surfaces id)).bound = true →
      (change (c.surfaces id)).xwayland = true ∨ (change (c.surfaces id)).data.isSome = true) :
    Lives (c.mark id change).surfaces := by
  refine ⟨?_,?_,?_,?_⟩
  · intro other unborn
    by_cases same : other = id
    · subst same
      rw [marked_self,alive] at unborn
      simp at unborn
    · rw [marked_other same] at unborn ⊢
      exact valid.unborn other unborn
  · intro other mapped
    by_cases same : other = id
    · subst same
      rw [marked_self]
      exact alive
    · rw [marked_other same] at mapped ⊢
      exact valid.living other mapped
  · intro other host link
    have before : (c.surfaces host).life = .alive ∧ (c.surfaces host).xwayland = true := by
      by_cases same : other = id
      · subst same
        rw [marked_self] at link
        exact linked host link
      · rw [marked_other same] at link
        exact valid.parents other host link
    by_cases same : host = id
    · subst same
      rw [marked_self]
      exact ⟨alive,kind before.2⟩
    · rw [marked_other same]
      exact before
  · intro other bound
    by_cases same : other = id
    · subst same
      rw [marked_self] at bound ⊢
      exact equipped bound
    · rw [marked_other same] at bound ⊢
      exact valid.equipped other bound

theorem Lives.adopt (valid : Lives c.surfaces) (alive : (c.surfaces id).life = .alive) :
    Lives (c.adopt id parent).surfaces := by
  change Lives (c.mark id fun surface => { surface with
    data := some c.nextTree
    sceneXwSurface := if surface.xwayland then some c.nextTree else surface.sceneXwSurface }).surfaces
  exact valid.mark alive (fun kind => kind) (valid.parents id) fun _ => .inr rfl

theorem Lives.destroy (valid : Lives c.surfaces) (hidden : (c.surfaces id).mapped = false) :
    Lives (c.destroyed id).surfaces := by
  refine ⟨?_,?_,?_,?_⟩
  · intro other unborn
    have apart : other ≠ id := by
      intro same
      simp [Server.Scenery.destroyed,same] at unborn
    simp only [Server.Scenery.destroyed,if_neg apart] at unborn ⊢
    rw [valid.unborn other unborn]
    simp
  · intro other mapped
    have apart : other ≠ id := by
      intro same
      simp [Server.Scenery.destroyed,same,hidden] at mapped
    simp only [Server.Scenery.destroyed,if_neg apart]
    exact valid.living other mapped
  · intro other host link
    have apart : other ≠ id := by
      intro same
      simp [Server.Scenery.destroyed,same] at link
    simp only [Server.Scenery.destroyed,if_neg apart,Option.filter_eq_some_iff,decide_eq_true_eq] at link ⊢
    rw [if_neg link.2]
    exact valid.parents other host link.1
  · intro other bound
    simp only [Server.Scenery.destroyed,Bool.and_eq_true] at bound
    exact valid.equipped other bound.2

end

structure Sound (c : Scenery) : Prop where
  built : Built c
  lives : Lives c.surfaces

theorem Sound.unborn_bare {c : Scenery} {id : Nat} (valid : Sound c) (unborn : (c.surfaces id).life = .unborn) :
    (c.surfaces id).data = none ∧ (c.surfaces id).sceneXwSurface = none ∧ (c.surfaces id).xwayland = false ∧
      (c.surfaces id).parent = none := by
  rw [valid.lives.unborn id unborn]
  exact ⟨rfl,rfl,rfl,rfl⟩

-- A surface changes in what neither trees nor listeners depend on.
theorem Sound.mark {c : Scenery} {id : Nat} {change : Surface → Surface} (valid : Sound c)
    (alive : (change (c.surfaces id)).life = .alive) (data : (change (c.surfaces id)).data = (c.surfaces id).data)
    (bindings : (change (c.surfaces id)).sceneXwSurface = (c.surfaces id).sceneXwSurface)
    (kind : (change (c.surfaces id)).xwayland = (c.surfaces id).xwayland)
    (bound : (change (c.surfaces id)).bound = (c.surfaces id).bound)
    (linked : ∀ host, (change (c.surfaces id)).parent = some host →
      (c.surfaces host).life = .alive ∧ (c.surfaces host).xwayland = true) : Sound (c.mark id change) := by
  refine ⟨valid.built.mark data bindings (.inl kind),valid.lives.mark alive ?_ linked ?_⟩
  · rw [kind]
    exact fun xwayland => xwayland
  · rw [kind,data,bound]
    exact valid.lives.equipped id

theorem scene_preserved {c d : Scenery} (valid : Sound c) (moved : SceneStep c event d) : Sound d := by
  have parents := valid.lives.parents
  have mapping : ∀ id, (c.surfaces id).life = .alive → Sound (c.mark id Surface.mapping) :=
    fun id alive => valid.mark alive rfl rfl rfl rfl (parents id)
  cases moved with
  | refused unborn => exact valid.mark rfl rfl rfl rfl rfl (parents _)
  | @shown view answers unborn =>
      have woken : Sound (c.mark view Surface.waking) := valid.mark rfl rfl rfl rfl rfl (parents view)
      have adopted : Lives ((c.mark view Surface.waking).adopt view sceneRoot).surfaces :=
        woken.lives.adopt (congrArg Surface.life marked_self)
      have hollow : (c.trees sceneRoot).content = none := congrArg Tree.content valid.built.root
      have built : Built ((c.mark view Surface.waking).adopt view sceneRoot) :=
        woken.built.adopt woken.built.rooted hollow
      refine ⟨built.mark rfl rfl (.inl rfl),adopted.mark ?_ (fun kind => kind) ?_ ?_⟩
      · rw [adopted_self,marked_self]
        rfl
      · exact adopted.parents view
      · intro _
        rw [adopted_self]
        exact .inr rfl
  | born unborn =>
      have bare := (valid.unborn_bare unborn).1
      exact ⟨valid.built.mark rfl rfl (.inr bare),valid.lives.mark rfl (fun _ => rfl) (parents _) fun _ => .inl rfl⟩
  | linked live alive => exact valid.mark alive rfl rfl rfl rfl live
  | hinted alive => exact valid.mark alive rfl rfl rfl rfl (parents _)
  | unmapped alive => exact valid.mark alive rfl rfl rfl rfl (parents _)
  | mapped alive => exact mapping _ alive
  | @leaked view parent answers alive host hollow =>
      have marked := mapping view alive
      refine ⟨marked.built.grow host hollow ?_,marked.lives⟩
      intro id content
      simp at content
  | @reused view tree answers alive bound xwayland cached =>
      obtain ⟨early,found,content⟩ := valid.built.cached view tree cached
      have marked := mapping view alive
      refine ⟨marked.built.grow early ?_ ?_,marked.lives⟩
      · rw [if_pos xwayland] at content
        exact content
      · intro id same
        obtain rfl := Option.some.inj same
        exact found
  | @made view parent answers alive bound xwayland host hollow uncached =>
      have marked := mapping view alive
      have adopted : Lives ((c.mark view Surface.mapping).adopt view parent).surfaces :=
        marked.lives.adopt (by rw [marked_self]; exact alive)
      refine ⟨(marked.built.adopt host hollow).grow ?_ ?_ ?_,adopted⟩
      · exact Nat.lt_succ_self _
      · exact (adopted_hollow (by rw [marked_self]; exact xwayland)).1
      · intro id same
        obtain rfl := Option.some.inj same
        exact (adopted_hollow (by rw [marked_self]; exact xwayland)).2
  | destroyed alive hidden => exact ⟨valid.built.destroy,valid.lives.destroy hidden⟩
  | still quiet => exact valid

section
variable {s : Server} {answers : Answers} {view : Nat}

theorem attached_sceneTree : (s.attached view tree surfaceTree).scenery.sceneTree =
    Function.update s.scenery.sceneTree view (some tree) := by
  funext other
  by_cases same : other = view
  · subst same
    simp [Server.scenery,Server.attached,Server.setTable,Server.setSurface,Server.setTree]
  · simp [Server.scenery,Server.attached,Server.setTable,Server.setSurface,Server.setTree,same]

theorem reused_scenery (valid : Sound s.scenery) (cached : (s.surfaces view).data = some tree) :
    ((s.grown tree (some view)).attached view tree s.nextTree).scenery = s.scenery.grown tree (some view) := by
  obtain ⟨early,found,_⟩ := valid.built.cached view tree cached
  apply Server.Scenery.ext
  · change Function.update s.surfaces view { s.surfaces view with data := some tree } = s.surfaces
    rw [Function.update_eq_self_iff,← cached]
  · have old : (s.grown tree (some view)).trees tree = s.trees tree :=
      grown_old (c := s.scenery) (Nat.ne_of_lt early)
    change Function.update (s.grown tree (some view)).trees tree
      { (s.grown tree (some view)).trees tree with data := some view } = (s.grown tree (some view)).trees
    rw [Function.update_eq_self_iff,old]
    change Tree.mk _ _ (some view) _ = Tree.mk _ _ (s.trees tree).data _
    rw [← found]
    rfl
  · rfl
  · rw [attached_sceneTree]
    change Function.update s.scenery.sceneTree view (some tree) = s.scenery.sceneTree
    rw [Function.update_eq_self_iff,valid.built.matching view]
    exact cached.symm

theorem made_scenery (kind : (s.surfaces view).xwayland = true) :
    ((((s.grown parent none).grown s.nextTree (some view)).listening view s.nextTree).attached view
      s.nextTree (s.nextTree + 1)).scenery = (s.scenery.adopt view parent).grown s.nextTree (some view) := by
  apply Server.Scenery.ext
  · funext other
    by_cases same : other = view
    · subst same
      simp [Server.scenery,Server.attached,Server.listening,Server.grown,Server.setSurface,Server.setTable,
        Server.setTree,Server.Scenery.adopt,Server.Scenery.grown,kind]
    · simp [Server.scenery,Server.attached,Server.listening,Server.grown,Server.setSurface,Server.setTable,
        Server.setTree,Server.Scenery.adopt,Server.Scenery.grown,same]
  · funext other
    have apart : s.nextTree ≠ s.nextTree + 1 := Nat.ne_of_lt (Nat.lt_succ_self _)
    by_cases same : other = s.nextTree
    · subst same
      simp [Server.scenery,Server.attached,Server.listening,Server.grown,Server.setSurface,Server.setTable,
        Server.setTree,Server.Scenery.adopt,Server.Scenery.grown,kind]
    · simp [Server.scenery,Server.attached,Server.listening,Server.grown,Server.setSurface,Server.setTable,
        Server.setTree,Server.Scenery.adopt,Server.Scenery.grown,Function.update_apply,same]
  · rfl
  · rw [attached_sceneTree]
    rfl

-- A new toplevel has a tree whose buffers are its own.
def Server.toplevel (s : Server) (view : Nat) : Server :=
  ((((s.grown sceneRoot (some view)).setTable view fun _ => ⟨some s.nextTree,none,0,0⟩).setTree s.nextTree
    fun tree => { tree with data := some view }).setSurface view
    fun surface => { surface with data := some s.nextTree }).setSurface view
    fun surface => { surface with bound := true }

theorem toplevel_scenery (kind : (s.surfaces view).xwayland = false) : (s.toplevel view).scenery =
    (s.scenery.adopt view sceneRoot).mark view fun surface => { surface with bound := true } := by
  apply Server.Scenery.ext
  · funext other
    by_cases same : other = view
    · subst same
      simp [Server.toplevel,Server.scenery,Server.grown,Server.setSurface,Server.setTable,Server.setTree,
        Server.Scenery.adopt,Server.Scenery.mark,kind]
    · simp [Server.toplevel,Server.scenery,Server.grown,Server.setSurface,Server.setTable,Server.setTree,
        Server.Scenery.adopt,Server.Scenery.mark,same]
  · funext other
    by_cases same : other = s.nextTree
    · subst same
      simp [Server.toplevel,Server.scenery,Server.grown,Server.setSurface,Server.setTable,Server.setTree,
        Server.Scenery.adopt,Server.Scenery.mark,kind]
    · simp [Server.toplevel,Server.scenery,Server.grown,Server.setSurface,Server.setTable,Server.setTree,
        Server.Scenery.adopt,Server.Scenery.mark,same]
  · rfl
  · funext other
    by_cases same : other = view
    · subst same
      simp [Server.toplevel,Server.scenery,Server.grown,Server.setSurface,Server.setTable,Server.setTree,
        Server.Scenery.adopt,Server.Scenery.mark]
    · simp [Server.toplevel,Server.scenery,Server.grown,Server.setSurface,Server.setTable,Server.setTree,
        Server.Scenery.adopt,Server.Scenery.mark,same]

theorem newSurface_ensures {returned : Unit → Server → Prop} (refused : raised s)
    (shown : returned () (s.toplevel view)) :
    Ensures (handleXdgShellNewSurface answers view) s returned raised := by
  apply ensures_bind
  apply ensures_bind
  apply reach_ensures
  intro alive
  cases answers.treeCreated with
  | true => exact shown
  | false => exact refused

theorem departed_surfaces {t : Server} (cleared : ∀ other, t.surfaces other = { s.surfaces other with
      sceneXwSurface := (s.surfaces other).sceneXwSurface.filter fun tree => !s.scenery.dies view tree }) :
    departed t view = (s.scenery.destroyed view).surfaces := by
  funext other
  unfold departed Server.Scenery.destroyed
  rw [cleared other,cleared view]
  by_cases same : other = view
  · subst same
    simp [Server.scenery]
  · cases link : (s.surfaces other).parent with
    | none => simp [same,Server.scenery,link]
    | some host =>
        by_cases child : host = view
        · simp [same,Server.scenery,link,child,Option.filter_some]
        · simp [same,Server.scenery,link,child,Option.filter_some]

theorem destroySurface_ensures {returned : Unit → Server → Prop} (gone : ∀ t, t.scenery = s.scenery.destroyed view →
    t.views = s.views → t.grab = s.grab → returned () t) : Ensures (destroySurface view) s returned raised := by
  apply ensures_bind
  apply ensures_read
  have same : (if (s.surfaces view).xwayland then (s.surfaces view).sceneXwSurface else (s.surfaces view).data) =
    s.scenery.ownTree view := rfl
  rw [same]
  cases own : s.scenery.ownTree view with
  | none =>
      have nothing : ∀ tree, s.scenery.dies view tree = false := by
        intro tree
        simp [Server.Scenery.dies,own]
      apply ensures_bind
      apply ensures_pure
      apply ensures_modify
      refine gone _ ?_ rfl rfl
      apply Server.Scenery.ext
      · apply departed_surfaces
        intro other
        have whole : ∀ bound : Option Nat, bound.filter (fun _ => true) = bound := by
          intro bound
          cases bound <;> rfl
        simp [nothing,whole]
      · funext tree
        exact (if_neg (by simp [nothing])).symm
      · rfl
      · rfl
  | some root =>
      have dying : ∀ tree, s.scenery.dies view tree = Forest.inside s.parentTree root tree := by
        intro tree
        simp only [Server.Scenery.dies,own,Option.elim_some]
        rfl
      apply ensures_bind
      apply ensures_bind
      apply reach_ensures
      intro alive
      apply ensures_modify
      apply ensures_modify
      refine gone _ ?_ rfl rfl
      apply Server.Scenery.ext
      · apply departed_surfaces
        intro other
        simp only [dying]
      · funext tree
        simp only [Server.Scenery.destroyed,dying]
        rfl
      · rfl
      · rfl

end

section
variable {s t : Server} {answers : Answers} {view : Nat}

theorem quiet_keeps (quiet : event.stirs = false) : Keeps Server.scenery (perform event) := by
  cases event with
  | requestMove answers id serial => exact keeps_view requestMove_keeps Prod.fst
  | requestResize answers id serial edges => exact keeps_view requestResize_keeps Prod.fst
  | cursorMotion answers x y => exact keeps_view handleCursorMotion_keeps Prod.fst
  | cursorButton answers button state => exact handleCursorButton_keeps
  | keyF1 answers => exact keeps_view focusNextView_keeps Prod.fst
  | modifiers => exact keeps_pure ()
  | keyboardFocus surface => exact keeps_modify fun _ => rfl
  | _ => simp [Event.stirs] at quiet

theorem liveXwayland_exact : liveXwayland s view = true ↔
    (s.surfaces view).life = .alive ∧ (s.surfaces view).xwayland = true := by simp [liveXwayland]

-- A parent whose tree is looked up has one that can have children.
theorem parentTree_hollow (valid : Sound s.scenery) (found : parentTreeOf view s = .ok parent) :
    parent < s.nextTree ∧ (s.trees parent).content = none := by
  unfold parentTreeOf at found
  cases link : (s.surfaces view).parent with
  | none =>
      simp only [link,Res.ok.injEq] at found
      subst found
      exact ⟨valid.built.rooted,congrArg Tree.content valid.built.root⟩
  | some host =>
      cases cached : (s.surfaces host).data with
      | none => simp [link,cached,nilArgument,panicf] at found
      | some tree =>
          simp only [link,cached,Res.ok.injEq] at found
          subst found
          obtain ⟨early,_,content⟩ := valid.built.cached host tree cached
          have kind : (s.scenery.surfaces host).xwayland = true := (valid.lives.parents view host link).2
          rw [if_pos kind] at content
          exact ⟨early,content⟩

theorem map_scene (valid : Sound s.scenery) (alive : (s.surfaces view).life = .alive) :
    Ensures (perform (.map answers view)) s (fun _ t => SceneStep s.scenery (.map answers view) t.scenery)
      fun t => SceneStep s.scenery (.map answers view) t.scenery := by
  have mapped : SceneStep s.scenery (.map answers view) (s.scenery.mark view Surface.mapping) := .mapped alive
  have marked : Sound (s.scenery.mark view Surface.mapping) := scene_preserved valid mapped
  have focused : ∀ t, SceneStep s.scenery (.map answers view) t.scenery →
      Ensures (focusMapped answers view) t (fun _ t => SceneStep s.scenery (.map answers view) t.scenery)
        fun t => SceneStep s.scenery (.map answers view) t.scenery := by
    intro t moved
    exact ensures_kept (SceneStep s.scenery (.map answers view)) (keeps_view focusMapped_keeps Prod.fst) moved
  apply ensures_bind
  apply ensures_modify
  apply listened_ensures
  · intro listening
    have bound : (s.surfaces view).bound = true := by
      simpa [Server.setSurface,Surface.mapping] using listening
    apply surfaceMap_ensures
    · intro kind
      have xwayland : (s.surfaces view).xwayland = true := by simpa [Server.setSurface,Surface.mapping] using kind
      apply putIntoScene_ensures
      · intro _
        exact .mapped alive
      · intro _ parent found _
        obtain ⟨early,hollow⟩ := parentTree_hollow (s := (s.setSurface view Surface.mapping).pushed view) marked found
        exact .leaked alive early hollow
      · intro _ tree cached _
        apply focused
        rw [reused_scenery (s := (s.setSurface view Surface.mapping).pushed view) marked cached]
        have before : (s.surfaces view).data = some tree := by
          simpa [Server.pushed,Server.setSurface,Surface.mapping] using cached
        exact .reused alive bound xwayland before
      · intro _ parent found uncached _
        apply focused
        obtain ⟨early,hollow⟩ := parentTree_hollow (s := (s.setSurface view Surface.mapping).pushed view) marked found
        rw [made_scenery (s := (s.setSurface view Surface.mapping).pushed view) kind]
        have before : (s.surfaces view).data = none := by
          simpa [Server.pushed,Server.setSurface,Surface.mapping] using uncached
        exact .made alive bound xwayland early hollow before
    · intro _
      exact focused _ (.mapped alive)
  · intro _
    exact .mapped alive

theorem born_scenery (valid : Sound s.scenery) (unborn : (s.surfaces view).life = .unborn) :
    (((s.setSurface view fun surface =>
      { surface with life := .alive, xwayland := true, wantsFocus := wantsFocus }).setTable view
      fun _ => ⟨none,none,0,0⟩).setSurface view fun surface => { surface with bound := true }).scenery =
    s.scenery.mark view fun surface =>
      { surface with life := .alive, xwayland := true, wantsFocus := wantsFocus, bound := true } := by
  apply Server.Scenery.ext
  · funext other
    by_cases same : other = view
    · subst same
      simp [Server.scenery,Server.setSurface,Server.setTable,Server.Scenery.mark]
    · simp [Server.scenery,Server.setSurface,Server.setTable,Server.Scenery.mark,same]
  · rfl
  · rfl
  · funext other
    by_cases same : other = view
    · subst same
      have blank : (s.tables other).sceneTree = none :=
        (valid.built.matching other).trans (valid.unborn_bare unborn).1
      simp [Server.scenery,Server.setSurface,Server.setTable,Server.Scenery.mark,blank]
    · simp [Server.scenery,Server.setSurface,Server.setTable,Server.Scenery.mark,same]

theorem step_scene (valid : Sound s.scenery) (accepted : step s event = some t) :
    SceneStep s.scenery event t.scenery := by
  have admitted := step_admits accepted
  cases quiet : event.stirs with
  | false =>
      apply step_ensures accepted
      intro _
      exact ensures_kept (SceneStep s.scenery event) (quiet_keeps quiet) (.still quiet)
  | true =>
      apply step_ensures accepted
      intro _
      cases event with
      | newXdgSurface answers view =>
          have unborn : (s.surfaces view).life = .unborn := of_decide_eq_true admitted
          have kind : (s.surfaces view).xwayland = false := (valid.unborn_bare unborn).2.2.1
          apply ensures_bind
          apply ensures_modify
          apply newSurface_ensures
          · exact .refused unborn
          · rw [toplevel_scenery]
            · exact .shown unborn
            · simpa [Server.setSurface,Surface.waking] using kind
      | newXwaylandSurface view wantsFocus =>
          have unborn : (s.surfaces view).life = .unborn := of_decide_eq_true admitted
          apply ensures_bind
          apply ensures_modify
          apply ensures_bind
          apply ensures_modify
          apply ensures_modify
          rw [born_scenery valid unborn]
          exact .born unborn
      | setParent view parent =>
          apply ensures_modify
          cases parent with
          | none => exact .linked (by simp) (liveXwayland_exact.mp admitted).1
          | some host =>
              simp only [admits,Bool.and_eq_true] at admitted
              refine .linked ?_ (liveXwayland_exact.mp admitted.1.1).1
              intro other same
              obtain rfl := Option.some.inj same
              exact liveXwayland_exact.mp admitted.1.2
      | setWantsFocus view wantsFocus =>
          apply ensures_modify
          exact .hinted (liveXwayland_exact.mp admitted).1
      | map answers view =>
          simp only [admits,Bool.and_eq_true,decide_eq_true_eq] at admitted
          exact map_scene valid admitted.1
      | unmap answers view =>
          simp only [admits,Bool.and_eq_true,decide_eq_true_eq] at admitted
          apply ensures_bind
          apply ensures_modify
          apply ensures_kept (SceneStep s.scenery (.unmap answers view)) (listened_keeps handleSurfaceUnmap_keeps)
          exact .unmapped (c := s.scenery) admitted.1
      | destroy view =>
          simp only [admits,Bool.and_eq_true,decide_eq_true_eq,Bool.not_eq_true'] at admitted
          apply destroySurface_ensures
          intro t same _ _
          rw [same]
          exact .destroyed admitted.1 admitted.2
      | _ => simp [Event.stirs] at quiet

end

theorem start_sound : Sound start.scenery := by
  refine ⟨⟨rfl,Nat.one_pos,?_,?_,?_,?_,?_,?_,?_⟩,?_,?_,?_,?_⟩
  · intro tree host edge
    simp [Server.Scenery.parentTree,Server.scenery,start] at edge
  · intro tree late
    exact ⟨rfl,rfl⟩
  · intro tree host edge
    simp [Server.scenery,start] at edge
  · intro tree id content
    simp [Server.scenery,start] at content
  · intro id tree cached
    simp [Server.scenery,start] at cached
  · intro id
    rfl
  · intro id
    rfl
  · intro id unborn
    rfl
  · intro id mapped
    simp [Server.scenery,start] at mapped
  · intro id host link
    simp [Server.scenery,start] at link
  · intro id bound
    simp [Server.scenery,start] at bound

theorem sound_preserved {s t : Server} (valid : Sound s.scenery) (accepted : step s event = some t) :
    Sound t.scenery := scene_preserved valid (step_scene valid accepted)

theorem visited_sound : ∀ t ∈ EventRuns.visited step start events, Sound t.scenery :=
  EventRuns.visited_invariant (fun s : Server => Sound s.scenery)
    (fun _ _ _ valid accepted => sound_preserved valid accepted) start_sound

-- What an event leaves to a mapped view that it does not unmap.
structure Carried (c d : Scenery) (view : Nat) : Prop where
  mapped : (d.surfaces view).mapped = true
  bound : (d.surfaces view).bound = (c.surfaces view).bound
  kind : (d.surfaces view).xwayland = (c.surfaces view).xwayland
  shown : (c.sceneTree view).isSome = true → (d.sceneTree view).isSome = true

section
variable {c d : Scenery} {id view : Nat} {change : Surface → Surface}

theorem Carried.mark (mapped : (c.surfaces view).mapped = true)
    (kept : id = view → (change (c.surfaces view)).mapped = true ∧
      (change (c.surfaces view)).bound = (c.surfaces view).bound ∧
      (change (c.surfaces view)).xwayland = (c.surfaces view).xwayland) : Carried c (c.mark id change) view := by
  by_cases same : view = id
  · subst same
    obtain ⟨stays,bound,kind⟩ := kept rfl
    refine ⟨?_,?_,?_,fun shown => shown⟩
    all_goals rw [marked_self]
    · exact stays
    · exact bound
    · exact kind
  · refine ⟨?_,?_,?_,fun shown => shown⟩
    all_goals rw [marked_other same]
    exact mapped

theorem Carried.grow (carried : Carried c d view) : Carried c (d.grown parent content) view :=
  ⟨carried.mapped,carried.bound,carried.kind,carried.shown⟩

theorem Carried.adopt (carried : Carried c d view) : Carried c (d.adopt id parent) view := by
  by_cases same : view = id
  · subst same
    refine ⟨?_,?_,?_,?_⟩
    · rw [adopted_self]
      exact carried.mapped
    · rw [adopted_self]
      exact carried.bound
    · rw [adopted_self]
      exact carried.kind
    · intro _
      simp [Server.Scenery.adopt]
  · refine ⟨?_,?_,?_,?_⟩
    · rw [adopted_other same]
      exact carried.mapped
    · rw [adopted_other same]
      exact carried.bound
    · rw [adopted_other same]
      exact carried.kind
    · intro shown
      simpa [Server.Scenery.adopt,same] using carried.shown shown

theorem view_carried (valid : Sound c) (mapped : (c.surfaces view).mapped = true) (moved : SceneStep c event d)
    (stays : ∀ answers, event ≠ .unmap answers view) : Carried c d view := by
  have alive := valid.lives.living view mapped
  have born : ∀ id, (c.surfaces id).life = .unborn → id ≠ view := by
    intro id unborn same
    rw [same,alive] at unborn
    simp at unborn
  have marked : ∀ id, Carried c (c.mark id Surface.mapping) view :=
    fun id => Carried.mark mapped fun _ => ⟨rfl,rfl,rfl⟩
  cases moved with
  | refused unborn => exact .mark mapped fun same => absurd same (born _ unborn)
  | @shown id answers unborn =>
      have woken : Carried c ((c.mark id Surface.waking).adopt id sceneRoot) view :=
        (Carried.mark mapped fun same => absurd same (born _ unborn)).adopt
      have apart : view ≠ id := (born _ unborn).symm
      refine ⟨?_,?_,?_,woken.shown⟩
      all_goals rw [marked_other apart]
      · exact woken.mapped
      · exact woken.bound
      · exact woken.kind
  | born unborn => exact .mark mapped fun same => absurd same (born _ unborn)
  | linked live alive => exact .mark mapped fun _ => ⟨mapped,rfl,rfl⟩
  | hinted alive => exact .mark mapped fun _ => ⟨mapped,rfl,rfl⟩
  | unmapped alive =>
      apply Carried.mark mapped
      intro same
      subst same
      exact absurd rfl (stays _)
  | mapped alive => exact marked _
  | leaked alive host hollow => exact (marked _).grow
  | reused alive bound xwayland cached => exact (marked _).grow
  | made alive bound xwayland host hollow uncached => exact (marked _).adopt.grow
  | @destroyed id alive hidden =>
      have apart : view ≠ id := by
        intro same
        rw [same,hidden] at mapped
        simp at mapped
      exact ⟨mapped,by simp [Server.Scenery.destroyed,apart],rfl,fun shown => shown⟩
  | still quiet => exact ⟨mapped,rfl,rfl,fun shown => shown⟩

end

end Janetland.Tinyjl
