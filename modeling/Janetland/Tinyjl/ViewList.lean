import Mathlib.Data.Multiset.AddSub
import Janetland.Tinyjl.SceneSteps

namespace Janetland.Tinyjl
open Act EventRuns
open Server (Scenery)

-- A view that focus-view can work on.
structure Ready (c : Scenery) (view : Nat) : Prop where
  mapped : (c.surfaces view).mapped = true
  focusable : (c.surfaces view).xwayland = true → (c.surfaces view).wantsFocus = true
  shown : (c.sceneTree view).isSome = true

structure Usable (s : Server) : Prop where
  distinct : s.views.Nodup
  ready : ∀ view ∈ s.views, Ready s.scenery view

-- A map handler that raises leaves its view in the list, where only a focusable view
-- that had a tree before belongs.
def recovers (s : Server) : Event → Prop
  | .map answers view => (s.surfaces view).bound = true → (s.surfaces view).xwayland = true →
      mapRaises answers view s = true → (s.surfaces view).wantsFocus = true ∧ (s.tables view).sceneTree.isSome = true
  | _ => True

instance (s : Server) : (event : Event) → Decidable (recovers s event)
  | .map .. => inferInstanceAs (Decidable (_ = true → _ = true → _ = true → _ = true ∧ _ = true))
  | .newXdgSurface .. | .newXwaylandSurface .. | .setParent .. | .setWantsFocus .. | .unmap .. | .destroy _
  | .requestMove .. | .requestResize .. | .cursorMotion .. | .cursorButton .. | .keyF1 _ | .modifiers
  | .keyboardFocus _ => instDecidableTrue

-- Whether a surface wants the focus does not change.
def steady (s : Server) : Event → Prop
  | .setWantsFocus id wantsFocus => (s.surfaces id).wantsFocus = wantsFocus
  | _ => True

instance (s : Server) : (event : Event) → Decidable (steady s event)
  | .setWantsFocus .. => inferInstanceAs (Decidable (_ = _))
  | .newXdgSurface .. | .newXwaylandSurface .. | .setParent .. | .map .. | .unmap .. | .destroy _
  | .requestMove .. | .requestResize .. | .cursorMotion .. | .cursorButton .. | .keyF1 _ | .modifiers
  | .keyboardFocus _ => instDecidableTrue

-- The list up to its order.
def Server.listed (s : Server) : Multiset Nat := s.views

section
variable {s t : Server} {answers : Answers} {view : Nat}

theorem focusView_listed : Keeps Server.listed (focusView answers view surface) := by
  apply keeps_bind (keeps_read _)
  intro prevSurface
  split
  · exact keeps_pure ()
  · apply keeps_bind (keeps_when (keeps_lift _))
    intro _
    apply keeps_bind (keeps_look _)
    intro sceneTree
    apply keeps_bind reach_keeps
    intro _
    apply keeps_bind
    · apply keeps_modify
      intro s
      split
      · rename_i contained
        apply Multiset.coe_eq_coe.mpr
        rw [removeElement_erase]
        have front := List.perm_cons_erase ((contains_exact s.views view).mp contained)
        exact (List.perm_append_singleton view (s.views.erase view)).trans front.symm
      · rfl
    intro _
    apply keeps_bind (keeps_read _)
    intro wlrSurface
    apply keeps_when
    apply keeps_bind (keeps_lift _)
    intro wlrSurface
    exact keeps_when (keeps_modify fun _ => rfl)

theorem focusMapped_listed : Ensures (focusMapped answers view) s
    (fun _ t => t.listed = if unfocusable s view then (s.views.dropLast : Multiset Nat) else s.listed)
    fun t => t.listed = if unfocusable s view then (s.views.dropLast : Multiset Nat) else s.listed := by
  apply ensures_bind
  apply ensures_read
  apply ensures_bind
  cases unfocusable s view with
  | true =>
      apply ensures_modify
      exact ensures_pure () rfl
  | false =>
      apply ensures_pure
      have kept : Keeps Server.listed (do
          let wlrSurface ← Act.read fun s => ownSurface s view
          focusView answers view wlrSurface) := by
        apply keeps_bind (keeps_read _)
        intro wlrSurface
        exact focusView_listed
      exact kept s

theorem focusLastView_listed : Keeps Server.listed (focusLastView answers) :=
  focusLastView_through fun _ _ => focusView_listed

theorem handleCursorButton_listed : Keeps Server.listed (handleCursorButton answers button state) := by
  apply handleCursorButton_through
  · exact keeps_view resetCursorMode_keeps fun kept => Multiset.ofList kept.2
  · exact fun _ _ _ => keeps_view beginInteractive_keeps fun kept => Multiset.ofList kept.2
  · exact focusViewAt_through fun _ _ => focusView_listed
  · exact fun _ _ => rfl

theorem quiet_listed (quiet : event.stirs = false) : Keeps Server.listed (perform event) := by
  cases event with
  | requestMove answers id serial => exact keeps_view requestMove_keeps fun kept => Multiset.ofList kept.2
  | requestResize answers id serial edges => exact keeps_view requestResize_keeps fun kept => Multiset.ofList kept.2
  | cursorMotion answers x y => exact keeps_view handleCursorMotion_keeps fun kept => Multiset.ofList kept.2.1
  | cursorButton answers button state => exact handleCursorButton_listed
  | keyF1 answers => exact focusNextView_through fun _ _ => focusView_listed
  | modifiers => exact keeps_pure ()
  | keyboardFocus surface => exact keeps_modify fun _ => rfl
  | _ => simp [Event.stirs] at quiet

theorem handleSurfaceUnmap_listed : Ensures (handleSurfaceUnmap answers view) s
    (fun _ t => t.listed = s.listed.erase view) fun t => t.listed = s.listed.erase view := by
  have removed : ∀ t : Server, t.views = s.views →
      Multiset.ofList (removeElement t.views view) = s.listed.erase view := by
    intro t same
    rw [removeElement_erase,same]
    exact (Multiset.coe_erase s.views view).symm
  apply ensures_bind
  apply ensures_read
  apply ensures_bind
  apply when_ensures
  · intro _
    apply ensures_bind
    apply ensures_modify
    apply ensures_modify
    apply ensures_bind
    apply ensures_modify
    exact ensures_kept (fun listed => listed = s.listed.erase view) focusLastView_listed (removed _ rfl)
  · intro _
    apply ensures_bind
    apply ensures_modify
    exact ensures_kept (fun listed => listed = s.listed.erase view) focusLastView_listed (removed _ rfl)

end

section
variable {c d : Scenery} {id view : Nat} {change : Surface → Surface}

theorem marked_hint (kept : id = view → (change (c.surfaces view)).wantsFocus = (c.surfaces view).wantsFocus) :
    ((c.mark id change).surfaces view).wantsFocus = (c.surfaces view).wantsFocus := by
  by_cases same : view = id
  · subst same
    rw [marked_self]
    exact kept rfl
  · rw [marked_other same]

theorem adopted_hint : ((c.adopt id parent).surfaces view).wantsFocus = (c.surfaces view).wantsFocus := by
  by_cases same : view = id
  · subst same
    rw [adopted_self]
  · rw [adopted_other same]

theorem hint_carried (moved : SceneStep c event d) (alive : (c.surfaces view).life = .alive)
    (steady : ∀ wantsFocus, event = .setWantsFocus view wantsFocus → (c.surfaces view).wantsFocus = wantsFocus) :
    (d.surfaces view).wantsFocus = (c.surfaces view).wantsFocus := by
  cases moved with
  | refused unborn => exact marked_hint fun _ => rfl
  | shown unborn => exact (marked_hint fun _ => rfl).trans (adopted_hint.trans (marked_hint fun _ => rfl))
  | @born id wantsFocus unborn =>
      apply marked_hint
      intro same
      rw [same,alive] at unborn
      simp at unborn
  | linked live alive => exact marked_hint fun _ => rfl
  | @hinted id wantsFocus alive =>
      apply marked_hint
      intro same
      subst same
      exact (steady wantsFocus rfl).symm
  | unmapped alive => exact marked_hint fun _ => rfl
  | mapped alive => exact marked_hint fun _ => rfl
  | leaked alive host hollow => exact marked_hint fun _ => rfl
  | reused alive bound xwayland cached => exact marked_hint fun _ => rfl
  | @made id parent answers alive bound xwayland host hollow uncached =>
      change (((c.mark id Surface.mapping).adopt id parent).surfaces view).wantsFocus = _
      rw [adopted_hint]
      exact marked_hint fun _ => rfl
  | destroyed alive hidden => rfl
  | still quiet => rfl

theorem ready_kept (valid : Sound c) (ready : Ready c view) (moved : SceneStep c event d)
    (stays : ∀ answers, event ≠ .unmap answers view)
    (steady : ∀ wantsFocus, event = .setWantsFocus view wantsFocus → (c.surfaces view).wantsFocus = wantsFocus) :
    Ready d view := by
  have carried := view_carried valid ready.mapped moved stays
  have hint := hint_carried moved (valid.lives.living view ready.mapped) steady
  refine ⟨carried.mapped,?_,carried.shown ready.shown⟩
  intro kind
  rw [hint]
  exact ready.focusable (carried.kind ▸ kind)

-- A mapped view keeps its kind, and a view of a toplevel always has its tree.
theorem map_carried (moved : SceneStep c (.map answers view) d) : (d.surfaces view).mapped = true ∧
    (d.surfaces view).bound = (c.surfaces view).bound ∧ (d.surfaces view).xwayland = (c.surfaces view).xwayland := by
  have marked : ((c.mark view Surface.mapping).surfaces view).mapped = true ∧
      ((c.mark view Surface.mapping).surfaces view).bound = (c.surfaces view).bound ∧
      ((c.mark view Surface.mapping).surfaces view).xwayland = (c.surfaces view).xwayland := by
    rw [marked_self]
    exact ⟨rfl,rfl,rfl⟩
  cases moved with
  | mapped alive => exact marked
  | leaked alive host hollow => exact marked
  | reused alive bound xwayland cached => exact marked
  | @made view parent answers alive bound xwayland host hollow uncached =>
      change (((c.mark view Surface.mapping).adopt view parent).surfaces view).mapped = true ∧
        (((c.mark view Surface.mapping).adopt view parent).surfaces view).bound = _ ∧
        (((c.mark view Surface.mapping).adopt view parent).surfaces view).xwayland = _
      rw [adopted_self]
      exact marked
  | still quiet => simp [Event.stirs] at quiet

theorem toplevel_shown (valid : Sound c) (bound : (c.surfaces view).bound = true)
    (kind : (c.surfaces view).xwayland = false) : (c.sceneTree view).isSome = true := by
  rw [valid.built.matching]
  rcases valid.lives.equipped view bound with xwayland | cached
  · rw [kind] at xwayland
    simp at xwayland
  · exact cached

end

-- How a map handler leaves the list: without its view, with it, or with it after an error.
inductive MapListing (s : Server) (answers : Answers) (view : Nat) (t : Server) : Prop
  | skipped (same : t.listed = s.listed) (why : (s.surfaces view).bound = true →
      (s.surfaces view).xwayland = true → mapRaises answers view s = false)
  | added (more : t.listed = view ::ₘ s.listed) (bound : (s.surfaces view).bound = true)
      (why : (s.surfaces view).xwayland = true → mapRaises answers view s = false ∧
        (s.surfaces view).wantsFocus = true ∧ (t.scenery.sceneTree view).isSome = true)
  | left (more : t.listed = view ::ₘ s.listed) (bound : (s.surfaces view).bound = true)
      (kind : (s.surfaces view).xwayland = true) (raised : mapRaises answers view s = true)
      (same : t.scenery.sceneTree = s.scenery.sceneTree)

section
variable {s t : Server} {answers : Answers} {view : Nat}

theorem mapRaises_same (same : ∀ id, (t.surfaces id).data = (s.surfaces id).data ∧
    (t.surfaces id).parent = (s.surfaces id).parent) : mapRaises answers view t = mapRaises answers view s := by
  unfold mapRaises
  rw [(same view).1,(same view).2]
  cases link : (s.surfaces view).parent with
  | none => rfl
  | some host => simp only [(same host).1]

theorem mapping_same : ∀ id, (((s.setSurface view Surface.mapping).pushed view).surfaces id).data =
    (s.surfaces id).data ∧ (((s.setSurface view Surface.mapping).pushed view).surfaces id).parent =
    (s.surfaces id).parent := by
  intro id
  by_cases same : id = view
  · subst same
    simp [Server.pushed,Server.setSurface,Surface.mapping]
  · simp [Server.pushed,Server.setSurface,same]

theorem pushed_listed (pushed : t.views = s.views ++ [view]) : t.listed = view ::ₘ s.listed := by
  unfold Server.listed
  rw [pushed]
  exact Multiset.coe_eq_coe.mpr (List.perm_append_singleton view s.views)

-- The end of a map handler whose view is in the scene.
theorem attached_listing (pushed : t.views = s.views ++ [view])
    (hint : (t.surfaces view).wantsFocus = (s.surfaces view).wantsFocus)
    (bound : (s.surfaces view).bound = true) (kind : (t.surfaces view).xwayland = true)
    (calm : mapRaises answers view s = false) (shown : (t.scenery.sceneTree view).isSome = true) :
    Ensures (focusMapped answers view) t (fun _ t => MapListing s answers view t)
      fun t => MapListing s answers view t := by
  have scene : Ensures (focusMapped answers view) t (fun _ u => u.scenery = t.scenery)
      fun u => u.scenery = t.scenery := keeps_view focusMapped_keeps Prod.fst t
  apply ensures_imp _ (ensures_both focusMapped_listed scene)
  intro u ended
  obtain ⟨listed,same⟩ := ended
  cases wants : (s.surfaces view).wantsFocus with
  | true =>
      have focusable : unfocusable t view = false := by simp [unfocusable,hint,wants]
      rw [focusable] at listed
      refine .added (listed.trans (pushed_listed pushed)) bound fun _ => ⟨calm,wants,?_⟩
      rw [same]
      exact shown
  | false =>
      have skipped : unfocusable t view = true := by simp [unfocusable,hint,wants,kind]
      rw [if_pos skipped,pushed,List.dropLast_concat] at listed
      exact .skipped listed fun _ _ => calm

theorem map_listing : Ensures (perform (.map answers view)) s (fun _ t => MapListing s answers view t)
    fun t => MapListing s answers view t := by
  have raises : mapRaises answers view ((s.setSurface view Surface.mapping).pushed view) =
      mapRaises answers view s := mapRaises_same mapping_same
  apply ensures_bind
  apply ensures_modify
  apply listened_ensures
  · intro marked
    have bound : (s.surfaces view).bound = true := by simpa [Server.setSurface,Surface.mapping] using marked
    apply surfaceMap_ensures
    · intro kind
      have xwayland : (s.surfaces view).xwayland = true := by
        simpa [Server.setSurface,Surface.mapping] using kind
      apply putIntoScene_ensures
      · intro raised
        exact .left (pushed_listed rfl) bound xwayland (raises ▸ raised) rfl
      · intro raised _ _ _
        exact .left (pushed_listed rfl) bound xwayland (raises ▸ raised) rfl
      · intro calm tree cached _
        apply attached_listing rfl _ bound _ (raises ▸ calm)
        · rw [attached_sceneTree,Function.update_self]
          rfl
        · simp [Server.attached,Server.setTable,Server.setTree,Server.setSurface,Server.grown,Server.pushed,
            Surface.mapping]
        · simpa [Server.attached,Server.setTable,Server.setTree,Server.setSurface,Server.grown,Server.pushed,
            Surface.mapping] using xwayland
      · intro calm parent found uncached _
        apply attached_listing rfl _ bound _ (raises ▸ calm)
        · rw [attached_sceneTree,Function.update_self]
          rfl
        · simp [Server.attached,Server.setTable,Server.setTree,Server.setSurface,Server.grown,Server.pushed,
            Server.listening,Surface.mapping]
        · simpa [Server.attached,Server.setTable,Server.setTree,Server.setSurface,Server.grown,Server.pushed,
            Server.listening,Surface.mapping] using xwayland
    · intro kind
      have toplevel : (s.surfaces view).xwayland = false := by
        simpa [Server.setSurface,Surface.mapping] using kind
      apply ensures_imp _ focusMapped_listed
      intro u listed
      have focusable : unfocusable ((s.setSurface view Surface.mapping).pushed view) view = false := by
        simp [unfocusable,Server.pushed,Server.setSurface,Surface.mapping,toplevel]
      rw [focusable] at listed
      refine .added (listed.trans (pushed_listed rfl)) bound ?_
      intro kind
      rw [toplevel] at kind
      simp at kind
  · intro unbound
    refine .skipped rfl ?_
    intro bound
    simp [Server.setSurface,Surface.mapping,bound] at unbound

end

-- Listed views are mapped ones whose listeners are bound, each once, in every run.
structure Listing (s : Server) : Prop where
  sound : Sound s.scenery
  distinct : s.listed.Nodup
  mapped : ∀ view ∈ s.listed, (s.surfaces view).mapped = true
  bound : ∀ view ∈ s.listed, (s.surfaces view).bound = true

-- What the events do to the list.
inductive ListStep (s : Server) : Event → Server → Prop
  | mapped (listing : MapListing s answers view t) : ListStep s (.map answers view) t
  | unmapped (fewer : t.listed = if (s.surfaces view).bound then s.listed.erase view else s.listed) :
      ListStep s (.unmap answers view) t
  | kept (same : t.listed = s.listed) (hides : ∀ answers view, event ≠ .unmap answers view)
      (shows : ∀ answers view, event ≠ .map answers view) : ListStep s event t

section
variable {s t : Server} {answers : Answers} {view : Nat}

theorem step_listed (accepted : step s event = some t) : ListStep s event t := by
  apply step_ensures accepted
  intro _
  cases event with
  | map answers view => exact ensures_imp (fun _ => .mapped) map_listing
  | unmap answers view =>
      apply ensures_bind
      apply ensures_modify
      apply listened_ensures
      · intro marked
        have bound : (s.surfaces view).bound = true := by simpa [Server.setSurface] using marked
        apply ensures_imp _ handleSurfaceUnmap_listed
        intro u listed
        apply ListStep.unmapped
        rw [if_pos bound]
        exact listed
      · intro unmarked
        have unbound : (s.surfaces view).bound = false := by simpa [Server.setSurface] using unmarked
        apply ListStep.unmapped
        rw [unbound]
        rfl
  | newXdgSurface answers view =>
      apply ensures_bind
      apply ensures_modify
      apply newSurface_ensures
      · exact .kept rfl (by simp) (by simp)
      · exact .kept rfl (by simp) (by simp)
  | newXwaylandSurface view wantsFocus =>
      apply ensures_bind
      apply ensures_modify
      apply ensures_bind
      apply ensures_modify
      apply ensures_modify
      exact .kept rfl (by simp) (by simp)
  | setParent view parent =>
      apply ensures_modify
      exact .kept rfl (by simp) (by simp)
  | setWantsFocus view wantsFocus =>
      apply ensures_modify
      exact .kept rfl (by simp) (by simp)
  | destroy view =>
      apply destroySurface_ensures
      intro u _ same _
      exact .kept (congrArg Multiset.ofList same) (by simp) (by simp)
  | _ =>
      apply ensures_imp _ (quiet_listed rfl s)
      intro u same
      exact .kept same (by simp) (by simp)

theorem unmapped_unlisted (valid : Listing s) (hidden : (s.surfaces view).mapped = false) : view ∉ s.listed := by
  intro member
  have mapped := valid.mapped view member
  rw [hidden] at mapped
  simp at mapped

theorem unmap_members (valid : Listing s)
    (fewer : t.listed = if (s.surfaces view).bound then s.listed.erase view else s.listed) :
    t.listed.Nodup ∧ ∀ other ∈ t.listed, other ∈ s.listed ∧ other ≠ view := by
  rw [fewer]
  split
  · refine ⟨valid.distinct.erase view,?_⟩
    intro other member
    have both := valid.distinct.mem_erase_iff.mp member
    exact ⟨both.2,both.1⟩
  · rename_i unbound
    refine ⟨valid.distinct,?_⟩
    intro other member
    refine ⟨member,?_⟩
    intro same
    subst same
    exact unbound (valid.bound other member)

theorem Listing.ofLive (sound : Sound s.scenery) (distinct : s.listed.Nodup)
    (live : ∀ view ∈ s.listed, (s.surfaces view).mapped = true ∧ (s.surfaces view).bound = true) : Listing s :=
  ⟨sound,distinct,fun view member => (live view member).1,fun view member => (live view member).2⟩

theorem listing_preserved (valid : Listing s) (accepted : step s event = some t) : Listing t := by
  have moved := step_scene valid.sound accepted
  have admitted := step_admits accepted
  have carried : ∀ other ∈ s.listed, (∀ answers, event ≠ .unmap answers other) →
      (t.surfaces other).mapped = true ∧ (t.surfaces other).bound = true := by
    intro other member stays
    have kept := view_carried valid.sound (valid.mapped other member) moved stays
    exact ⟨kept.mapped,kept.bound.trans (valid.bound other member)⟩
  have sound := sound_preserved valid.sound accepted
  cases step_listed accepted with
  | @mapped answers view _ listing =>
      simp only [admits,Bool.and_eq_true,Bool.not_eq_true'] at admitted
      have fresh := unmapped_unlisted valid admitted.2
      have new := map_carried moved
      have old := fun other member => carried other member (by simp)
      -- the list with the view or without it
      have both : t.listed = s.listed ∨ t.listed = view ::ₘ s.listed ∧ (s.surfaces view).bound = true := by
        cases listing with
        | skipped same why => exact .inl same
        | added more bound why => exact .inr ⟨more,bound⟩
        | left more bound kind raised same => exact .inr ⟨more,bound⟩
      rcases both with same | ⟨more,bound⟩
      · apply Listing.ofLive sound (same ▸ valid.distinct)
        rw [same]
        exact old
      · apply Listing.ofLive sound
        · rw [more]
          exact Multiset.nodup_cons.mpr ⟨fresh,valid.distinct⟩
        · rw [more]
          intro other member
          rcases Multiset.mem_cons.mp member with rfl | inside
          · exact ⟨new.1,new.2.1.trans bound⟩
          · exact old other inside
  | @unmapped _ view answers fewer =>
      obtain ⟨distinct,members⟩ := unmap_members valid fewer
      apply Listing.ofLive sound distinct
      intro other member
      obtain ⟨inside,apart⟩ := members other member
      apply carried other inside
      intro _ same
      cases same
      exact apart rfl
  | kept same hides shows =>
      apply Listing.ofLive sound (same ▸ valid.distinct)
      rw [same]
      exact fun other member => carried other member fun answers => hides answers other

theorem usable_exact (valid : Listing s) : Usable s ↔ ∀ view ∈ s.listed, Ready s.scenery view := by
  constructor
  · intro usable
    exact usable.ready
  · intro ready
    exact ⟨Multiset.coe_nodup.mp valid.distinct,ready⟩

theorem ready_mapped (moved : SceneStep s.scenery (.map answers view) t.scenery)
    (alive : (s.surfaces view).life = .alive) : Ready t.scenery view ↔
      ((s.surfaces view).xwayland = true → (s.surfaces view).wantsFocus = true) ∧
        (t.scenery.sceneTree view).isSome = true := by
  obtain ⟨mapped,_,kind⟩ := map_carried moved
  have hint := hint_carried moved alive (by simp)
  constructor
  · intro ready
    refine ⟨?_,ready.shown⟩
    intro xwayland
    rw [← show (t.surfaces view).wantsFocus = (s.surfaces view).wantsFocus from hint]
    exact ready.focusable (kind.trans xwayland)
  · intro both
    refine ⟨mapped,?_,both.2⟩
    intro xwayland
    rw [hint]
    exact both.1 (kind.symm.trans xwayland)

theorem usable_step (valid : Listing s) (usable : Usable s) (same : steady s event)
    (accepted : step s event = some t) : Usable t ↔ recovers s event := by
  have after := listing_preserved valid accepted
  have moved := step_scene valid.sound accepted
  have admitted := step_admits accepted
  rw [usable_exact after]
  have old : ∀ other ∈ s.listed, (∀ answers, event ≠ .unmap answers other) → Ready t.scenery other := by
    intro other member stays
    apply ready_kept valid.sound (usable.ready other member) moved stays
    intro wantsFocus hinted
    subst hinted
    exact same
  cases step_listed accepted with
  | @mapped answers view _ listing =>
      simp only [admits,Bool.and_eq_true,decide_eq_true_eq] at admitted
      have new := ready_mapped moved admitted.1
      have others := fun other member => old other member (by simp)
      cases listing with
      | skipped same why =>
          rw [same]
          refine iff_of_true others ?_
          intro bound kind raised
          rw [why bound kind] at raised
          simp at raised
      | added more bound why =>
          have ready : Ready t.scenery view := by
            apply new.mpr
            cases kind : (s.surfaces view).xwayland with
            | true => exact ⟨fun _ => (why kind).2.1,(why kind).2.2⟩
            | false =>
                refine ⟨fun xwayland => absurd xwayland (by simp),?_⟩
                obtain ⟨_,listening,toplevel⟩ := map_carried moved
                exact toplevel_shown after.sound (listening.trans bound) (toplevel.trans kind)
          rw [more]
          refine iff_of_true (Multiset.forall_mem_cons.mpr ⟨ready,others⟩) ?_
          intro _ kind raised
          rw [(why kind).1] at raised
          simp at raised
      | left more bound kind raised unchanged =>
          rw [more,Multiset.forall_mem_cons,new,unchanged]
          constructor
          · intro both _ _ _
            exact ⟨both.1.1 kind,both.1.2⟩
          · intro gate
            have passed := gate bound kind raised
            exact ⟨⟨fun _ => passed.1,passed.2⟩,others⟩
  | @unmapped _ view answers fewer =>
      obtain ⟨_,members⟩ := unmap_members valid fewer
      refine iff_of_true ?_ trivial
      intro other member
      obtain ⟨inside,apart⟩ := members other member
      apply old other inside
      intro _ same
      cases same
      exact apart rfl
  | kept unchanged hides shows =>
      rw [unchanged]
      refine iff_of_true (fun other member => old other member fun answers => hides answers other) ?_
      cases event with
      | map answers view => exact absurd rfl (shows answers view)
      | _ => trivial

end

theorem start_listing : Listing start := by
  refine ⟨start_sound,Multiset.nodup_zero,?_,?_⟩
  · intro view member
    exact absurd member (Multiset.notMem_zero view)
  · intro view member
    exact absurd member (Multiset.notMem_zero view)

theorem start_usable : Usable start := (usable_exact start_listing).mpr fun view member =>
  absurd member (Multiset.notMem_zero view)

theorem view_list_exact (events : List Event) (hints : ∀ row ∈ taken step start events, steady row.1 row.2) :
    (∀ t ∈ visited step start events, Usable t) ↔ ∀ row ∈ taken step start events, recovers row.1 row.2 := by
  apply gate_assuming Listing Usable recovers steady
  · intro s event t valid _ accepted
    exact listing_preserved valid accepted
  · intro s event t valid usable same accepted
    exact usable_step valid usable same accepted
  · exact start_listing
  · exact start_usable
  · exact hints

-- A dialog is mapped after its parent, gets the focus, gives it up and is unmapped.
def dialog : List Event := [
  .newXwaylandSurface 0 true,.newXwaylandSurface 1 true,.map granted 0,.setParent 1 (some 0),.map granted 1,
  .keyF1 granted,.unmap granted 1]

theorem dialog_usable : (∀ t ∈ visited step start dialog, Usable t) ∧
    ∃ t ∈ visited step start dialog, t.views = [1,0] :=
  ⟨(view_list_exact dialog (by decide)).mpr (by decide),by decide⟩

-- An XWayland surface is mapped while its parent never was.
def earlyDialog : List Event := [
  .newXwaylandSurface 0 true,.newXwaylandSurface 1 true,.setParent 1 (some 0),.map granted 1]

-- The error of the parent lookup leaves a view without a tree in the list.
theorem early_dialog_unusable : ¬∀ events, (∀ row ∈ taken step start events, steady row.1 row.2) →
    ∀ t ∈ visited step start events, Usable t := by
  intro claimed
  have found : ∃ t ∈ visited step start earlyDialog, 1 ∈ t.views ∧ (t.tables 1).sceneTree.isSome = false := by
    decide
  obtain ⟨t,member,listed,missing⟩ := found
  have shown := ((claimed earlyDialog (by decide) t member).ready 1 listed).shown
  exact absurd (shown.symm.trans missing) (by decide)

end Janetland.Tinyjl
