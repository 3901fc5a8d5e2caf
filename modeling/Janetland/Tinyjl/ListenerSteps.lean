import Janetland.Tinyjl.Listeners
import Janetland.Tinyjl.SceneSteps

namespace Janetland.Tinyjl.Listeners
open Act

-- Who holds listeners, by the flags of the surfaces.
def Owns (surfaces : Nat → Surface) : Owner → Prop
  | .toplevel id => (surfaces id).bound = true ∧ (surfaces id).xwayland = false
  | .xwayland id => (surfaces id).bound = true ∧ (surfaces id).xwayland = true
  | .scene id tree => (surfaces id).sceneXwSurface = some tree

def Booked (members : List Owner) (listeners : List (Owner × Signal)) : Prop :=
  members.Nodup ∧ Rosters.Exact added members listeners

def Tracked (surfaces : Nat → Surface) (listeners : List (Owner × Signal)) : Prop :=
  ∃ members, Booked members listeners ∧ ∀ owner, owner ∈ members ↔ Owns surfaces owner

structure Valid (s : Ledger) : Prop where
  tracked : Tracked s.server.surfaces s.listeners
  sound : Sound s.server.scenery

section
variable {listeners : List (Owner × Signal)} {surfaces : Nat → Surface} {members : List Owner} {s : Ledger}
  {t u : Server} {id view : Nat}

theorem removed_added (owner : Owner) : removed owner = added owner := by
  cases owner <;> rfl

theorem added_nodup (owner : Owner) : (added owner).Nodup := by
  cases owner <;> simp [added]

theorem tracked_member (tracked : Tracked surfaces listeners) :
    (owner,signal) ∈ listeners ↔ Owns surfaces owner ∧ signal ∈ added owner := by
  obtain ⟨members,⟨_,exact⟩,owned⟩ := tracked
  rw [Rosters.exact_member exact,owned]

theorem booked_nodup (booked : Booked members listeners) : listeners.Nodup :=
  Rosters.exact_nodup booked.2 booked.1 fun owner _ => added_nodup owner

theorem tracked_same {after : Nat → Surface} (tracked : Tracked surfaces listeners)
    (same : ∀ owner, Owns after owner ↔ Owns surfaces owner) : Tracked after listeners := by
  obtain ⟨members,booked,owned⟩ := tracked
  exact ⟨members,booked,fun owner => (owned owner).trans (same owner).symm⟩

theorem tracked_joined {after : Nat → Surface} (tracked : Tracked surfaces listeners)
    (fresh : ¬Owns surfaces owner) (joined : ∀ other, Owns after other ↔ Owns surfaces other ∨ other = owner) :
    Tracked after (listeners ++ (added owner).map (owner,·)) := by
  obtain ⟨members,⟨distinct,exact⟩,owned⟩ := tracked
  refine ⟨members ++ [owner],⟨?_,Rosters.exact_joined exact owner⟩,?_⟩
  · rw [← List.concat_eq_append,List.nodup_concat]
    exact ⟨fun inside => fresh ((owned owner).mp inside),distinct⟩
  · intro other
    rw [List.mem_append,List.mem_singleton,owned,joined]

theorem unbind_ran (booked : Booked members s.listeners) (listed : owner ∈ members) : ∃ fewer,
    unbind owner s = (.ok (),{ s with listeners := fewer }) ∧ Booked (members.erase owner) fewer := by
  have all : (removed owner).Perm (added owner) := by rw [removed_added]
  obtain ⟨fewer,taken,left⟩ := Rosters.exact_left booked.2 listed all
  refine ⟨fewer,?_,booked.1.erase owner,left⟩
  unfold unbind
  rw [bind_run,look,taken]
  rfl

theorem linked_view (id : Nat) (tracked : Tracked s.server.surfaces s.listeners)
    (common : signal ∈ [Signal.map,.unmap,.destroy,.requestMove,.requestResize]) :
    (viewOf s.server id,signal) ∈ s.listeners ↔ (s.server.surfaces id).bound = true := by
  rw [tracked_member tracked]
  have both : ∀ owner, owner = Owner.toplevel id ∨ owner = .xwayland id → signal ∈ added owner := by
    rintro owner (rfl | rfl)
    · revert common
      simp [added]
      grind
    · revert common
      simp [added]
      grind
  unfold viewOf
  cases kind : (s.server.surfaces id).xwayland with
  | true => simp [Owns,kind,both]
  | false => simp [Owns,kind,both]

theorem scene_member : tree ∈ scenes listeners id signal ↔ (.scene id tree,signal) ∈ listeners := by
  unfold scenes
  rw [List.mem_filterMap]
  constructor
  · rintro ⟨⟨owner,bound⟩,inside,found⟩
    cases owner with
    | scene other node =>
        simp only [Option.ite_none_right_eq_some,Option.some.injEq] at found
        obtain ⟨⟨rfl,rfl⟩,rfl⟩ := found
        exact inside
    | toplevel other | xwayland other => simp at found
  · intro inside
    exact ⟨_,inside,by simp⟩

theorem dying_member : (id,tree) ∈ dying s root ↔ (.scene id tree,.nodeDestroy) ∈ s.listeners ∧
    Forest.inside s.server.parentTree root tree = true := by
  unfold dying
  rw [List.mem_filterMap]
  constructor
  · rintro ⟨⟨owner,bound⟩,inside,found⟩
    cases owner with
    | scene other node =>
        cases bound with
        | nodeDestroy =>
            simp only [Option.ite_none_right_eq_some,Option.some.injEq,Prod.mk.injEq] at found
            obtain ⟨below,rfl,rfl⟩ := found
            exact ⟨inside,below⟩
        | _ => simp at found
    | toplevel other | xwayland other => simp at found
  · rintro ⟨inside,below⟩
    exact ⟨_,inside,by simp [below]⟩

theorem notified_linked {handler : Act Ledger Unit} (linked : (owner,signal) ∈ s.listeners) :
    notified owner signal handler s = callback handler s := by
  change when (decide ((owner,signal) ∈ s.listeners)) (callback handler) s = _
  rw [decide_eq_true linked]
  rfl

theorem notified_unlinked {handler : Act Ledger Unit} (missing : (owner,signal) ∉ s.listeners) :
    notified owner signal handler s = (.ok (),s) := by
  change when (decide ((owner,signal) ∈ s.listeners)) (callback handler) s = _
  rw [decide_eq_false missing]
  rfl

theorem listened_bound {handler : Act Server Unit} (bound : (t.surfaces id).bound = true) :
    listened id handler t = handler t := by
  change when (t.surfaces id).bound handler t = _
  rw [bound]
  rfl

theorem listened_unbound {handler : Act Server Unit} (unbound : (t.surfaces id).bound = false) :
    listened id handler t = (.ok (),t) := by
  change when (t.surfaces id).bound handler t = _
  rw [unbound]
  rfl

-- A scene-xw-surface that listens has a tree to work on.
theorem scene_alive (valid : Valid s) (linked : (.scene id tree,signal) ∈ s.listeners) :
    (s.server.trees tree).alive = true := by
  have owned : (s.server.surfaces id).sceneXwSurface = some tree := ((tracked_member valid.tracked).mp linked).1
  have bindings : (s.server.surfaces id).sceneXwSurface = if (s.server.surfaces id).xwayland
    then (s.server.surfaces id).data.filter fun tree => (s.server.trees tree).alive else none :=
    valid.sound.built.bindings id
  rw [owned] at bindings
  split at bindings
  · exact (Option.filter_eq_some_iff.mp bindings.symm).2
  · simp at bindings

theorem enabled_still (valid : Valid s) (linked : (.scene id tree,signal) ∈ s.listeners) :
    wlrSceneNodeSetEnabled tree s = (.ok (),s) := by
  unfold wlrSceneNodeSetEnabled onServer on reach
  simp [look,scene_alive valid linked]

-- A signal that a view listens to does to the server what its handler does to a bound view.
theorem emit_simulates {handler : Act Ledger Unit} {small : Act Server Unit} {sceneHandler : Nat → Act Ledger Unit}
    (valid : Valid s) (common : signal ∈ [Signal.map,.unmap,.destroy,.requestMove,.requestResize])
    (handled : (s.server.surfaces id).bound = true →
      Simulates Ledger.server handler small s (fun _ t => Valid t) Valid)
    (calm : ∀ t tree, Valid t → (.scene id tree,signal) ∈ t.listeners → sceneHandler tree t = (.ok (),t)) :
    Simulates Ledger.server (emit id signal handler sceneHandler) (callback (listened id small)) s
      (fun _ t => Valid t) Valid := by
  have quiet : ∀ t, Valid t → forEach (fun tree => notified (.scene id tree) signal (sceneHandler tree))
      (scenes s.listeners id signal) t = (.ok (),t) := by
    intro t holds
    apply forEach_still
    intro tree _
    by_cases linked : (.scene id tree,signal) ∈ t.listeners
    · rw [notified_linked linked,callback,calm t tree holds linked]
    · exact notified_unlinked linked
  apply simulates_read
  apply simulates_read
  apply simulates_more
  have linked := linked_view id valid.tracked common
  cases bound : (s.server.surfaces id).bound with
  | true =>
      have called := simulates_callback (handled bound)
      refine simulates_ran (t := s) ?_ (notified_linked (linked.mpr bound)) rfl
      have same : callback (listened id small) s.server = callback small s.server := by
        rw [callback,listened_bound bound]
        rfl
      refine simulates_instead ?_ same
      apply simulates_mono called _ fun _ holds => holds
      exact fun _ t holds => ⟨t,quiet t holds,rfl,holds⟩
  | false =>
      have missing : (viewOf s.server id,signal) ∉ s.listeners := by
        rw [linked,bound]
        simp
      unfold Simulates Ensures
      rw [notified_unlinked missing,callback,listened_unbound bound]
      exact ⟨rfl,s,quiet s valid,rfl,valid⟩

-- Callbacks that take the listeners of a scene-xw-surface out, one for each node.
theorem nodes_ran {nodes : List (Nat × Nat)} (booked : Booked members s.listeners) (distinct : nodes.Nodup)
    (listed : ∀ node ∈ nodes, .scene node.1 node.2 ∈ members) : ∃ fewer,
    forEach (fun node => notified (.scene node.1 node.2) .nodeDestroy (unbind (.scene node.1 node.2))) nodes s =
      (.ok (),{ s with listeners := fewer }) ∧
      Booked (members.diff (nodes.map fun node => .scene node.1 node.2)) fewer := by
  induction nodes generalizing members s with
  | nil => exact ⟨s.listeners,rfl,booked⟩
  | cons node rest ih =>
      have first : .scene node.1 node.2 ∈ members := listed node List.mem_cons_self
      have linked : (.scene node.1 node.2,.nodeDestroy) ∈ s.listeners :=
        (Rosters.exact_member booked.2).mpr ⟨first,List.mem_cons_self⟩
      obtain ⟨fewer,ran,left⟩ := unbind_ran booked first
      have others : ∀ other ∈ rest, .scene other.1 other.2 ∈ members.erase (.scene node.1 node.2) := by
        intro other inside
        rw [booked.1.mem_erase_iff]
        refine ⟨?_,listed other (List.mem_cons_of_mem _ inside)⟩
        intro same
        simp only [Owner.scene.injEq] at same
        obtain rfl : other = node := Prod.ext same.1 same.2
        exact (List.nodup_cons.mp distinct).1 inside
      have still := (List.nodup_cons.mp distinct).2
      obtain ⟨last,later,kept⟩ := ih (s := { s with listeners := fewer }) left still others
      refine ⟨last,?_,?_⟩
      · unfold forEach
        rw [bind_run,notified_linked linked,callback,ran]
        exact later
      · rw [List.map_cons,List.diff_cons]
        exact kept

theorem dying_nodup (booked : Booked members s.listeners) : (dying s root).Nodup := by
  apply (booked_nodup booked).filterMap
  rintro ⟨owner,signal⟩ ⟨other,bound⟩ node first second
  cases owner with
  | scene id tree =>
      cases other with
      | scene id' tree' =>
          cases signal <;> simp at first
          cases bound <;> simp at second
          obtain ⟨_,rfl⟩ := first
          obtain ⟨_,rfl,rfl⟩ := second
          rfl
      | toplevel id' | xwayland id' => simp at second
  | toplevel id | xwayland id => simp at first

def Below (s : Server) (root : Nat) : Owner → Prop
  | .scene _ tree => Forest.inside s.parentTree root tree = true
  | _ => False

-- A node is destroyed: every scene-xw-surface in its subtree loses its listeners.
theorem nodeDestroy_simulates (root : Nat) (order : Order) (booked : Booked members s.listeners) :
    Simulates Ledger.server (wlrSceneNodeDestroy order root) (Tinyjl.wlrSceneNodeDestroy root) s
      (fun _ t => (∀ id, (t.server.surfaces id).xwayland = (s.server.surfaces id).xwayland) ∧ ∃ left,
        Booked left t.listeners ∧ ∀ owner, owner ∈ left ↔ owner ∈ members ∧ ¬Below s.server root owner)
      fun _ => False := by
  have found : ∀ node, node ∈ order.visit (dying s root) ↔ node ∈ dying s root :=
    fun _ => (order.all _).mem_iff
  have listed : ∀ node ∈ order.visit (dying s root), .scene node.1 node.2 ∈ members := by
    intro node inside
    exact ((Rosters.exact_member booked.2).mp (dying_member.mp ((found node).mp inside)).1).1
  obtain ⟨fewer,ran,left⟩ := nodes_ran booked ((order.all _).nodup_iff.mpr (dying_nodup booked)) listed
  have kept : ∀ owner, owner ∈ members.diff ((order.visit (dying s root)).map fun node => .scene node.1 node.2) ↔
      owner ∈ members ∧ ¬Below s.server root owner := by
    intro owner
    rw [booked.1.mem_sdiff_iff]
    refine and_congr_right fun inside => not_congr ?_
    rw [List.mem_map]
    constructor
    · rintro ⟨node,among,rfl⟩
      exact (dying_member.mp ((found node).mp among)).2
    · intro below
      cases owner with
      | scene id tree =>
          have linked : (.scene id tree,.nodeDestroy) ∈ s.listeners :=
            (Rosters.exact_member booked.2).mpr ⟨inside,List.mem_cons_self⟩
          exact ⟨(id,tree),(found _).mpr (dying_member.mpr ⟨linked,below⟩),rfl⟩
      | toplevel id | xwayland id => exact below.elim
  cases alive : (s.server.trees root).alive with
  | false =>
      have dead : reach root s.server = (.fault .badRead,s.server) := by simp [reach,look,alive]
      have first : onServer (reach root) s = (.fault .badRead,s) := by simp only [onServer,on,dead]
      have large : wlrSceneNodeDestroy order root s = (.fault .badRead,s) := by
        unfold wlrSceneNodeDestroy
        rw [bind_run,first]
      have small : Tinyjl.wlrSceneNodeDestroy root s.server = (.fault .badRead,s.server) := by
        unfold Tinyjl.wlrSceneNodeDestroy
        rw [bind_run,dead]
      unfold Simulates Ensures
      rw [large,small]
      exact ⟨rfl,trivial⟩
  | true =>
      have reached : reach root s.server = (.ok (),s.server) := by simp [reach,look,alive]
      have first : onServer (reach root) s = (.ok (),s) := by simp only [onServer,on,reached]
      apply simulates_aside first rfl
      apply simulates_read
      apply simulates_aside ran rfl
      refine simulates_on (fun _ _ => rfl) ?_
      apply ensures_bind
      rw [Ensures,reached]
      exact ⟨fun _ => rfl,_,left,kept⟩

-- The owners that an ended surface leaves, by the flags.
def Doomed (c : Server.Scenery) (id : Nat) : Owner → Prop
  | .scene _ tree => c.dies id tree = true
  | _ => False

theorem owns_destroyed {c : Server.Scenery} (owner : Owner) : Owns (c.destroyed id).surfaces owner ↔
    Owns c.surfaces owner ∧ owner ≠ .toplevel id ∧ owner ≠ .xwayland id ∧ ¬Doomed c id owner := by
  cases owner with
  | toplevel other =>
      simp [Owns,Doomed,Server.Scenery.destroyed]
      grind
  | xwayland other =>
      simp [Owns,Doomed,Server.Scenery.destroyed]
      grind
  | scene other tree => simp [Owns,Doomed,Server.Scenery.destroyed,Option.filter_eq_some_iff]

theorem handled_destroy (id : Nat) (tracked : Tracked s.server.surfaces s.listeners) : ∃ fewer left,
    notified (viewOf s.server id) .destroy (handleDestroy id) s = (.ok (),{ s with listeners := fewer }) ∧
      Booked left fewer ∧ ∀ owner, owner ∈ left ↔
        Owns s.server.surfaces owner ∧ owner ≠ .toplevel id ∧ owner ≠ .xwayland id := by
  obtain ⟨members,booked,owned⟩ := tracked
  have others : ∀ owner, Owns s.server.surfaces owner → owner ≠ viewOf s.server id →
      owner ≠ .toplevel id ∧ owner ≠ .xwayland id := by
    intro owner owns apart
    constructor
    · rintro rfl
      exact apart (by simp [viewOf,owns.2])
    · rintro rfl
      exact apart (by simp [viewOf,owns.2])
  have own : viewOf s.server id = .toplevel id ∨ viewOf s.server id = .xwayland id := by
    unfold viewOf
    split
    · exact .inr rfl
    · exact .inl rfl
  by_cases listed : viewOf s.server id ∈ members
  · obtain ⟨fewer,ran,left⟩ := unbind_ran booked listed
    have linked : (viewOf s.server id,.destroy) ∈ s.listeners := by
      refine (Rosters.exact_member booked.2).mpr ⟨listed,?_⟩
      rcases own with same | same <;> simp [same,added]
    refine ⟨fewer,_,?_,left,?_⟩
    · have called : handleDestroy id s = (.ok (),{ s with listeners := fewer }) := ran
      rw [notified_linked linked,callback,called]
    · intro owner
      rw [booked.1.mem_erase_iff,owned]
      constructor
      · rintro ⟨apart,owns⟩
        exact ⟨owns,others owner owns apart⟩
      · rintro ⟨owns,first,second⟩
        refine ⟨?_,owns⟩
        rintro rfl
        rcases own with same | same
        · exact first same
        · exact second same
  · have missing : (viewOf s.server id,.destroy) ∉ s.listeners :=
      fun linked => listed ((Rosters.exact_member booked.2).mp linked).1
    refine ⟨s.listeners,members,notified_unlinked missing,booked,?_⟩
    intro owner
    rw [owned]
    constructor
    · intro owns
      refine ⟨owns,others owner owns ?_⟩
      rintro rfl
      exact listed ((owned _).mpr owns)
    · exact fun holds => holds.1

theorem scenes_owned (tracked : Tracked s.server.surfaces s.listeners) :
    scenes s.listeners id .destroy = (s.server.surfaces id).sceneXwSurface.toList := by
  have listed : ∀ tree, tree ∈ scenes s.listeners id .destroy ↔
      (s.server.surfaces id).sceneXwSurface = some tree := by
    intro tree
    rw [scene_member,tracked_member tracked]
    exact and_iff_left (by simp [added])
  have distinct : (scenes s.listeners id .destroy).Nodup := by
    obtain ⟨members,booked,_⟩ := tracked
    apply (booked_nodup booked).filterMap
    rintro ⟨owner,signal⟩ ⟨other,bound⟩ node first second
    cases owner with
    | scene host tree =>
        cases other with
        | scene host' tree' =>
            simp only [Option.mem_def,Option.ite_none_right_eq_some,Option.some.injEq] at first second
            obtain ⟨⟨rfl,rfl⟩,rfl⟩ := first
            obtain ⟨⟨rfl,rfl⟩,rfl⟩ := second
            rfl
        | toplevel host' | xwayland host' => simp at second
    | toplevel host | xwayland host => simp at first
  cases own : (s.server.surfaces id).sceneXwSurface with
  | none =>
      rw [own] at listed
      exact List.eq_nil_iff_forall_not_mem.mpr fun tree inside => by simpa using (listed tree).mp inside
  | some root =>
      rw [own] at listed
      apply List.perm_singleton.mp
      rw [List.perm_ext_iff_of_nodup distinct (List.nodup_singleton root)]
      intro tree
      rw [listed,List.mem_singleton,Option.some.injEq,eq_comm]

theorem elim_simulates (root : Option Nat) (order : Order) (booked : Booked members s.listeners) :
    Simulates Ledger.server (root.elim (pure ()) (wlrSceneNodeDestroy order))
      (root.elim (pure ()) Tinyjl.wlrSceneNodeDestroy) s
      (fun _ t => (∀ id, (t.server.surfaces id).xwayland = (s.server.surfaces id).xwayland) ∧ ∃ left,
        Booked left t.listeners ∧
        ∀ owner, owner ∈ left ↔ owner ∈ members ∧ ¬∃ top, root = some top ∧ Below s.server top owner)
      fun _ => False := by
  cases root with
  | none => exact simulates_pure ⟨fun _ => rfl,members,booked,by simp⟩
  | some top =>
      apply simulates_mono (nodeDestroy_simulates top order booked) _ fun _ => False.elim
      rintro _ t ⟨kinds,left,booked,kept⟩
      exact ⟨kinds,left,booked,by simpa using kept⟩

theorem emitDestroy_ran (id : Nat) (order : Order) (tracked : Tracked s.server.surfaces s.listeners) : ∃ fewer members,
    emit id .destroy (handleDestroy id) (wlrSceneNodeDestroy order) s =
      (s.server.surfaces id).sceneXwSurface.elim (pure ()) (wlrSceneNodeDestroy order)
        { s with listeners := fewer } ∧ Booked members fewer ∧ ∀ owner, owner ∈ members ↔
        Owns s.server.surfaces owner ∧ owner ≠ .toplevel id ∧ owner ≠ .xwayland id := by
  obtain ⟨fewer,members,ran,booked,kept⟩ := handled_destroy id tracked
  refine ⟨fewer,members,?_,booked,kept⟩
  have onward : ∀ next : Unit → Act Ledger Unit,
      (notified (viewOf s.server id) .destroy (handleDestroy id) >>= next) s = next () { s with listeners := fewer } := by
    intro next
    rw [bind_run,ran]
  refine (onward fun _ => forEach (fun tree => notified (.scene id tree) .destroy (wlrSceneNodeDestroy order tree))
    (scenes s.listeners id .destroy)).trans ?_
  rw [scenes_owned tracked]
  cases own : (s.server.surfaces id).sceneXwSurface with
  | none => rfl
  | some tree =>
      have linked : (.scene id tree,.destroy) ∈ fewer :=
        (Rosters.exact_member booked.2).mpr ⟨(kept _).mpr ⟨own,by simp,by simp⟩,by simp [added]⟩
      have calm := nodeDestroy_simulates tree order (s := { s with listeners := fewer }) booked
      change (notified (.scene id tree) .destroy (wlrSceneNodeDestroy order tree) >>= fun _ => pure ()) _ = _
      rw [bind_run,notified_linked linked,callback_calm calm.2]
      change _ = wlrSceneNodeDestroy order tree _
      rcases wlrSceneNodeDestroy order tree { s with listeners := fewer } with ⟨_ | _ | _,t⟩ <;> rfl

theorem destroy_simulates (id : Nat) (order : Order) (tracked : Tracked s.server.surfaces s.listeners)
    (built : Built s.server.scenery) :
    Simulates Ledger.server (destroySurface order id) (Tinyjl.destroySurface id) s
      (fun _ t => Tracked t.server.surfaces t.listeners) fun _ => False := by
  have bindings : (s.server.surfaces id).sceneXwSurface = if (s.server.surfaces id).xwayland
      then (s.server.surfaces id).data.filter fun tree => (s.server.trees tree).alive else none :=
    built.bindings id
  have doomed : ∀ owner, Doomed s.server.scenery id owner ↔
      ∃ top, s.server.scenery.ownTree id = some top ∧ Below s.server top owner := by
    intro owner
    cases owner with
    | scene other tree =>
        unfold Doomed Below Server.Scenery.dies
        cases s.server.scenery.ownTree id with
        | none => simp
        | some top => simp; rfl
    | toplevel other | xwayland other => simp [Doomed,Below]
  have ended : Ensures (Tinyjl.destroySurface id) s.server (fun _ t => t.scenery = s.server.scenery.destroyed id)
      fun t => t.scenery = s.server.scenery.destroyed id := destroySurface_ensures fun t same _ _ => same
  have large : Simulates Ledger.server (destroySurface order id) (Tinyjl.destroySurface id) s
      (fun _ t => ∃ left, Booked left t.listeners ∧ ∀ owner, owner ∈ left ↔ Owns s.server.surfaces owner ∧
        owner ≠ .toplevel id ∧ owner ≠ .xwayland id ∧ ¬Doomed s.server.scenery id owner) fun _ => False := by
    obtain ⟨fewer,members,ran,booked,kept⟩ := emitDestroy_ran id order tracked
    have gone := fun root => elim_simulates root order (s := { s with listeners := fewer }) booked
    simp only [kept,and_assoc] at gone
    simp only [doomed,Server.Scenery.ownTree]
    cases kind : (s.server.surfaces id).xwayland with
    | true =>
        have kindC : (s.server.scenery.surfaces id).xwayland = true := kind
        simp only [kindC,if_true]
        have small : Tinyjl.destroySurface id s.server =
            ((s.server.surfaces id).sceneXwSurface.elim (pure ()) Tinyjl.wlrSceneNodeDestroy >>= fun _ =>
              modify fun s => { s with surfaces := departed s id }) s.server := by
          unfold Tinyjl.destroySurface
          rw [bind_run]
          simp only [Act.read,look,kind,if_true]
        refine simulates_instead ?_ small
        apply simulates_bind
        refine simulates_ran (s := s) (t := { s with listeners := fewer }) ?_ ran rfl
        apply simulates_mono (gone _) _ fun _ => False.elim
        rintro _ t ⟨kinds,left⟩
        apply simulates_read
        simp only [(kinds id).trans kind,if_true]
        apply simulates_aside (t := t) rfl rfl
        exact simulates_on (fun _ _ => rfl) left
    | false =>
        have kindC : (s.server.scenery.surfaces id).xwayland = false := kind
        simp only [kindC,Bool.false_eq_true,if_false]
        have none : (s.server.surfaces id).sceneXwSurface = none := by simpa [kind] using bindings
        have small : Tinyjl.destroySurface id s.server =
            ((s.server.surfaces id).data.elim (pure ()) Tinyjl.wlrSceneNodeDestroy >>= fun _ =>
              modify fun s => { s with surfaces := departed s id }) s.server := by
          unfold Tinyjl.destroySurface
          rw [bind_run]
          simp only [Act.read,look,kind,Bool.false_eq_true,if_false]
        refine simulates_instead ?_ small
        rw [none] at ran
        apply simulates_aside ran rfl
        apply simulates_read
        simp only [kind,Bool.false_eq_true,if_false]
        apply simulates_bind
        apply simulates_mono (gone _) _ fun _ => False.elim
        rintro _ t ⟨_,left⟩
        exact simulates_on (fun _ _ => rfl) left
  apply simulates_mono (simulates_part large ended) _ fun _ both => both.1
  rintro _ t ⟨⟨left,booked,kept⟩,same⟩
  refine ⟨left,booked,fun owner => ?_⟩
  have surfaces : t.server.surfaces = (s.server.scenery.destroyed id).surfaces :=
    congrArg Server.Scenery.surfaces same
  rw [kept,surfaces,owns_destroyed]
  rfl

def ownership (t : Server) (id : Nat) : Bool × Bool × Option Nat :=
  ((t.surfaces id).bound,(t.surfaces id).xwayland,(t.surfaces id).sceneXwSurface)

theorem owns_same (same : ownership t = ownership u) (owner : Owner) :
    Owns t.surfaces owner ↔ Owns u.surfaces owner := by
  have at' : ∀ id, ownership t id = ownership u id := congrFun same
  simp only [ownership,Prod.mk.injEq] at at'
  cases owner with
  | toplevel id => simp [Owns,at' id]
  | xwayland id => simp [Owns,at' id]
  | scene id tree => simp [Owns,at' id]

theorem ownership_marked {change : Surface → Surface}
    (bound : (change (t.surfaces id)).bound = (t.surfaces id).bound)
    (kind : (change (t.surfaces id)).xwayland = (t.surfaces id).xwayland)
    (scene : (change (t.surfaces id)).sceneXwSurface = (t.surfaces id).sceneXwSurface) :
    ownership (t.setSurface id change) = ownership t := by
  funext other
  by_cases same : other = id
  · subst same
    simp [ownership,Server.setSurface,bound,kind,scene]
  · simp [ownership,Server.setSurface,same]

theorem kept_simulates {act : Act Server α} {part : Server → γ} (kept : Keeps part act) :
    Simulates Ledger.server (onServer act) act s
      (fun _ t => part t.server = part s.server ∧ t.listeners = s.listeners)
      fun t => part t.server = part s.server ∧ t.listeners = s.listeners := by
  refine simulates_on (fun _ _ => rfl) ?_
  have all := kept s.server
  exact ensures_weaken all (fun _ _ same => ⟨same,rfl⟩) fun _ same => ⟨same,rfl⟩

def Kept (t : Ledger) : Prop := Tracked t.server.surfaces t.listeners

theorem kept_ownership {act : Act Server Unit} (kept : Keeps ownership act) (before : Kept s) :
    Simulates Ledger.server (onServer act) act s (fun _ t => Kept t) Kept := by
  have still : ∀ t : Ledger, ownership t.server = ownership s.server ∧ t.listeners = s.listeners → Kept t := by
    rintro t ⟨same,equal⟩
    unfold Kept
    rw [equal]
    exact tracked_same before (owns_same same)
  exact simulates_mono (kept_simulates kept) (fun _ => still) still

theorem treeOf_keeps {answers : Answers} : Keeps Server.surfaces (treeOf answers parent data) := by
  cases data with
  | none =>
      apply keeps_bind reach_keeps
      intro _
      split
      · exact fun t => rfl
      · exact keeps_lift _
  | some tree => exact keeps_pure tree

theorem subsurface_keeps {answers : Answers} :
    Keeps Server.surfaces (wlrSceneSubsurfaceTreeCreate answers parent surface) := by
  apply keeps_bind reach_keeps
  intro _
  split
  · exact fun t => rfl
  · exact keeps_lift _

-- Binding the listeners of a new scene-xw-surface is all that mapping does about them.
theorem sceneCreate_simulates {answers : Answers} (before : Kept s)
    (bare : (s.server.surfaces view).data = none → (s.server.surfaces view).sceneXwSurface = none) :
    Simulates Ledger.server (sceneXwaylandSurfaceCreate answers parent view)
      (Tinyjl.sceneXwaylandSurfaceCreate answers parent view) s (fun _ t => Kept t) Kept := by
  have still : ∀ t : Ledger, t.server.surfaces = s.server.surfaces → t.listeners = s.listeners → Kept t := by
    intro t same equal
    unfold Kept
    rw [same,equal]
    exact before
  apply simulates_reads fun t : Server => (t.surfaces view).data
  apply simulates_bind
  apply simulates_mono (kept_simulates treeOf_keeps) _ fun t same => still t same.1 same.2
  rintro tree t ⟨same,equal⟩
  apply simulates_bind
  apply simulates_mono (kept_simulates subsurface_keeps) _ fun u later =>
    still u (later.1.trans same) (later.2.trans equal)
  rintro surfaceTree u ⟨same',equal'⟩
  replace same := same'.trans same
  replace equal := equal'.trans equal
  apply simulates_bind
  cases cached : (s.server.surfaces view).data with
  | some old => exact simulates_pure (simulates_pure (still u same equal))
  | none =>
      have bound : bind (.scene view tree) u = (.ok (),{ u with
        listeners := u.listeners ++ (added (.scene view tree)).map (.scene view tree,·) }) := rfl
      apply simulates_aside bound rfl
      refine simulates_on (fun _ _ => rfl) ?_
      refine simulates_pure (?_ : Tracked _ (u.listeners ++ _))
      have fresh : ¬Owns s.server.surfaces (.scene view tree) := by simp [Owns,bare cached]
      rw [equal]
      apply tracked_joined before fresh
      intro other
      change Owns (Function.update u.server.surfaces view _) other ↔ _
      rw [same]
      cases other with
      | toplevel id | xwayland id =>
          by_cases own : id = view
          · subst own
            simp [Owns]
          · simp [Owns,own]
      | scene id node =>
          by_cases own : id = view
          · subst own
            simp [Owns,bare cached,eq_comm]
          · simp [Owns,own]

theorem map_simulates {answers : Answers} (before : Kept s)
    (bare : (s.server.surfaces view).data = none → (s.server.surfaces view).sceneXwSurface = none) :
    Simulates Ledger.server (handleSurfaceMap answers view) (Tinyjl.handleSurfaceMap answers view) s
      (fun _ t => Kept t) Kept := by
  have still : ∀ t : Ledger, t.server.surfaces = s.server.surfaces → t.listeners = s.listeners → Kept t := by
    intro t same equal
    unfold Kept
    rw [same,equal]
    exact before
  have focused : ∀ t, Kept t →
      Simulates Ledger.server (onServer (focusMapped answers view)) (focusMapped answers view) t
        (fun _ t => Kept t) Kept := by
    intro t kept
    apply kept_ownership _ kept
    exact keeps_view focusMapped_keeps fun pair id =>
      ((pair.1.surfaces id).bound,(pair.1.surfaces id).xwayland,(pair.1.surfaces id).sceneXwSurface)
  let pushed : Ledger := { s with server := s.server.pushed view }
  have put : Simulates Ledger.server (when (s.server.surfaces view).xwayland (putIntoScene answers view))
      (when (s.server.surfaces view).xwayland (Tinyjl.putIntoScene answers view)) pushed
      (fun _ t => Kept t) Kept := by
    cases (s.server.surfaces view).xwayland with
    | false => exact simulates_pure before
    | true =>
        have kept : Keeps Server.surfaces (look (parentTreeOf view)) := keeps_look _
        apply simulates_bind
        apply simulates_mono (kept_simulates (s := pushed) kept) _ fun t same => still t same.1 same.2
        rintro parent t ⟨same,equal⟩
        have same : t.server.surfaces = s.server.surfaces := same
        apply simulates_bind
        apply simulates_mono (sceneCreate_simulates (still t same equal) _) _ fun _ kept => kept
        · rw [same]
          exact bare
        · intro made u kept
          apply kept_ownership _ kept
          refine keeps_bind (keeps_modify fun _ => rfl) fun _ => ?_
          refine keeps_bind (keeps_modify fun _ => rfl) fun _ => ?_
          refine keeps_bind (keeps_modify fun _ => ownership_marked rfl rfl rfl) fun _ => ?_
          exact keeps_modify fun _ => rfl
  apply simulates_bind
  refine simulates_on (fun _ _ => rfl) ?_
  apply simulates_reads fun t : Server => (t.surfaces view).xwayland
  apply simulates_bind
  exact simulates_mono put (fun _ => focused) fun _ kept => kept

theorem scenery_simulates {act : Act Server Unit} (kept : Keeps Server.scenery act) (valid : Valid s) :
    Simulates Ledger.server (onServer act) act s (fun _ t => Valid t) Valid := by
  have still : ∀ t : Ledger, t.server.scenery = s.server.scenery ∧ t.listeners = s.listeners → Valid t := by
    rintro t ⟨same,equal⟩
    have surfaces : t.server.surfaces = s.server.surfaces := congrArg Server.Scenery.surfaces same
    refine ⟨?_,?_⟩
    · rw [surfaces,equal]
      exact valid.tracked
    · rw [same]
      exact valid.sound
  exact simulates_mono (kept_simulates kept) (fun _ => still) still

theorem bare_scene (valid : Valid s) (bare : (s.server.surfaces id).data = none) :
    (s.server.surfaces id).sceneXwSurface = none := by
  have bindings : (s.server.scenery.surfaces id).sceneXwSurface = _ := valid.sound.built.bindings id
  have blank : (s.server.scenery.surfaces id).data = none := bare
  rw [blank] at bindings
  have none : (s.server.scenery.surfaces id).sceneXwSurface = none := by simpa using bindings
  exact none

-- A surface changes in what the listeners do not depend on.
theorem marked_valid {change : Surface → Surface} (valid : Valid s)
    (same : ownership (s.server.setSurface id change) = ownership s.server)
    (sound : Sound (s.server.scenery.mark id change)) : Valid { s with server := s.server.setSurface id change } :=
  ⟨tracked_same valid.tracked (owns_same same),sound⟩

theorem mapEvent_simulates {answers : Answers} (valid : Valid s) (alive : (s.server.surfaces id).life = .alive) :
    Simulates Ledger.server
      (do
        onServer <| modify fun s => s.setSurface id Surface.mapping
        emit id .map (handleSurfaceMap answers id) wlrSceneNodeSetEnabled)
      (do
        modify fun s => s.setSurface id Surface.mapping
        callback (listened id (Tinyjl.handleSurfaceMap answers id)))
      s (fun _ t => Kept t) Kept := by
  have moved : SceneStep s.server.scenery (.map answers id) (s.server.scenery.mark id Surface.mapping) :=
    .mapped alive
  have marked : Valid { s with server := s.server.setSurface id Surface.mapping } :=
    marked_valid valid (ownership_marked rfl rfl rfl) (scene_preserved valid.sound moved)
  have base := @map_scene _ answers _ valid.sound alive
  apply simulates_bind
  refine simulates_on (fun _ _ => rfl) ?_
  apply simulates_mono (emit_simulates marked (by simp) _ fun t tree => enabled_still)
    (fun _ _ holds => holds.tracked) fun _ holds => holds.tracked
  intro bound
  have ended : Ensures (Tinyjl.handleSurfaceMap answers id) (s.server.setSurface id Surface.mapping)
      (fun _ t => Sound t.scenery) fun t => Sound t.scenery := by
    have heard : Ensures (listened id (Tinyjl.handleSurfaceMap answers id))
      (s.server.setSurface id Surface.mapping)
      (fun _ t => SceneStep s.server.scenery (.map answers id) t.scenery)
      fun t => SceneStep s.server.scenery (.map answers id) t.scenery := base
    apply ensures_imp fun _ => scene_preserved valid.sound
    unfold Ensures at heard ⊢
    rwa [listened_bound bound] at heard
  have handled := simulates_part (map_simulates marked.tracked (bare_scene marked)) ended
  exact simulates_mono handled (fun _ _ both => ⟨both.1,both.2⟩) fun _ both => ⟨both.1,both.2⟩

theorem unmapEvent_simulates {answers : Answers} (valid : Valid s) (alive : (s.server.surfaces id).life = .alive) :
    Simulates Ledger.server
      (do
        onServer <| modify fun s => s.setSurface id fun surface => { surface with mapped := false }
        emit id .unmap (onServer (handleSurfaceUnmap answers id)) wlrSceneNodeSetEnabled)
      (do
        modify fun s => s.setSurface id fun surface => { surface with mapped := false }
        callback (listened id (handleSurfaceUnmap answers id)))
      s (fun _ t => Kept t) Kept := by
  have moved : SceneStep s.server.scenery (.unmap answers id)
      (s.server.scenery.mark id fun surface => { surface with mapped := false }) := .unmapped alive
  have marked : Valid
      { s with server := s.server.setSurface id fun surface => { surface with mapped := false } } :=
    marked_valid valid (ownership_marked rfl rfl rfl) (scene_preserved valid.sound moved)
  apply simulates_bind
  refine simulates_on (fun _ _ => rfl) ?_
  apply simulates_mono (emit_simulates marked (by simp) _ fun t tree => enabled_still)
    (fun _ _ holds => holds.tracked) fun _ holds => holds.tracked
  intro _
  exact scenery_simulates handleSurfaceUnmap_keeps marked

theorem request_simulates {handler : Act Server Unit} (valid : Valid s) (kept : Keeps Server.scenery handler)
    (common : signal ∈ [Signal.map,.unmap,.destroy,.requestMove,.requestResize]) :
    Simulates Ledger.server (emit id signal (onServer handler) fun _ => pure ()) (callback (listened id handler)) s
      (fun _ t => Kept t) Kept := by
  apply simulates_mono (emit_simulates valid common _ fun _ _ _ _ => rfl) (fun _ _ holds => holds.tracked)
    fun _ holds => holds.tracked
  intro _
  exact scenery_simulates kept valid

theorem newToplevel_simulates {answers : Answers} (valid : Valid s)
    (unborn : (s.server.surfaces id).life = .unborn) :
    Simulates Ledger.server (perform ⟨.newXdgSurface answers id,order⟩)
      (Tinyjl.perform (.newXdgSurface answers id)) s (fun _ t => Kept t) Kept := by
  have blank : s.server.surfaces id = ⟨.unborn,false,false,false,false,none,none,none⟩ :=
    valid.sound.lives.unborn id unborn
  have owns : ∀ owner,
      Owns (s.server.setSurface id Surface.waking).surfaces owner ↔ Owns s.server.surfaces owner :=
    fun owner => owns_same (ownership_marked rfl rfl rfl) owner
  apply simulates_bind
  refine simulates_on (fun _ _ => rfl) ?_
  apply simulates_more
  refine simulates_on (fun _ _ => rfl) ?_
  apply newSurface_ensures
  · exact tracked_same valid.tracked owns
  · refine ⟨_,rfl,rfl,?_⟩
    apply tracked_joined valid.tracked
    · simp [Owns,blank]
    · rintro (other | other | ⟨other,tree⟩)
      all_goals
        by_cases same : other = id
        · subst same
          simp [Owns,Server.toplevel,Server.setSurface,Server.setTable,Server.setTree,Server.grown,
            Surface.waking,blank]
        · simp [Owns,Server.toplevel,Server.setSurface,Server.setTable,Server.setTree,Server.grown,same]

theorem newXwayland_simulates (valid : Valid s) (unborn : (s.server.surfaces id).life = .unborn) :
    Simulates Ledger.server (perform ⟨.newXwaylandSurface id wantsFocus,order⟩)
      (Tinyjl.perform (.newXwaylandSurface id wantsFocus)) s (fun _ t => Kept t) Kept := by
  have blank : s.server.surfaces id = ⟨.unborn,false,false,false,false,none,none,none⟩ :=
    valid.sound.lives.unborn id unborn
  apply simulates_bind
  refine simulates_on (fun _ _ => rfl) ?_
  apply simulates_more
  refine simulates_on (fun _ _ => rfl) ?_
  apply ensures_bind
  apply ensures_modify
  apply ensures_modify
  refine ⟨_,rfl,rfl,?_⟩
  apply tracked_joined valid.tracked
  · simp [Owns,blank]
  · rintro (other | other | ⟨other,tree⟩)
    all_goals
      by_cases same : other = id
      · subst same
        simp [Owns,Server.setSurface,Server.setTable,blank]
      · simp [Owns,Server.setSurface,Server.setTable,same]

-- What an event does to the server is what it does there without the listeners, and
-- the listeners that are linked stay those of the owners.
theorem perform_simulates (valid : Valid s) (turn : Turn) (admitted : admits s.server turn.event = true) : ∃ small,
    leaves (small s.server) = leaves (Tinyjl.perform turn.event s.server) ∧
      Simulates Ledger.server (perform turn) small s (fun _ t => Kept t) Kept := by
  obtain ⟨event,order⟩ := turn
  have plain : ∀ {act : Act Server Unit}, Keeps ownership act →
      Simulates Ledger.server (onServer act) act s (fun _ t => Kept t) Kept :=
    fun kept => kept_ownership kept valid.tracked
  have quiet : ∀ {act : Act Server Unit}, Keeps Server.scenery act → Keeps ownership act := fun kept =>
    keeps_view kept fun c id => ((c.surfaces id).bound,(c.surfaces id).xwayland,(c.surfaces id).sceneXwSurface)
  cases event with
  | newXdgSurface answers id => exact ⟨_,rfl,newToplevel_simulates valid (of_decide_eq_true admitted)⟩
  | newXwaylandSurface id wantsFocus => exact ⟨_,rfl,newXwayland_simulates valid (of_decide_eq_true admitted)⟩
  | setParent id parent => exact ⟨_,rfl,plain (keeps_modify fun _ => ownership_marked rfl rfl rfl)⟩
  | setWantsFocus id wantsFocus => exact ⟨_,rfl,plain (keeps_modify fun _ => ownership_marked rfl rfl rfl)⟩
  | map answers id =>
      simp only [admits,Bool.and_eq_true,decide_eq_true_eq] at admitted
      exact ⟨_,leaves_callback _ _ _,mapEvent_simulates valid admitted.1⟩
  | unmap answers id =>
      simp only [admits,Bool.and_eq_true,decide_eq_true_eq] at admitted
      exact ⟨_,leaves_callback _ _ _,unmapEvent_simulates valid admitted.1⟩
  | destroy id =>
      refine ⟨_,rfl,?_⟩
      have destroyed := destroy_simulates id order valid.tracked valid.sound.built
      exact simulates_mono destroyed (fun _ _ kept => kept) fun _ => False.elim
  | requestMove answers id serial =>
      refine ⟨_,leaves_called _ _,request_simulates valid ?_ (by simp)⟩
      exact keeps_view (byKind_keeps handleXdgToplevelRequest_keeps handleXwaylandSurfaceRequest_keeps) Prod.fst
  | requestResize answers id serial edges =>
      refine ⟨_,leaves_called _ _,request_simulates valid ?_ (by simp)⟩
      exact keeps_view (byKind_keeps handleXdgToplevelRequest_keeps handleXwaylandSurfaceRequest_keeps) Prod.fst
  | cursorMotion answers x y => exact ⟨_,rfl,plain (quiet (quiet_keeps rfl))⟩
  | cursorButton answers button state => exact ⟨_,rfl,plain (quiet (quiet_keeps rfl))⟩
  | keyF1 answers => exact ⟨_,rfl,plain (quiet (quiet_keeps rfl))⟩
  | modifiers => exact ⟨_,rfl,plain (quiet (quiet_keeps rfl))⟩
  | keyboardFocus surface => exact ⟨_,rfl,plain (quiet (quiet_keeps rfl))⟩

theorem step_follows (valid : Valid s) (turn : Turn) :
    (step s turn).map Ledger.server = Tinyjl.step s.server turn.event ∧ ∀ t, step s turn = some t → Valid t := by
  cases admitted : admits s.server turn.event with
  | false => simp [step,Tinyjl.step,admitted]
  | true =>
      obtain ⟨small,left,simulates⟩ := perform_simulates valid turn admitted
      obtain ⟨same,kept⟩ := simulates_leaves simulates
      have base : Tinyjl.step s.server turn.event = leaves (Tinyjl.perform turn.event s.server) := by
        rw [Tinyjl.step,if_pos admitted]
        rcases Tinyjl.perform turn.event s.server with ⟨_ | _ | _,t⟩ <;> rfl
      have large : step s turn = leaves (perform turn s) := if_pos admitted
      have onward : (step s turn).map Ledger.server = Tinyjl.step s.server turn.event := by
        rw [large,base,← left,same]
      refine ⟨onward,fun t accepted => ⟨kept t (large ▸ accepted),?_⟩⟩
      rw [accepted] at onward
      exact sound_preserved valid.sound onward.symm

theorem start_valid : Valid start where
  tracked := by
    refine ⟨[],⟨List.nodup_nil,List.Perm.refl _⟩,?_⟩
    rintro (id | id | ⟨id,tree⟩) <;> simp [Owns,start,Tinyjl.start]
  sound := start_sound

end

end Janetland.Tinyjl.Listeners
