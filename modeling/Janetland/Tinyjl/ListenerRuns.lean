import Janetland.Tinyjl.ListenerSteps

namespace Janetland.Tinyjl.Listeners
open Act

-- Only a living surface has listeners about it.
def Attentive (surfaces : Nat → Surface) : Prop := ∀ id,
  (surfaces id).bound = true ∨ (surfaces id).sceneXwSurface.isSome = true → (surfaces id).life = .alive

section
variable {c d : Server.Scenery} {id : Nat} {change : Surface → Surface}

theorem Attentive.mark (valid : Attentive c.surfaces) (alive : (change (c.surfaces id)).life = .alive) :
    Attentive (c.mark id change).surfaces := by
  intro other held
  by_cases same : other = id
  · subst same
    rw [marked_self]
    exact alive
  · rw [marked_other same] at held ⊢
    exact valid other held

theorem Attentive.adopt (valid : Attentive c.surfaces) (alive : (c.surfaces id).life = .alive) :
    Attentive (c.adopt id parent).surfaces := by
  change Attentive (c.mark id fun surface => { surface with
    data := some c.nextTree
    sceneXwSurface := if surface.xwayland then some c.nextTree else surface.sceneXwSurface }).surfaces
  exact valid.mark alive

theorem Attentive.destroy (valid : Attentive c.surfaces) (built : Built c) :
    Attentive (c.destroyed id).surfaces := by
  intro other held
  by_cases same : other = id
  · subst same
    exfalso
    simp only [Server.Scenery.destroyed,ne_eq,not_true,decide_false,Bool.false_and,Bool.false_eq_true,false_or,
      Option.isSome_iff_exists,Option.filter_eq_some_iff] at held
    obtain ⟨tree,bound,survives⟩ := held
    have bindings := built.bindings other
    cases kind : (c.surfaces other).xwayland with
    | false => simp [kind,bound] at bindings
    | true =>
        have dies : c.dies other tree = true := by
          simp [Server.Scenery.dies,Server.Scenery.ownTree,kind,bound,Forest.inside_self]
        simp [dies] at survives
  · have before : (c.surfaces other).bound = true ∨ (c.surfaces other).sceneXwSurface.isSome = true := by
      refine held.imp ?_ ?_
      · intro bound
        exact (Bool.and_eq_true_iff.mp bound).2
      · exact Option.isSome_of_isSome_filter _ _
    simp only [Server.Scenery.destroyed,if_neg same]
    exact valid other before

theorem attentive_preserved (built : Built c) (valid : Attentive c.surfaces) (moved : SceneStep c event d) :
    Attentive d.surfaces := by
  cases moved with
  | refused unborn => exact valid.mark rfl
  | @shown view answers unborn =>
      have woken : Attentive (c.mark view Surface.waking).surfaces := valid.mark rfl
      have alive : ((c.mark view Surface.waking).surfaces view).life = .alive := by
        rw [marked_self]
        rfl
      apply (woken.adopt alive).mark
      rw [adopted_self]
      exact alive
  | born unborn => exact valid.mark rfl
  | linked live alive => exact valid.mark alive
  | hinted alive => exact valid.mark alive
  | unmapped alive => exact valid.mark alive
  | mapped alive => exact valid.mark alive
  | leaked alive host hollow => exact valid.mark alive
  | reused alive bound xwayland cached => exact valid.mark alive
  | @made view parent answers alive bound xwayland host hollow uncached =>
      have marked : Attentive (c.mark view Surface.mapping).surfaces := valid.mark alive
      have adopted : Attentive ((c.mark view Surface.mapping).adopt view parent).surfaces :=
        marked.adopt (by rw [marked_self]; exact alive)
      exact adopted
  | destroyed alive hidden => exact valid.destroy built
  | still quiet => exact valid

end

-- The object whose signal a listener is linked into is still there.
def Standing (s : Server) : Owner × Signal → Prop
  | (.scene _ tree,.nodeDestroy) => (s.trees tree).alive = true
  | (.toplevel id,_) | (.xwayland id,_) | (.scene id _,_) => (s.surfaces id).life = .alive

theorem standing {s : Ledger} (valid : Valid s) (attentive : Attentive s.server.surfaces) (entry : Owner × Signal)
    (linked : entry ∈ s.listeners) : Standing s.server entry := by
  obtain ⟨owner,signal⟩ := entry
  have owns := ((tracked_member valid.tracked).mp linked).1
  cases owner with
  | toplevel id => exact attentive id (.inl owns.1)
  | xwayland id => exact attentive id (.inl owns.1)
  | scene id tree =>
      have living : (s.server.surfaces id).life = .alive := attentive id (.inr (Option.isSome_of_eq_some owns))
      cases signal with
      | nodeDestroy => exact scene_alive valid linked
      | _ => exact living

theorem run_valid (turns : List Turn) :
    ∀ s ∈ EventRuns.visited step start turns, Valid s ∧ Attentive s.server.surfaces := by
  apply EventRuns.visited_invariant fun s : Ledger => Valid s ∧ Attentive s.server.surfaces
  · rintro s turn t ⟨valid,attentive⟩ accepted
    obtain ⟨same,kept⟩ := step_follows valid turn
    rw [accepted] at same
    have moved := step_scene valid.sound same.symm
    exact ⟨kept t accepted,attentive_preserved valid.sound.built attentive moved⟩
  · refine ⟨start_valid,fun id held => ?_⟩
    simp [start,Tinyjl.start] at held

structure ListenersLaw (turns : List Turn) : Prop where
  -- the server runs as it does by the flags, so no removal is ever undefined
  follows : (EventRuns.visited step start turns).map Ledger.server =
    EventRuns.visited Tinyjl.step Tinyjl.start (turns.map Turn.event)
  exact : ∀ s ∈ EventRuns.visited step start turns, s.listeners.Nodup ∧ ∀ owner signal,
    (owner,signal) ∈ s.listeners ↔ Owns s.server.surfaces owner ∧ signal ∈ added owner
  standing : ∀ s ∈ EventRuns.visited step start turns, ∀ entry ∈ s.listeners, Standing s.server entry

theorem listeners_exact (turns : List Turn) : ListenersLaw turns where
  follows := EventRuns.visited_projected Ledger.server Turn.event Valid
    (fun _ turn valid => step_follows valid turn) start_valid
  exact s member := by
    have tracked := (run_valid turns s member).1.tracked
    refine ⟨?_,fun _ _ => tracked_member tracked⟩
    obtain ⟨_,booked,_⟩ := tracked
    exact booked_nodup booked
  standing s member := standing (run_valid turns s member).1 (run_valid turns s member).2

-- The trees of two X11 windows, one below the other, go with the window on the bottom.
def windows : List Turn := ([.newXwaylandSurface 0 true,.map granted 0,.newXwaylandSurface 1 true,
  .setParent 1 (some 0),.map granted 1,.unmap granted 0,.destroy 0] : List Event).map (⟨·,.topmost⟩)

example : (EventRuns.visited step start windows).map (·.listeners.length) = [0,11,15,26,26,30,30,11] := by
  decide +kernel

end Janetland.Tinyjl.Listeners
