import Janetland.Tinyjl.Frames

namespace Janetland.Tinyjl
open Act

namespace Server

-- The listeners of a scene-xw-surface are bound.
def listening (s : Server) (view tree : Nat) : Server :=
  s.setSurface view fun surface => { surface with sceneXwSurface := some tree }

-- A view has its trees, and surface and tree point to each other.
def attached (s : Server) (view tree surfaceTree : Nat) : Server :=
  (((s.setTable view fun table => { table with sceneTree := some tree }).setTable view
    fun table => { table with surfaceTree := some surfaceTree }).setSurface view
    fun surface => { surface with data := some tree }).setTree tree fun node => { node with data := some view }

end Server

variable {s : Server} {answers : Answers}

theorem reach_ensures {returned : Unit → Server → Prop} (holds : (s.trees tree).alive = true → returned () s) :
    Ensures (reach tree) s returned raised := by
  apply ensures_look
  · intro value reached
    split at reached
    · rename_i alive
      exact holds alive
    · simp at reached
  · intro error reached
    split at reached <;> simp at reached

theorem subsurface_ensures {returned : Nat → Server → Prop}
    (failed : answers.subsurfaceTreeCreated = false → raised s)
    (made : answers.subsurfaceTreeCreated = true → (s.trees parent).alive = true →
      returned s.nextTree (s.grown parent (some surface))) :
    Ensures (wlrSceneSubsurfaceTreeCreate answers parent surface) s returned raised := by
  apply ensures_bind
  apply reach_ensures
  intro alive
  cases created : answers.subsurfaceTreeCreated with
  | true => exact made created alive
  | false => exact failed created

theorem sceneTree_ensures {returned : Nat → Server → Prop}
    (failed : answers.treeCreated = false → raised s)
    (made : answers.treeCreated = true → (s.trees parent).alive = true → returned s.nextTree (s.grown parent none)) :
    Ensures (wlrSceneTreeCreate answers parent) s returned raised := by
  apply ensures_bind
  apply reach_ensures
  intro alive
  cases created : answers.treeCreated with
  | true => exact made created alive
  | false => exact failed created

theorem parent_found (found : parentTreeOf view s = .ok parent) :
    mapRaises answers view s = ((s.surfaces view).data.isNone && !answers.treeCreated ||
      !answers.subsurfaceTreeCreated) := by
  unfold parentTreeOf at found
  unfold mapRaises
  cases link : (s.surfaces view).parent with
  | none => simp
  | some xwParent =>
      cases cached : (s.surfaces xwParent).data with
      | none => simp [link,cached,nilArgument,panicf] at found
      | some tree => simp [cached]

theorem parent_missing (missing : parentTreeOf view s = .panic error) : mapRaises answers view s = true := by
  unfold parentTreeOf at missing
  unfold mapRaises
  cases link : (s.surfaces view).parent with
  | none => simp [link] at missing
  | some xwParent =>
      cases cached : (s.surfaces xwParent).data with
      | none => simp [cached]
      | some tree => simp [link,cached] at missing

-- How a map handler leaves the scene: unchanged or with an unused tree when it raises,
-- else with a tree that was used before or with a new one.
theorem putIntoScene_ensures {returned : Unit → Server → Prop} {raised : Server → Prop}
    (refused : mapRaises answers view s = true → raised s)
    (leaked : mapRaises answers view s = true → ∀ parent, parentTreeOf view s = .ok parent →
      (s.surfaces view).data = none → raised (s.grown parent none))
    (reused : mapRaises answers view s = false → ∀ tree, (s.surfaces view).data = some tree →
      (s.trees tree).alive = true → returned () ((s.grown tree (some view)).attached view tree s.nextTree))
    (made : mapRaises answers view s = false → ∀ parent, parentTreeOf view s = .ok parent →
      (s.surfaces view).data = none → (s.trees parent).alive = true →
      returned () ((((s.grown parent none).grown s.nextTree (some view)).listening view s.nextTree).attached view
        s.nextTree (s.nextTree + 1))) :
    Ensures (putIntoScene answers view) s returned raised := by
  apply ensures_bind
  apply ensures_look
  · intro parent found
    have raises : mapRaises answers view s = ((s.surfaces view).data.isNone && !answers.treeCreated ||
        !answers.subsurfaceTreeCreated) := parent_found found
    apply ensures_bind
    apply ensures_bind
    apply ensures_read
    cases cached : (s.surfaces view).data with
    | none =>
        rw [cached] at raises
        apply ensures_bind
        apply sceneTree_ensures
        · intro failed
          exact refused (by simp [raises,failed])
        · intro created alive
          apply ensures_bind
          apply subsurface_ensures
          · intro failed
            exact leaked (by simp [raises,failed]) parent found cached
          · intro subsurfaceCreated _
            exact made (by simp [raises,created,subsurfaceCreated]) parent found cached alive
    | some tree =>
        rw [cached] at raises
        apply ensures_bind
        apply ensures_pure
        apply ensures_bind
        apply subsurface_ensures
        · intro failed
          exact refused (by simp [raises,failed])
        · intro created alive
          exact reused (by simp [raises,created]) tree cached alive
  · intro error missing
    exact refused (parent_missing missing)

theorem when_ensures {act : Act Server Unit} {returned : Unit → Server → Prop}
    (taken : condition = true → Ensures act s returned raised) (skipped : condition = false → returned () s) :
    Ensures (when condition act) s returned raised := by
  cases condition with
  | true => exact taken rfl
  | false => exact skipped rfl

theorem listened_ensures {act : Act Server Unit} {returned : Unit → Server → Prop}
    (taken : (s.surfaces view).bound = true → Ensures act s returned raised)
    (skipped : (s.surfaces view).bound = false → returned () s) :
    Ensures (listened view act) s returned raised := by
  apply ensures_bind
  apply ensures_read
  exact when_ensures taken skipped

def Server.pushed (s : Server) (view : Nat) : Server := { s with views := s.views ++ [view] }

theorem surfaceMap_ensures {returned : Unit → Server → Prop}
    (put : (s.surfaces view).xwayland = true → Ensures (putIntoScene answers view) (s.pushed view)
      (fun _ t => Ensures (focusMapped answers view) t returned raised) raised)
    (plain : (s.surfaces view).xwayland = false →
      Ensures (focusMapped answers view) (s.pushed view) returned raised) :
    Ensures (handleSurfaceMap answers view) s returned raised := by
  apply ensures_bind
  apply ensures_modify
  apply ensures_bind
  apply ensures_read
  apply ensures_bind
  exact when_ensures put plain

end Janetland.Tinyjl
