import Janetland.Tinyjl.SceneSteps

namespace Janetland.Tinyjl
open Act EventRuns
open Server (Scenery)

-- What the pointer is doing, apart from how the server table records it.
inductive Interaction where
  | idle
  | moving (view : Nat)
  | resizing (view : Nat) (geobox : Box) (edges : List String)
deriving DecidableEq

def Interaction.view : Interaction → Option Nat
  | .idle => none
  | .moving view => some view
  | .resizing view _ _ => some view

def geometryOf (answers : Answers) (s : Server) (view : Nat) : Box :=
  if (s.surfaces view).xwayland then ⟨0,0,answers.geometry.width,answers.geometry.height⟩ else answers.geometry

-- The box that a view covers at this moment.
def boxOf (answers : Answers) (s : Server) (view : Nat) : Box :=
  { geometryOf answers s view with
    x := (geometryOf answers s view).x + (s.tables view).x
    y := (geometryOf answers s view).y + (s.tables view).y }

-- An interaction begins on the view that has the pointer focus.
def begun (answers : Answers) (s : Server) (view : Nat) (mode : CursorMode) (edges : List String)
    (before : Interaction) : Interaction :=
  if answers.pointerFocus.map answers.rootSurface = some (ownSurface s view) then match mode with
    | .passthrough => before
    | .move => .moving view
    | .resize => .resizing view (boxOf answers s view) edges
  else before

def viewUnder (answers : Answers) (s : Server) : Option Nat :=
  answers.nodeAt.bind fun node => Forest.climb s.parentTree (fun tree => (s.trees tree).data) node.1

-- A client asks for an interaction while it is mapped, and a toplevel with its last button press.
def requestable (s : Server) (view : Nat) (serial : BitVec 32) : Bool := (s.surfaces view).bound &&
  if (s.surfaces view).xwayland then (s.surfaces view).mapped
  else decide (s.lastButtonEvent = some (serial,.pressed))

def interaction (s : Server) (before : Interaction) : Event → Interaction
  | .requestMove answers id serial => if requestable s id serial then begun answers s id .move [] before else before
  | .requestResize answers id serial edges =>
    if requestable s id serial then begun answers s id .resize edges before else before
  | .cursorButton _ _ .released => .idle
  | .cursorButton answers button .pressed => match answers.alt,viewUnder answers s with
    | true,some view =>
      if button = 272 then begun answers s view .move [] before
      else if button = 273 then begun answers s view .resize ["right","bottom"] before
      else before
    | _,_ => before
  | .unmap _ id => if before.view = some id then .idle else before
  | _ => before

-- How the six fields of the server table record an interaction.
def Represents (fields : Server.Grab) : Interaction → Prop
  | .idle => fields.cursorMode = .passthrough ∧ fields.grabbedView = none
  | .moving view => fields.cursorMode = .move ∧ fields.grabbedView = some view ∧ fields.grabX.isSome = true ∧
      fields.grabY.isSome = true
  | .resizing view geobox edges => fields.cursorMode = .resize ∧ fields.grabbedView = some view ∧
      fields.grabX.isSome = true ∧ fields.grabY.isSome = true ∧ fields.grabGeobox = some geobox ∧
      fields.resizeEdges = some edges

-- What wlroots promises: coordinates stay in the 32-bit range, toplevels ask while they
-- are mapped, and the buffer under the cursor is of a mapped surface.
def inRange (answers : Answers) (s : Server) (view : Nat) : Bool :=
  fitsInt32 (boxOf answers s view).x && fitsInt32 (boxOf answers s view).y

def overMapped (answers : Answers) (s : Server) : Bool := answers.nodeAt.all fun node =>
  (s.trees node.1).content.any fun id => (s.surfaces id).mapped

def promised (s : Server) : Event → Bool
  | .requestMove _ id _ => (s.surfaces id).xwayland || (s.surfaces id).mapped
  | .requestResize answers id _ _ => ((s.surfaces id).xwayland || (s.surfaces id).mapped) && inRange answers s id
  | .cursorButton answers _ _ => overMapped answers s && (viewUnder answers s).all (inRange answers s)
  | _ => true

section
variable {s t : Server} {answers : Answers} {view : Nat} {before : Interaction}

theorem boxPut_fits (fits : fitsInt32 value = true) : boxPut value = .ok value := if_pos fits

theorem geometry_found (mapped : (s.surfaces view).mapped = true) (same : t.surfaces = s.surfaces) :
    getGeometryFromView answers view t = .ok (geometryOf answers s view) := by
  have own : ownSurface t view = some (.main view) := by simp [ownSurface,same,mapped]
  unfold getGeometryFromView geometryOf
  rw [own,same]
  split <;> rfl

-- begin-interactive keeps what was recorded, or reaches the puts of its mode.
theorem begin_ensures {holds : Server → Prop}
    (kept : answers.pointerFocus.map answers.rootSurface ≠ some (ownSurface s view) → holds s)
    (puts : answers.pointerFocus.map answers.rootSurface = some (ownSurface s view) →
      Ensures (recordGrab answers view edges mode) { s with grabbedView := some view, cursorMode := mode }
        (fun _ t => holds t) holds) :
    Ensures (beginInteractive answers (some view) mode edges) s (fun _ t => holds t) holds := by
  apply ensures_bind
  apply ensures_pure
  apply ensures_bind
  apply ensures_read
  apply ensures_bind
  cases focus : answers.pointerFocus with
  | none => exact kept (by simp [focus])
  | some focused =>
      apply ensures_pure
      split
      · rename_i apart
        apply kept
        rw [focus]
        exact fun same => apart (Option.some.inj same).symm
      · rename_i matched
        apply ensures_bind
        apply ensures_modify
        apply ensures_bind
        apply ensures_modify
        apply puts
        rw [focus,not_not.mp matched]
        rfl

-- On a mapped view with coordinates in range the puts do not raise.
theorem begin_represents (mapped : (s.surfaces view).mapped = true)
    (range : mode = .resize → inRange answers s view = true) (shown : Represents s.grab before)
    (interactive : mode ≠ .passthrough) :
    Ensures (beginInteractive answers (some view) mode edges) s
      (fun _ t => Represents t.grab (begun answers s view mode edges before))
      fun t => Represents t.grab (begun answers s view mode edges before) := by
  apply begin_ensures
  · intro apart
    unfold begun
    rw [if_neg apart]
    exact shown
  · intro matched
    unfold begun
    rw [if_pos matched]
    cases mode with
    | passthrough => exact absurd rfl interactive
    | move =>
        apply ensures_bind
        apply ensures_modify
        apply ensures_modify
        exact ⟨rfl,rfl,rfl,rfl⟩
    | resize =>
        have fits := range rfl
        simp only [inRange,Bool.and_eq_true] at fits
        apply ensures_bind
        apply ensures_found
        · exact geometry_found mapped rfl
        apply ensures_bind
        apply ensures_modify
        apply ensures_bind
        apply ensures_modify
        apply ensures_bind
        apply ensures_found
        · exact boxPut_fits fits.1
        apply ensures_bind
        apply ensures_found
        · exact boxPut_fits fits.2
        apply ensures_bind
        apply ensures_modify
        apply ensures_modify
        exact ⟨rfl,rfl,rfl,rfl,rfl,rfl⟩

theorem request_represents (interactive : mode ≠ .passthrough) (shown : Represents s.grab before)
    (mapped : (s.surfaces view).xwayland = true ∨ (s.surfaces view).mapped = true)
    (range : mode = .resize → inRange answers s view = true) :
    Ensures (listened view (byKind view (handleXdgToplevelRequest mode answers view serial edges)
        (handleXwaylandSurfaceRequest mode answers view edges))) s
      (fun _ t => Represents t.grab
        (if requestable s view serial then begun answers s view mode edges before else before))
      fun t => Represents t.grab
        (if requestable s view serial then begun answers s view mode edges before else before) := by
  apply listened_ensures
  · intro bound
    apply ensures_bind
    apply ensures_read
    cases kind : (s.surfaces view).xwayland with
    | true =>
        have asked : requestable s view serial = (s.surfaces view).mapped := by simp [requestable,bound,kind]
        rw [asked]
        apply ensures_bind
        apply ensures_read
        apply when_ensures
        · intro mapped
          rw [if_pos mapped]
          exact begin_represents mapped range shown interactive
        · intro hidden
          rw [hidden]
          exact shown
    | false =>
        have visible : (s.surfaces view).mapped = true := by simpa [kind] using mapped
        have asked : requestable s view serial = decide (s.lastButtonEvent = some (serial,.pressed)) := by
          simp [requestable,bound,kind]
        rw [asked]
        apply ensures_bind
        apply ensures_read
        cases last : s.lastButtonEvent with
        | none => exact shown
        | some pair =>
            apply when_ensures
            · intro matched
              simp only [Bool.and_eq_true,decide_eq_true_eq] at matched
              have same : some pair = some (serial,ButtonState.pressed) := by
                rw [← matched.1,← matched.2]
              rw [if_pos (decide_eq_true same)]
              exact begin_represents visible range shown interactive
            · intro apart
              have different : some pair ≠ some (serial,ButtonState.pressed) := by
                intro same
                obtain rfl := Option.some.inj same
                simp at apart
              rw [if_neg (by simpa using different)]
              exact shown
  · intro unbound
    have refused : requestable s view serial = false := by simp [requestable,unbound]
    rw [refused]
    exact shown

theorem desktopViewAt_ensures {returned : Option (Nat × WlSurface) → Server → Prop}
    (absent : viewUnder answers s = none → returned none s) (lost : viewUnder answers s = none → raised s)
    (found : ∀ view surface, viewUnder answers s = some view → returned (some (view,surface)) s) :
    Ensures (desktopViewAt answers) s returned raised := by
  unfold desktopViewAt
  cases placed : answers.nodeAt with
  | none => exact absent (by simp [viewUnder,placed])
  | some node =>
      have under : viewUnder answers s =
          Forest.climb s.parentTree (fun tree => (s.trees tree).data) node.1 := by simp [viewUnder,placed]
      apply ensures_bind
      apply reach_ensures
      intro _
      apply ensures_bind
      apply ensures_look
      · intro view climbed
        cases top : Forest.climb s.parentTree (fun tree => (s.trees tree).data) node.1 with
        | none => simp [top,needed,panicf] at climbed
        | some other =>
            rw [top] at climbed
            obtain rfl := Res.ok.inj climbed
            exact found _ _ (under.trans top)
      · intro error missed
        cases top : Forest.climb s.parentTree (fun tree => (s.trees tree).data) node.1 with
        | none => exact lost (under.trans top)
        | some other => simp [top,needed] at missed

-- The view found from a buffer is the one whose surface it shows.
theorem under_mapped (valid : Built s.scenery) (showing : overMapped answers s = true)
    (under : viewUnder answers s = some view) :
    (s.surfaces view).mapped = true ∧ ∃ tree, (s.trees tree).content = some view := by
  unfold overMapped at showing
  unfold viewUnder at under
  cases placed : answers.nodeAt with
  | none => simp [placed] at under
  | some node =>
      rw [placed] at showing under
      cases content : (s.trees node.1).content with
      | none => simp [content] at showing
      | some id =>
          have climbed : Forest.climb s.parentTree (fun tree => (s.trees tree).data) node.1 = some id := by
            rcases valid.shown node.1 id content with own | ⟨blank,host,edge,found⟩
            · exact Forest.climb_marked own
            · have up : Forest.climb s.parentTree (fun tree => (s.trees tree).data) node.1 =
                  Forest.climb s.parentTree (fun tree => (s.trees tree).data) host :=
                Forest.climb_parent valid.grown blank edge
              rw [up]
              exact Forest.climb_marked found
          have same : view = id := Option.some.inj (under.symm.trans climbed)
          subst same
          simp only [Option.all_some,content,Option.any_some] at showing
          exact ⟨showing,node.1,content⟩

theorem button_represents (valid : Built s.scenery) (shown : Represents s.grab before)
    (kept : promised s (.cursorButton answers button state) = true) :
    Ensures (handleCursorButton answers button state) s
      (fun _ t => Represents t.grab (interaction s before (.cursorButton answers button state)))
      fun t => Represents t.grab (interaction s before (.cursorButton answers button state)) := by
  simp only [promised,Bool.and_eq_true] at kept
  unfold handleCursorButton
  cases alt : answers.alt with
  | true =>
      cases state with
      | released => exact ⟨rfl,rfl⟩
      | pressed =>
          have missed : viewUnder answers s = none →
              interaction s before (.cursorButton answers button .pressed) = before := by
            intro under
            simp [interaction,under]
          have nothing : ∀ mode edges, Ensures (beginInteractive answers none mode edges) s
              (fun _ t => Represents t.grab before) fun t => Represents t.grab before :=
            fun mode edges => shown
          apply ensures_bind
          apply desktopViewAt_ensures
          · intro under
            rw [missed under]
            split
            · exact nothing _ _
            · split
              · exact nothing _ _
              · exact shown
          · intro under
            rw [missed under]
            exact shown
          · intro view surface under
            obtain ⟨mapped,_⟩ := under_mapped valid kept.1 under
            have range : inRange answers s view = true := by simpa [under] using kept.2
            simp only [interaction,alt,under]
            split
            · exact begin_represents mapped (fun _ => range) shown (by simp)
            · split
              · exact begin_represents mapped (fun _ => range) shown (by simp)
              · exact shown
  | false =>
      cases state with
      | released => exact ⟨rfl,rfl⟩
      | pressed =>
          have same : interaction s before (.cursorButton answers button .pressed) = before := by
            simp [interaction,alt]
          rw [same]
          have rest : Keeps Server.grab (focusViewAt answers) := keeps_view focusViewAt_keeps Prod.snd
          apply ensures_bind
          apply ensures_modify
          exact ensures_kept (fun fields => Represents fields before) rest shown

theorem represents_view (shown : Represents s.grab before) : s.grabbedView = before.view := by
  cases before with
  | idle => exact shown.2
  | moving view => exact shown.2.1
  | resizing view geobox edges => exact shown.2.1

theorem unmap_represents (shown : Represents s.grab before)
    (bound : ∀ view, before.view = some view → (s.surfaces view).bound = true) :
    Ensures (perform (.unmap answers view)) s
      (fun _ t => Represents t.grab (interaction s before (.unmap answers view)))
      fun t => Represents t.grab (interaction s before (.unmap answers view)) := by
  have grabbed := represents_view shown
  have rest : Keeps Server.grab (focusLastView answers) := keeps_view focusLastView_keeps Prod.snd
  apply ensures_bind
  apply ensures_modify
  apply listened_ensures
  · intro _
    apply ensures_bind
    apply ensures_read
    apply ensures_bind
    apply when_ensures
    · intro matched
      have same : before.view = some view := grabbed ▸ of_decide_eq_true matched
      simp only [interaction,if_pos same]
      apply ensures_bind
      apply ensures_modify
      apply ensures_modify
      apply ensures_bind
      apply ensures_modify
      exact ensures_kept (fun fields => Represents fields .idle) rest ⟨rfl,rfl⟩
    · intro apart
      have other : before.view ≠ some view := by
        rw [← grabbed]
        exact of_decide_eq_false apart
      simp only [interaction,if_neg other]
      apply ensures_bind
      apply ensures_modify
      exact ensures_kept (fun fields => Represents fields before) rest shown
  · intro unbound
    have other : before.view ≠ some view := by
      intro same
      have listening := bound view same
      simp [Server.setSurface,listening] at unbound
    simp only [interaction,if_neg other]
    exact shown

theorem putIntoScene_grab : Keeps Server.grab (putIntoScene answers view) := by
  have grown : ∀ parent content, Keeps Server.grab (grow parent content) := fun _ _ _ => rfl
  have tree : ∀ parent data, Keeps Server.grab (treeOf answers parent data) := by
    intro parent data
    cases data with
    | some tree => exact keeps_pure tree
    | none =>
        apply keeps_bind reach_keeps
        intro _
        split
        · exact grown _ _
        · exact keeps_lift _
  apply keeps_bind (keeps_look _)
  intro parentTree
  apply keeps_bind
  · apply keeps_bind (keeps_read _)
    intro data
    apply keeps_bind (tree _ _)
    intro tree
    apply keeps_bind
    · apply keeps_bind reach_keeps
      intro _
      split
      · exact grown _ _
      · exact keeps_lift _
    intro surfaceTree
    refine keeps_bind (keeps_when (keeps_modify fun _ => rfl)) fun _ => ?_
    exact keeps_pure _
  intro made
  refine keeps_bind (keeps_modify fun _ => rfl) fun _ => ?_
  refine keeps_bind (keeps_modify fun _ => rfl) fun _ => ?_
  refine keeps_bind (keeps_modify fun _ => rfl) fun _ => ?_
  exact keeps_modify fun _ => rfl

theorem handleSurfaceMap_grab : Keeps Server.grab (handleSurfaceMap answers view) := by
  refine keeps_bind (keeps_modify fun _ => rfl) fun _ => ?_
  apply keeps_bind (keeps_read _)
  intro xwayland
  apply keeps_bind (keeps_when putIntoScene_grab)
  intro _
  exact keeps_view focusMapped_keeps Prod.snd

-- Each handler keeps the six fields in line with the interaction.
theorem step_represents (valid : Sound s.scenery) (shown : Represents s.grab before)
    (bound : ∀ view, before.view = some view → (s.surfaces view).bound = true)
    (kept : promised s event = true) (accepted : step s event = some t) :
    Represents t.grab (interaction s before event) := by
  apply step_ensures accepted
  intro _
  cases event with
  | unmap answers view => exact unmap_represents shown bound
  | cursorButton answers button state => exact button_represents valid.built shown kept
  | requestMove answers view serial =>
      apply request_represents (by simp) shown
      · simpa [promised] using kept
      · simp
  | requestResize answers view serial edges =>
      simp only [promised,Bool.and_eq_true,Bool.or_eq_true] at kept
      exact request_represents (by simp) shown kept.1 fun _ => kept.2
  | map answers view =>
      apply ensures_kept (fun fields => Represents fields before) _ shown
      refine keeps_bind (keeps_modify fun _ => rfl) fun _ => ?_
      exact listened_keeps handleSurfaceMap_grab
  | newXdgSurface answers view =>
      apply ensures_bind
      apply ensures_modify
      apply newSurface_ensures
      · exact shown
      · exact shown
  | destroy view =>
      apply destroySurface_ensures
      intro u _ _ same
      rw [same]
      exact shown
  | cursorMotion answers x y =>
      exact ensures_kept (fun fields => Represents fields before)
        (keeps_view handleCursorMotion_keeps fun all => all.2.2) shown
  | keyF1 answers =>
      exact ensures_kept (fun fields => Represents fields before) (keeps_view focusNextView_keeps Prod.snd) shown
  | newXwaylandSurface view wantsFocus => exact shown
  | setParent view parent => exact shown
  | setWantsFocus view wantsFocus => exact shown
  | modifiers => exact shown
  | keyboardFocus surface => exact shown

end

-- Buffers are shown of surfaces whose view has its listeners, until they are destroyed.
def Drawn (c : Scenery) : Prop := ∀ tree id, (c.trees tree).content = some id →
  (c.surfaces id).life ≠ .unborn ∧ ((c.surfaces id).life = .alive → (c.surfaces id).bound = true)

section
variable {c d : Scenery} {id : Nat} {change : Surface → Surface}

theorem Drawn.mark (drawn : Drawn c) (kept : ∀ tree, (c.trees tree).content = some id →
    (change (c.surfaces id)).life ≠ .unborn ∧
      ((change (c.surfaces id)).life = .alive → (change (c.surfaces id)).bound = true)) : Drawn (c.mark id change) := by
  intro tree other content
  by_cases same : other = id
  · subst same
    rw [marked_self]
    exact kept tree content
  · rw [marked_other same]
    exact drawn tree other content

theorem Drawn.unborn (drawn : Drawn c) (unborn : (c.surfaces id).life = .unborn) (tree : Nat) :
    (c.trees tree).content ≠ some id := fun content => (drawn tree id content).1 unborn

theorem Drawn.grow (drawn : Drawn c) (kept : ∀ id, content = some id →
    (c.surfaces id).life ≠ .unborn ∧ (c.surfaces id).bound = true) : Drawn (c.grown parent content) := by
  intro tree id shown
  by_cases new : tree = c.nextTree
  · subst new
    rw [grown_new] at shown
    exact ⟨(kept id shown).1,fun _ => (kept id shown).2⟩
  · rw [grown_old new] at shown
    exact drawn tree id shown

theorem Drawn.adopt (drawn : Drawn c) (kind : (c.surfaces id).xwayland = true) : Drawn (c.adopt id parent) := by
  intro tree other content
  have old : (c.trees tree).content = some other := by
    by_cases new : tree = c.nextTree
    · subst new
      rw [(adopted_hollow kind).1] at content
      simp at content
    · rwa [adopted_old new] at content
  by_cases same : other = id
  · subst same
    rw [adopted_self]
    exact drawn tree other old
  · rw [adopted_other same]
    exact drawn tree other old

-- A new toplevel has its listeners bound when its tree is in the scene.
theorem Drawn.toplevel (drawn : Drawn c) (unborn : (c.surfaces id).life = .unborn) :
    Drawn (((c.mark id Surface.waking).adopt id parent).mark id fun surface => { surface with bound := true }) := by
  intro tree other content
  by_cases same : other = id
  · subst same
    rw [marked_self,adopted_self,marked_self]
    exact ⟨by simp [Surface.waking],fun _ => rfl⟩
  · have old : (c.trees tree).content = some other := by
      change ((((c.mark id Surface.waking).adopt id parent).trees tree).content = some other) at content
      by_cases new : tree = c.nextTree
      · subst new
        have made : (((c.mark id Surface.waking).adopt id parent).trees c.nextTree).content =
            if ((c.mark id Surface.waking).surfaces id).xwayland then none else some id :=
          congrArg Tree.content adopted_new
        rw [made] at content
        split at content
        · simp at content
        · exact absurd (Option.some.inj content).symm same
      · have kept : ((c.mark id Surface.waking).adopt id parent).trees tree = c.trees tree := adopted_old new
        rwa [kept] at content
    rw [marked_other same,adopted_other same,marked_other same]
    exact drawn tree other old

theorem drawn_preserved (drawn : Drawn c) (moved : SceneStep c event d) : Drawn d := by
  cases moved with
  | refused unborn => exact drawn.mark fun tree content => absurd content (drawn.unborn unborn tree)
  | shown unborn => exact drawn.toplevel unborn
  | born unborn => exact drawn.mark fun tree content => absurd content (drawn.unborn unborn tree)
  | @linked id parent live alive => exact drawn.mark fun tree content => drawn tree _ content
  | hinted alive => exact drawn.mark fun tree content => drawn tree _ content
  | unmapped alive => exact drawn.mark fun tree content => drawn tree _ content
  | mapped alive => exact drawn.mark fun tree content => drawn tree _ content
  | leaked alive host hollow =>
      apply Drawn.grow
      · exact drawn.mark fun tree content => drawn tree _ content
      · simp
  | reused alive bound xwayland cached =>
      apply Drawn.grow
      · exact drawn.mark fun tree content => drawn tree _ content
      · intro id same
        obtain rfl := Option.some.inj same
        rw [marked_self]
        exact ⟨by simp [Surface.mapping,alive],bound⟩
  | @made view parent answers alive bound xwayland host hollow uncached =>
      apply Drawn.grow
      · apply Drawn.adopt
        · exact drawn.mark fun tree content => drawn tree _ content
        · rw [marked_self]
          exact xwayland
      · intro id same
        obtain rfl := Option.some.inj same
        rw [adopted_self,marked_self]
        exact ⟨by simp [Surface.mapping,alive],bound⟩
  | @destroyed id alive hidden =>
      intro tree other content
      rw [destroyed_links.2.2] at content
      by_cases same : other = id
      · subst same
        simp [Server.Scenery.destroyed]
      · simpa [Server.Scenery.destroyed,same] using drawn tree other content
  | still quiet => exact drawn

end

theorem start_drawn : Drawn start.scenery := by
  intro tree id content
  simp [Server.scenery,start] at content

-- The view of an interaction is mapped, and its unmap handler will run.
structure Engaged (s : Server) (current : Interaction) : Prop where
  shown : Represents s.grab current
  live : ∀ view, current.view = some view → (s.surfaces view).mapped = true ∧ (s.surfaces view).bound = true

section
variable {s t : Server} {answers : Answers} {before : Interaction} {id view : Nat}

theorem begun_view (began : (begun answers s view mode edges before).view = some other) :
    other = view ∨ before.view = some other := by
  unfold begun at began
  split at began
  · cases mode with
    | passthrough => exact .inr began
    | move => exact .inl (Option.some.inj began).symm
    | resize => exact .inl (Option.some.inj began).symm
  · exact .inr began

theorem requestable_live (asked : requestable s view serial = true)
    (mapped : (s.surfaces view).xwayland = true ∨ (s.surfaces view).mapped = true) :
    (s.surfaces view).mapped = true ∧ (s.surfaces view).bound = true := by
  unfold requestable at asked
  simp only [Bool.and_eq_true] at asked
  refine ⟨?_,asked.1⟩
  rcases mapped with kind | visible
  · simpa [kind] using asked.2
  · exact visible

theorem requested_live (mapped : (s.surfaces id).xwayland = true ∨ (s.surfaces id).mapped = true)
    (old : before.view = some view → (s.surfaces view).mapped = true ∧ (s.surfaces view).bound = true)
    (current : (if requestable s id serial then begun answers s id mode edges before else before).view = some view) :
    (s.surfaces view).mapped = true ∧ (s.surfaces view).bound = true := by
  split at current
  · rename_i asked
    rcases begun_view current with same | kept
    · rw [same]
      exact requestable_live asked mapped
    · exact old kept
  · exact old current

theorem under_live (valid : Sound s.scenery) (drawn : Drawn s.scenery) (showing : overMapped answers s = true)
    (under : viewUnder answers s = some view) :
    (s.surfaces view).mapped = true ∧ (s.surfaces view).bound = true := by
  obtain ⟨mapped,tree,content⟩ := under_mapped valid.built showing under
  exact ⟨mapped,(drawn tree view content).2 (valid.lives.living view mapped)⟩

-- An event begins an interaction on a live view only, and one goes on unless its view is unmapped.
theorem interaction_live (valid : Sound s.scenery) (drawn : Drawn s.scenery) (engaged : Engaged s before)
    (kept : promised s event = true) (current : (interaction s before event).view = some view) :
    ((s.surfaces view).mapped = true ∧ (s.surfaces view).bound = true) ∧
      ∀ answers, event ≠ .unmap answers view := by
  have old : before.view = some view → (s.surfaces view).mapped = true ∧ (s.surfaces view).bound = true :=
    engaged.live view
  cases event with
  | requestMove answers id serial =>
      refine ⟨?_,by simp⟩
      apply requested_live _ old current
      simpa [promised] using kept
  | requestResize answers id serial edges =>
      refine ⟨?_,by simp⟩
      simp only [promised,Bool.and_eq_true,Bool.or_eq_true] at kept
      exact requested_live kept.1 old current
  | cursorButton answers button state =>
      refine ⟨?_,by simp⟩
      simp only [promised,Bool.and_eq_true] at kept
      cases state with
      | released => simp [interaction,Interaction.view] at current
      | pressed =>
          cases alt : answers.alt with
          | false => exact old (by simpa [interaction,alt] using current)
          | true =>
              cases under : viewUnder answers s with
              | none => exact old (by simpa [interaction,alt,under] using current)
              | some other =>
                  simp only [interaction,alt,under] at current
                  have began : view = other ∨ before.view = some view := by
                    split at current
                    · exact begun_view current
                    · split at current
                      · exact begun_view current
                      · exact .inr current
                  rcases began with same | before
                  · rw [same]
                    exact under_live valid drawn kept.1 under
                  · exact old before
  | unmap answers id =>
      simp only [interaction] at current
      split at current
      · simp [Interaction.view] at current
      · rename_i apart
        refine ⟨old current,?_⟩
        intro other same
        cases same
        exact apart current
  | _ => exact ⟨old current,by simp⟩

theorem engaged_preserved (valid : Sound s.scenery) (drawn : Drawn s.scenery) (engaged : Engaged s before)
    (kept : promised s event = true) (accepted : step s event = some t) : Engaged t (interaction s before event) := by
  refine ⟨?_,?_⟩
  · exact step_represents valid engaged.shown (fun view same => (engaged.live view same).2) kept accepted
  · intro view current
    obtain ⟨⟨mapped,bound⟩,stays⟩ := interaction_live valid drawn engaged kept current
    have carried := view_carried valid mapped (step_scene valid accepted) stays
    exact ⟨carried.mapped,carried.bound.trans bound⟩

end

structure Grabbed (s : Server) (current : Interaction) : Prop where
  free : s.cursorMode = .passthrough ↔ s.grabbedView = none
  live : s.cursorMode ≠ .passthrough → ∃ view, s.grabbedView = some view ∧ (s.surfaces view).mapped = true ∧
    s.grabX.isSome = true ∧ s.grabY.isSome = true
  -- the box and the edges are those that the interaction began with
  current : s.cursorMode = .resize → ∃ view geobox edges, current = .resizing view geobox edges ∧
    s.grabbedView = some view ∧ s.grabGeobox = some geobox ∧ s.resizeEdges = some edges

theorem engaged_grabbed {s : Server} (engaged : Engaged s current) : Grabbed s current := by
  obtain ⟨shown,live⟩ := engaged
  cases current with
  | idle =>
      obtain ⟨mode,view⟩ : s.cursorMode = .passthrough ∧ s.grabbedView = none := shown
      refine ⟨iff_of_true mode view,fun busy => absurd mode busy,?_⟩
      rw [mode]
      simp
  | moving view =>
      obtain ⟨mode,grabbed,x,y⟩ : s.cursorMode = .move ∧ s.grabbedView = some view ∧ s.grabX.isSome = true ∧
        s.grabY.isSome = true := shown
      refine ⟨by simp [mode,grabbed],fun _ => ⟨view,grabbed,(live view rfl).1,x,y⟩,?_⟩
      rw [mode]
      simp
  | resizing view geobox edges =>
      obtain ⟨mode,grabbed,x,y,box,sides⟩ : s.cursorMode = .resize ∧ s.grabbedView = some view ∧
        s.grabX.isSome = true ∧ s.grabY.isSome = true ∧ s.grabGeobox = some geobox ∧
        s.resizeEdges = some edges := shown
      refine ⟨by simp [mode,grabbed],fun _ => ⟨view,grabbed,(live view rfl).1,x,y⟩,fun _ => ?_⟩
      exact ⟨view,geobox,edges,rfl,grabbed,box,sides⟩

-- The interaction runs beside the server and has no say in what the server does.
theorem grabs_live (events : List Event)
    (kept : ∀ row ∈ taken (followed step interaction) (start,.idle) events, promised row.1.1 row.2 = true) :
    (visited (followed step interaction) (start,.idle) events).map Prod.fst = visited step start events ∧
      ∀ pair ∈ visited (followed step interaction) (start,.idle) events, Grabbed pair.1 pair.2 := by
  refine ⟨followed_visited,?_⟩
  let holds := fun pair : Server × Interaction =>
    Sound pair.1.scenery ∧ Drawn pair.1.scenery ∧ Engaged pair.1 pair.2
  suffices held : ∀ pair ∈ visited (followed step interaction) (start,.idle) events, holds pair by
    intro pair member
    exact engaged_grabbed (held pair member).2.2
  apply visited_assuming holds fun pair event => promised pair.1 event = true
  · intro pair event after held assumed accepted
    obtain ⟨accepted,moved⟩ := followed_exact.mp accepted
    obtain ⟨valid,drawn,engaged⟩ := held
    refine ⟨sound_preserved valid accepted,drawn_preserved drawn (step_scene valid accepted),?_⟩
    rw [← moved]
    exact engaged_preserved valid drawn engaged assumed accepted
  · refine ⟨start_sound,start_drawn,⟨rfl,rfl⟩,?_⟩
    intro view none
    simp [Interaction.view] at none
  · exact kept

-- A toplevel is resized at its left edge with the button held, until the button is released.
def leftResize : List Event := [
  .newXdgSurface granted 0,.map granted 0,.cursorButton granted 272 .pressed,
  .requestResize { granted with pointerFocus := some (.main 0) } 0 0 ["left"],.cursorMotion granted 5 5,
  .cursorButton granted 272 .released,.unmap granted 0]

theorem resize_grabbed : (∀ pair ∈ visited (followed step interaction) (start,.idle) leftResize, Grabbed pair.1 pair.2) ∧
    ∃ pair ∈ visited (followed step interaction) (start,.idle) leftResize, pair.1.cursorMode = .resize ∧
      (pair.1.tables 0).x = 5 :=
  ⟨(grabs_live leftResize (by decide +kernel)).2,by decide +kernel⟩

end Janetland.Tinyjl
