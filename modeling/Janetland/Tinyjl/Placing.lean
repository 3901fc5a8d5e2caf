import Janetland.Tinyjl.StackingRuns

namespace Janetland.Tinyjl.Stage
open Act
open Server (Scenery)
open Toggles (Mode Layout getMaximizeGeoBox)

def position (s : Server) (view : Nat) : Int × Int := ((s.tables view).x,(s.tables view).y)

def links (s : Server) (id : Nat) : Bool × Bool × Option Nat :=
  ((s.surfaces id).xwayland,(s.surfaces id).mapped,(s.surfaces id).parent)

-- What the positions on the screen depend on.
def spots (s : Stage) : (Nat → Bool × Bool × Option Nat) × (Nat → View) × (Nat → Int × Int) ×
    (Nat → BitVec 16 × BitVec 16) := (links s.server,s.server.tables,s.place,s.window)

def sending (s : Stage) (view : Nat) (x y : Int) : Stage :=
  { s with window := Function.update s.window view (BitVec.ofInt 16 x,BitVec.ofInt 16 y) }

-- A view that a handler gives a position, whether its node takes it, and whether it is sent to the X server.
structure Target where
  view : Nat
  took : Bool
  sent : Bool
  x : Int
  y : Int

def relocated (s : Stage) (target : Target) : Stage where
  server := s.server.setTable target.view fun table => { table with x := target.x, y := target.y }
  stack := s.stack
  place := if target.took then (s.server.tables target.view).sceneTree.elim s.place
    fun tree => Function.update s.place tree (target.x,target.y) else s.place
  window := if target.sent then (sending s target.view target.x target.y).window else s.window
  saved := s.saved

-- A handler moved nothing but its target.
def Relocates (s : Stage) (target : Option Target) (t : Stage) : Prop := spots t = spots (target.elim s s.relocated)

-- The position is sent when the node has taken it.
def steered (s : Server) (view : Nat) (sends : Bool) (x y : Int) : Target where
  view := view
  took := (s.tables view).sceneTree.isSome && (fitsInt32 x && fitsInt32 y)
  sent := (s.tables view).sceneTree.isSome && (fitsInt32 x && fitsInt32 y) && sends
  x := x
  y := y

-- (server :grab-y) is looked up when (view :x) is there already.
def moveTarget (s : Server) : Option Target := do
  let grabX ← s.grabX
  let view ← s.grabbedView
  let x := mathRound (s.cursorX - grabX)
  return s.grabY.elim ⟨view,false,false,x,(s.tables view).y⟩ fun grabY =>
    steered s view ((s.surfaces view).xwayland && (s.surfaces view).mapped) x (mathRound (s.cursorY - grabY))

def resizeTarget (answers : Answers) (s : Server) : Option Target := do
  let view ← s.grabbedView
  let borderX := s.cursorX - (← s.grabX)
  let borderY := s.cursorY - (← s.grabY)
  let geobox ← s.grabGeobox
  let edges ← s.resizeEdges
  let vertical := dragged geobox.y (geobox.y + geobox.height) borderY (contains edges "top") (contains edges "bottom")
  let horizontal := dragged geobox.x (geobox.x + geobox.width) borderX (contains edges "left") (contains edges "right")
  let fits := fitsInt32 (mathRound (horizontal.2 - horizontal.1)) && fitsInt32 (mathRound (vertical.2 - vertical.1))
  match getGeometryFromView answers view s with
  | .ok geoBox =>
    let x := mathRound (horizontal.1 - geoBox.x)
    let y := mathRound (vertical.1 - geoBox.y)
    some (steered s view ((s.surfaces view).xwayland && fits) x y)
  | _ => none

def motionTarget (answers : Answers) (s : Server) : Option Target := match s.cursorMode with
  | .passthrough => none
  | .move => moveTarget s
  | .resize => resizeTarget answers s

-- The box of a request is the saved one or, where that can be saved, the one of the output.
def requestBox (s : Stage) (mode : Mode) (answers : Answers) (layout : Layout) (view : Nat) : Option Box :=
  match s.saved view mode with
  | some oldBox => some oldBox.box
  | none => match getGeometryFromView answers view s.server with
    | .ok geoBox => match geoBoxAt geoBox (s.server.tables view).x (s.server.tables view).y with
      | .ok _ => some (getMaximizeGeoBox layout (s.server.tables view).x (s.server.tables view).y)
      | _ => none
    | _ => none

def requestTarget (s : Stage) (mode : Mode) (answers : Answers) (layout : Layout) (view : Nat) : Option Target :=
  (requestBox s mode answers layout view).map fun box => steered s.server view
    ((s.server.surfaces view).xwayland && (fitsInt32 box.width && fitsInt32 box.height)) box.x box.y

def configureTarget (s : Stage) (view : Nat) (x y : BitVec 16) : Option Target :=
  if showing s view then some (steered s.server view false x.toInt y.toInt) else none

def geometryTarget (s : Stage) (view : Nat) : Option Target :=
  if position s.server view = ((s.window view).1.toInt,(s.window view).2.toInt) then none
  else if showing s view then some (steered s.server view false (xwLocalCoords view s).1 (xwLocalCoords view s).2)
  else some ⟨view,false,false,(xwLocalCoords view s).1,(xwLocalCoords view s).2⟩

section
variable {s t : Stage} {answers : Answers} {view id : Nat}

theorem relocates_links (relocates : Relocates s target t) : links t.server = links s.server := by
  have same : links t.server = links (target.elim s s.relocated).server := congrArg Prod.fst relocates
  rw [same]
  cases target <;> rfl

theorem argument_ensures {returned : Unit → σ → Prop} {raised : σ → Prop} {s : σ}
    (fits : fitsInt32 value = true → returned () s) (failed : fitsInt32 value = false → raised s) :
    Ensures (lift (integerArgument n value)) s returned raised := by
  unfold integerArgument
  cases checked : fitsInt32 value with
  | true => exact fits checked
  | false => exact failed checked

theorem setPosition_ensures {returned : Unit → Stage → Prop} {raised : Stage → Prop}
    (took : ∀ node, tree = some node → (fitsInt32 x && fitsInt32 y) = true → returned () (moved s node x y))
    (failed : tree = none ∨ (fitsInt32 x && fitsInt32 y) = false → raised s) :
    Ensures (wlrSceneNodeSetPosition tree x y) s returned raised := by
  apply ensures_bind
  apply on_ensures
  apply ensures_bind
  cases tree with
  | none => exact failed (.inl rfl)
  | some node =>
      apply ensures_pure
      apply ensures_bind
      apply argument_ensures
      · intro fitsX
        apply ensures_bind
        apply argument_ensures
        · intro fitsY
          apply reach_ensures
          intro _
          exact took node rfl (by rw [fitsX,fitsY]; rfl)
        · intro high
          exact failed (.inr (by rw [fitsX,high]; rfl))
      · intro high
        exact failed (.inr (by rw [high]; rfl))

theorem spots_on {act : Act Server α} (kept : Keeps (fun s => (links s,s.tables)) act) : Keeps spots (onServer act) :=
  keeps_view (on_keeps kept) fun both => (both.1.1,both.1.2,both.2.2.1,both.2.2.2.1)

theorem spots_when {act : Act Stage Unit} (kept : Keeps spots act) : Keeps spots (when condition act) := by
  cases condition with
  | true => exact kept
  | false => exact keeps_pure ()

def retabled (s : Stage) (view : Nat) (x y : Int) : Stage :=
  { s with server := s.server.setTable view fun table => { table with x := x, y := y } }

theorem retabled_self (s : Stage) (view : Nat) (x y : Int) : (retabled s view x y).server.tables view =
    { s.server.tables view with x := x, y := y } := Function.update_self ..

theorem retabled_twice (s : Stage) (view : Nat) (x y : Int) :
    { s with
      server := (s.server.setTable view fun table => { table with x := x }).setTable view
        fun table => { table with y := y } } = retabled s view x y := by
  simp [retabled,Server.setTable]

-- The view has its position, and its node gets it.
theorem steer_ensures (sends : Bool) : Ensures (wlrSceneNodeSetPosition (s.server.tables view).sceneTree x y)
    (retabled s view x y)
    (fun _ t => (fitsInt32 x && fitsInt32 y) = true ∧ steered s.server view sends x y = ⟨view,true,sends,x,y⟩ ∧
      Relocates s (some ⟨view,true,false,x,y⟩) t)
    fun t => Relocates s (some (steered s.server view sends x y)) t := by
  apply setPosition_ensures
  · intro node shown fits
    refine ⟨fits,?_,?_⟩
    · unfold steered
      rw [shown,fits]
      rfl
    · unfold Relocates relocated
      rw [Option.elim_some,if_pos rfl,shown]
      rfl
  · intro failed
    have missed : ((s.server.tables view).sceneTree.isSome && (fitsInt32 x && fitsInt32 y)) = false := by
      rcases failed with hidden | high
      · rw [hidden]
        rfl
      · rw [high,Bool.and_false]
    unfold Relocates relocated steered
    rw [Option.elim_some,missed]
    rfl

-- A position that the node took is one that the X server is sent.
theorem send_ensures (fits : (fitsInt32 x && fitsInt32 y) = true) (relocates : Relocates s (some ⟨view,true,false,x,y⟩) t) :
    Ensures (wlrXwaylandSurfaceConfigure view x y) t (fun _ u => Relocates s (some ⟨view,true,true,x,y⟩) u)
      fun _ => False := by
  have both := Bool.and_eq_true_iff.mp fits
  unfold Ensures
  rw [configure_ran both.1 both.2]
  exact congrArg (fun all => (all.1,all.2.1,all.2.2.1,
    Function.update all.2.2.2 view (BitVec.ofInt 16 x,BitVec.ofInt 16 y))) relocates

-- Then an XWayland surface gets it from the handler, unless the size does not fit or there is none.
theorem steered_ensures {next : Unit → Act Stage α} (after : ∀ t, (fitsInt32 x && fitsInt32 y) = true →
      Relocates s (some ⟨view,true,false,x,y⟩) t → Ensures (next ()) t
        (fun _ u => Relocates s (some ⟨view,true,sends,x,y⟩) u) fun u => Relocates s (some ⟨view,true,sends,x,y⟩) u) :
    Ensures (wlrSceneNodeSetPosition (s.server.tables view).sceneTree x y >>= next) (retabled s view x y)
      (fun _ t => Relocates s (some (steered s.server view sends x y)) t)
      fun t => Relocates s (some (steered s.server view sends x y)) t := by
  apply ensures_bind
  apply ensures_mono (steer_ensures sends)
  intro _ t placed
  obtain ⟨fits,same,relocates⟩ := placed
  rw [same]
  exact after t fits relocates

theorem move_sends (fits : (fitsInt32 x && fitsInt32 y) = true) (relocates : Relocates s (some ⟨view,true,false,x,y⟩) t) :
    Ensures (when (t.server.surfaces view).xwayland do
        let _ ← onServer (look fun s => needed (ownSurface s view))
        wlrXwaylandSurfaceConfigure view x y) t
      (fun _ u => Relocates s (some ⟨view,true,(t.server.surfaces view).xwayland && (t.server.surfaces view).mapped,x,y⟩) u)
      fun u => Relocates s (some ⟨view,true,(t.server.surfaces view).xwayland && (t.server.surfaces view).mapped,x,y⟩) u := by
  cases kind : (t.server.surfaces view).xwayland with
  | false => exact ensures_pure () relocates
  | true =>
      apply ensures_bind
      cases mapped : (t.server.surfaces view).mapped with
      | true =>
          apply needed_ensures
          · intro surface _
            exact ensures_weaken (send_ensures fits relocates) (fun _ _ sent => sent) fun _ impossible => impossible.elim
          · intro missing
            simp [ownSurface,kind,mapped] at missing
      | false =>
          apply needed_ensures
          · intro surface found
            simp [ownSurface,kind,mapped] at found
          · exact fun _ => relocates

theorem cursorMove_relocates : Ensures processCursorMove s (fun _ t => Relocates s (moveTarget s.server) t)
    fun t => Relocates s (moveTarget s.server) t := by
  apply ensures_bind
  apply needed_ensures
  · intro grabX someX
    apply ensures_bind
    apply needed_ensures
    · intro view grabbed
      apply ensures_bind
      apply ensures_modify
      apply ensures_bind
      apply needed_ensures
      · intro grabY held
        have someY : s.server.grabY = some grabY := held
        have target : moveTarget s.server = some (steered s.server view ((s.server.surfaces view).xwayland &&
            (s.server.surfaces view).mapped) (mathRound (s.server.cursorX - grabX))
            (mathRound (s.server.cursorY - grabY))) := by
          simp [moveTarget,someX,grabbed,someY]
        rw [target]
        apply ensures_bind
        apply ensures_modify
        change Ensures _ { s with
          server := (s.server.setTable view
            fun table => { table with x := mathRound (s.server.cursorX - grabX) }).setTable view
            fun table => { table with y := mathRound (s.server.cursorY - grabY) } } _ _
        rw [retabled_twice]
        apply ensures_bind
        apply ensures_read
        rw [retabled_self]
        apply steered_ensures
        intro t fits relocates
        have same := congrFun (relocates_links relocates) view
        have kind : (t.server.surfaces view).xwayland = (s.server.surfaces view).xwayland := congrArg Prod.fst same
        have mapped : (t.server.surfaces view).mapped = (s.server.surfaces view).mapped :=
          congrArg (fun link => link.2.1) same
        apply ensures_bind
        apply ensures_read
        rw [← kind,← mapped]
        exact move_sends fits relocates
      · intro held
        have missing : s.server.grabY = none := held
        have target : moveTarget s.server = some ⟨view,false,false,mathRound (s.server.cursorX - grabX),
            (s.server.tables view).y⟩ := by
          simp [moveTarget,someX,grabbed,missing]
        rw [target]
        rfl
    · intro missing
      have target : moveTarget s.server = none := by simp [moveTarget,missing]
      rw [target]
      rfl
  · intro missing
    have target : moveTarget s.server = none := by simp [moveTarget,missing]
    rw [target]
    rfl

theorem border_ensures {get : Server → Option Rat} {start : Server → Rat} {returned : Rat → Stage → Prop}
    {raised : Stage → Prop} (holds : ∀ grab, get s.server = some grab → returned (start s.server - grab) s)
    (failed : get s.server = none → raised s) :
    Ensures (onServer (look fun s => do return start s - (← needed (get s)))) s returned raised := by
  apply look_ensures
  · intro value found
    cases held : get s.server with
    | none => simp [held,needed,panicf] at found
    | some grab =>
        simp only [held,needed,Res.bind_ok,Res.pure_ok,Res.ok.injEq] at found
        exact found ▸ holds grab held
  · intro error missing
    cases held : get s.server with
    | none => exact failed held
    | some grab => simp [held,needed] at missing

-- The size is checked before the position is sent.
theorem resize_sends {table : View} (fits : (fitsInt32 x && fitsInt32 y) = true) (across : table.x = x)
    (down : table.y = y) (relocates : Relocates s (some ⟨view,true,false,x,y⟩) t) (kind : Bool) : Ensures (do
        let size ← lift (sendSize kind table width height)
        when kind (wlrXwaylandSurfaceConfigure view table.x table.y)
        return size) t
      (fun _ u => Relocates s (some ⟨view,true,kind && (fitsInt32 width && fitsInt32 height),x,y⟩) u)
      fun u => Relocates s (some ⟨view,true,kind && (fitsInt32 width && fitsInt32 height),x,y⟩) u := by
  subst across down
  obtain ⟨fitsX,fitsY⟩ := Bool.and_eq_true_iff.mp fits
  cases sized : fitsInt32 width && fitsInt32 height with
  | true =>
      obtain ⟨wide,high⟩ := Bool.and_eq_true_iff.mp sized
      rw [Toggles.sendSize_returns fitsX fitsY wide high,Bool.and_true]
      apply ensures_bind
      apply ensures_pure
      cases kind with
      | false => exact relocates
      | true =>
          apply ensures_bind
          apply ensures_weaken (send_ensures fits relocates)
          · exact fun _ _ sent => ensures_pure _ sent
          · exact fun _ impossible => impossible.elim
  | false =>
      rw [Bool.and_false]
      apply ensures_bind
      refine ensures_lift (fun size sent => ?_) relocates
      obtain ⟨wide,high,_⟩ := Toggles.sendSize_exact sent
      simp [wide,high] at sized

theorem cursorResize_relocates : Ensures (processCursorResize answers) s
    (fun _ t => Relocates s (resizeTarget answers s.server) t) fun t => Relocates s (resizeTarget answers s.server) t := by
  have still : resizeTarget answers s.server = none → Relocates s (resizeTarget answers s.server) s := by
    intro missing
    rw [missing]
    rfl
  apply ensures_bind
  apply needed_ensures
  · intro view grabbed
    apply ensures_bind
    apply border_ensures
    · intro grabX someX
      apply ensures_bind
      apply border_ensures
      · intro grabY someY
        apply ensures_bind
        apply needed_ensures
        · intro geobox boxed
          apply ensures_bind
          apply needed_ensures
          · intro edges held
            apply ensures_bind
            apply look_ensures
            · intro geoBox found
              simp only [resizeTarget,grabbed,someX,someY,boxed,held,found,Option.bind_eq_bind,Option.bind_some]
              apply ensures_bind
              apply ensures_modify
              apply ensures_bind
              apply ensures_modify
              change Ensures _ { s with
                server := (s.server.setTable view fun table => { table with x := _ }).setTable view
                  fun table => { table with y := _ } } _ _
              rw [retabled_twice]
              apply ensures_bind
              apply ensures_read
              rw [retabled_self]
              apply steered_ensures
              intro t fits relocates
              have same := congrFun (relocates_links relocates) view
              have kind : (t.server.surfaces view).xwayland = (s.server.surfaces view).xwayland := congrArg Prod.fst same
              apply ensures_bind
              apply ensures_read
              rw [← kind]
              exact resize_sends fits rfl rfl relocates _
            · intro error missing
              exact still (by simp [resizeTarget,grabbed,someX,someY,boxed,held,missing])
          · intro missing
            exact still (by simp [resizeTarget,missing])
        · intro missing
          exact still (by simp [resizeTarget,missing])
      · intro missing
        exact still (by simp [resizeTarget,missing])
    · intro missing
      exact still (by simp [resizeTarget,missing])
  · intro missing
    exact still (by simp [resizeTarget,missing])

theorem cursorMotion_relocates : Ensures (handleCursorMotion answers x y) s
    (fun _ t => Relocates s (motionTarget answers { s.server with cursorX := x, cursorY := y }) t)
    fun t => Relocates s (motionTarget answers { s.server with cursorX := x, cursorY := y }) t := by
  have aside : ∀ target t, Relocates { s with server := { s.server with cursorX := x, cursorY := y } } target t →
      Relocates s target t := by
    intro target t relocates
    unfold Relocates at relocates ⊢
    rw [relocates]
    cases target <;> rfl
  apply ensures_bind
  apply ensures_modify
  apply ensures_bind
  apply ensures_read
  unfold motionTarget
  cases mode : s.server.cursorMode with
  | passthrough =>
      have kept : Keeps spots (do
          let _ ← onServer (desktopViewAt answers)
          pure () : Act Stage Unit) := by
        apply keeps_bind (spots_on desktopViewAt_keeps)
        intro _
        exact keeps_pure ()
      exact kept _
  | move => exact ensures_imp (aside _) cursorMove_relocates
  | resize =>
      apply ensures_bind
      apply ensures_weaken cursorResize_relocates
      · intro _ t relocates
        exact ensures_pure () (aside _ t relocates)
      · exact aside _

theorem placed_ensures {next : Unit → Act Stage α} {returned : α → Stage → Prop} {raised : Stage → Prop}
    (later : Ensures (next ()) (retabled s view x y) returned raised) :
    Ensures (placed view x y >>= next) s returned raised := by
  apply ensures_bind
  apply ensures_bind
  apply ensures_modify
  apply ensures_modify
  change Ensures _ { s with
    server := (s.server.setTable view fun table => { table with x := x }).setTable view
      fun table => { table with y := y } } _ _
  rw [retabled_twice]
  exact later

-- A toplevel is sent its size only, an XWayland surface its position with the size.
theorem impose_sends (kind : Bool) (fits : (fitsInt32 box.x && fitsInt32 box.y) = true)
    (relocates : Relocates s (some ⟨view,true,false,box.x,box.y⟩) t) :
    Ensures ((if kind then resizeXwayland view else resizeXdg) box) t
      (fun _ u => Relocates s (some ⟨view,true,kind && (fitsInt32 box.width && fitsInt32 box.height),box.x,box.y⟩) u)
      fun u => Relocates s (some ⟨view,true,kind && (fitsInt32 box.width && fitsInt32 box.height),box.x,box.y⟩) u := by
  have both := Bool.and_eq_true_iff.mp fits
  cases kind with
  | false =>
      apply ensures_bind
      apply argument_ensures
      · intro _
        apply argument_ensures
        · exact fun _ => relocates
        · exact fun _ => relocates
      · exact fun _ => relocates
  | true =>
      apply ensures_bind
      apply argument_ensures
      · intro _
        apply ensures_bind
        apply argument_ensures
        · intro _
          apply ensures_bind
          apply argument_ensures
          · intro wide
            apply ensures_bind
            apply argument_ensures
            · intro high
              rw [wide,high]
              exact ensures_weaken (send_ensures fits relocates) (fun _ _ sent => sent) fun _ impossible => impossible.elim
            · intro high
              rw [high,Bool.and_false,Bool.and_false]
              exact relocates
          · intro wide
            rw [wide,Bool.false_and,Bool.and_false]
            exact relocates
        · intro unfit
          rw [both.2] at unfit
          simp at unfit
      · intro unfit
        rw [both.1] at unfit
        simp at unfit

theorem impose_relocates (kind : Bool) (box : Box) :
    Ensures (impose (if kind then resizeXwayland view else resizeXdg) view box) s
      (fun _ t => Relocates s (some (steered s.server view (kind && (fitsInt32 box.width && fitsInt32 box.height))
        box.x box.y)) t)
      fun t => Relocates s (some (steered s.server view (kind && (fitsInt32 box.width && fitsInt32 box.height))
        box.x box.y)) t := by
  apply placed_ensures
  apply ensures_bind
  apply ensures_read
  rw [retabled_self]
  apply steered_ensures
  intro t fits relocates
  exact impose_sends kind fits relocates

theorem requestMode_relocates : Ensures (requestMode mode answers layout view) s
    (fun _ t => Relocates s (requestTarget s mode answers layout view) t)
    fun t => Relocates s (requestTarget s mode answers layout view) t := by
  have aside : ∀ saved target t, Relocates { s with saved := saved } target t → Relocates s target t := by
    intro saved target t relocates
    unfold Relocates at relocates ⊢
    rw [relocates]
    cases target <;> rfl
  unfold requestTarget requestBox
  apply ensures_bind
  apply ensures_read
  apply ensures_bind
  apply ensures_read
  cases held : s.saved view mode with
  | some oldBox =>
      apply ensures_bind
      apply ensures_modify
      apply ensures_imp (aside _ _)
      exact impose_relocates _ oldBox.box
  | none =>
      apply ensures_bind
      apply look_ensures
      · intro geoBox found
        rw [found]
        apply ensures_bind
        apply look_ensures
        · intro oldBox kept
          simp only [kept]
          apply ensures_bind
          apply ensures_modify
          apply ensures_bind
          apply ensures_read
          apply ensures_imp (aside _ _)
          exact impose_relocates _ _
        · intro error missing
          simp only [missing]
          rfl
      · intro error missing
        rw [missing]
        rfl

theorem requestConfigure_relocates : Ensures (handleXwaylandSurfaceRequestConfigure view x y) s
    (fun _ t => Relocates (s.sending view x.toInt y.toInt) (configureTarget s view x y) t)
    fun t => Relocates (s.sending view x.toInt y.toInt) (configureTarget s view x y) t := by
  unfold configureTarget
  apply ensures_bind
  have configured : Ensures (wlrXwaylandSurfaceConfigure view x.toInt y.toInt) s
      (fun _ t => t = s.sending view x.toInt y.toInt) fun _ => False := by
    unfold Ensures
    rw [configure_ran (fits_word x) (fits_word y)]
    rfl
  apply ensures_weaken configured
  · rintro _ _ rfl
    apply ensures_bind
    apply ensures_read
    change Ensures (when (showing s view) _) _ _ _
    cases showing s view with
    | false => exact ensures_pure () rfl
    | true =>
        apply placed_ensures
        apply ensures_bind
        apply ensures_read
        rw [retabled_self]
        apply ensures_weaken (steer_ensures false)
        · intro _ t placed
          obtain ⟨_,same,relocates⟩ := placed
          change Relocates _ (some (steered (s.sending view x.toInt y.toInt).server view false x.toInt y.toInt)) _
          rw [same]
          exact relocates
        · exact fun _ relocates => relocates
  · exact fun _ impossible => impossible.elim

theorem setGeometry_relocates : Ensures (handleXwaylandSurfaceSetGeometry view) s
    (fun _ t => Relocates s (geometryTarget s view) t) fun t => Relocates s (geometryTarget s view) t := by
  unfold geometryTarget
  apply ensures_bind
  apply ensures_read
  have seen : (decide ((s.server.tables view).x = (s.window view).1.toInt) &&
      decide ((s.server.tables view).y = (s.window view).2.toInt)) =
        decide (position s.server view = ((s.window view).1.toInt,(s.window view).2.toInt)) := by
    simp [position]
  rw [seen]
  by_cases same : position s.server view = ((s.window view).1.toInt,(s.window view).2.toInt)
  · rw [if_pos same,decide_eq_true same]
    exact ensures_pure () rfl
  · rw [if_neg same,decide_eq_false same]
    apply ensures_bind
    apply ensures_read
    apply placed_ensures
    apply ensures_bind
    apply ensures_read
    have shown : showing (retabled s view (xwLocalCoords view s).1 (xwLocalCoords view s).2) view = showing s view := by
      unfold showing
      rw [retabled_self]
      rfl
    rw [shown]
    cases showing s view with
    | false => exact ensures_pure () rfl
    | true =>
        apply ensures_bind
        apply ensures_read
        rw [retabled_self]
        apply ensures_weaken (steer_ensures false)
        · intro _ t placed
          obtain ⟨_,same,relocates⟩ := placed
          rw [if_pos rfl,same]
          exact relocates
        · exact fun _ relocates => relocates

end

end Janetland.Tinyjl.Stage
