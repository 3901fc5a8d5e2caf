import Janetland.IntegerArguments
import Janetland.Tinyjl.Events

namespace Janetland.Tinyjl

-- The fields of a struct wlr_box are ints.
def Box.fits (box : Box) : Bool :=
  fitsInt32 box.x && fitsInt32 box.y && fitsInt32 box.width && fitsInt32 box.height

theorem Box.fits_exact {box : Box} : box.fits = true ↔ fitsInt32 box.x = true ∧ fitsInt32 box.y = true ∧
    fitsInt32 box.width = true ∧ fitsInt32 box.height = true := by
  simp [Box.fits,Bool.and_eq_true,and_assoc]

theorem Box.eq_iff {one two : Box} : one = two ↔
    one.x = two.x ∧ one.y = two.y ∧ one.width = two.width ∧ one.height = two.height := by
  cases one
  cases two
  simp

structure WlrBox where
  box : Box
  fits : box.fits = true

namespace Toggles
open Act EventRuns

inductive Mode where
  | maximized | fullscreen
deriving DecidableEq

def Mode.other : Mode → Mode
  | .maximized => .fullscreen
  | .fullscreen => .maximized

-- struct wlr_output_layout: the output at a point, and the box of one output or of all.
structure Layout where
  outputAt : Int → Int → Option Nat
  getBox : Option Nat → WlrBox

-- The server, and what concerns the geometry of one of its views.
structure Window where
  server : Server
  -- the geometry of its client
  client : Box
  -- (view :maximized) and (view :fullscreen), where `none` is nil or false
  saved : Mode → Option Box

def getMaximizeGeoBox (layout : Layout) (x y : Int) : Box := (layout.getBox (layout.outputAt x y)).box

def getGeometry (view : Nat) (w : Window) : Res Box :=
  getGeometryFromView { granted with geometry := w.client } view w.server

def putSaved (mode : Mode) (box : Option Box) : Act Window Unit :=
  modify fun w => { w with saved := Function.update w.saved mode box }

def setTable (view : Nat) (change : View → View) : Act Window Unit :=
  modify fun w => { w with server := w.server.setTable view change }

def resizeClient (width height : Int) : Act Window Unit :=
  modify fun w => { w with client := { w.client with width := width, height := height } }

-- The client adopts the size that it is sent.
def wlrXdgToplevelSetSize (width height : Int) : Act Window Unit := do
  lift (integerArgument 1 width)
  lift (integerArgument 2 height)
  resizeClient width height

-- The size of an X11 window has 16 bits.
def wlrXwaylandSurfaceConfigure (x y width height : Int) : Act Window Unit := do
  lift (integerArgument 1 x)
  lift (integerArgument 2 y)
  lift (integerArgument 3 width)
  lift (integerArgument 4 height)
  resizeClient (uint16Type.convert width) (uint16Type.convert height)

-- The part that both branches of the handlers share.
def place (resize : Box → Act Window Unit) (view : Nat) (box : Box) : Act Window Unit := do
  setTable view fun table => { table with x := box.x }
  setTable view fun table => { table with y := box.y }
  let sceneTree ← read fun w => (w.server.tables view).sceneTree
  look fun w => (wlrSceneNodeSetPosition sceneTree box.x box.y w.server).1
  resize box

def handleRequest (resize : Box → Act Window Unit) (mode : Mode) (layout : Layout) (view : Nat) :
    Act Window Unit := do
  let saved ← read fun w => w.saved mode
  match saved with
  | none => do
    let geoBox ← look (getGeometry view)
    let x ← look fun w => boxPut (w.server.tables view).x
    let y ← look fun w => boxPut (w.server.tables view).y
    putSaved mode (some { geoBox with x := x, y := y })
    let outputBox ← read fun w =>
      getMaximizeGeoBox layout (w.server.tables view).x (w.server.tables view).y
    place resize view outputBox
  | some oldBox => do
    putSaved mode none
    place resize view oldBox

def resizeXdg (box : Box) : Act Window Unit := wlrXdgToplevelSetSize box.width box.height
def resizeXwayland (box : Box) : Act Window Unit := wlrXwaylandSurfaceConfigure box.x box.y box.width box.height

def handleXdgToplevelRequestMaximize := handleRequest resizeXdg .maximized
def handleXdgToplevelRequestFullscreen := handleRequest resizeXdg .fullscreen
def handleXwaylandSurfaceRequestFullscreen := handleRequest resizeXwayland .fullscreen
def handleXwaylandSurfaceRequestMaximize := handleRequest resizeXwayland .maximized

def perform (layout : Layout) (view : Nat) (mode : Mode) : Act Window Unit := do
  let xwayland ← read fun w => (w.server.surfaces view).xwayland
  match xwayland,mode with
  | false,.maximized => handleXdgToplevelRequestMaximize layout view
  | false,.fullscreen => handleXdgToplevelRequestFullscreen layout view
  | true,.fullscreen => handleXwaylandSurfaceRequestFullscreen layout view
  | true,.maximized => handleXwaylandSurfaceRequestMaximize layout view

-- The client asks to enter or to leave a mode. An error ends the handler only.
def request (layout : Layout) (view : Nat) (w : Window) (mode : Mode) : Option Window :=
  match perform layout view mode w with
  | (.ok _,next) => some next
  | (.panic _,next) => some next
  | (.fault _,_) => none

def geometry (view : Nat) (w : Window) : Box where
  x := (w.server.tables view).x
  y := (w.server.tables view).y
  width := w.client.width
  height := w.client.height

-- In neither mode the view is where it was at first.
def Restored (view : Nat) (home : Box) (w : Window) : Prop :=
  (∀ mode, w.saved mode = none) → geometry view w = home

-- The mode that was entered while the other was off.
def entered (w : Window) (outer mode : Mode) : Mode :=
  if w.saved .maximized = none ∧ w.saved .fullscreen = none then mode else outer

-- The size that the client is given.
def sent (xwayland : Bool) (size : Int) : Int := if xwayland then uint16Type.convert size else size

section
variable {table : View} {kind : Bool} {width height : Int}

theorem sendSize_returns (x : fitsInt32 table.x = true) (y : fitsInt32 table.y = true)
    (wide : fitsInt32 width = true) (high : fitsInt32 height = true) :
    sendSize kind table width height = .ok (sent kind width,sent kind height) := by
  cases kind with
  | false => simp [sendSize,Tinyjl.wlrXdgToplevelSetSize,sent,integerArgument,wide,high]
  | true => simp [sendSize,Tinyjl.wlrXwaylandSurfaceConfigure,sent,integerArgument,x,y,wide,high]

theorem sendSize_exact : sendSize kind table width height = .ok size → fitsInt32 width = true ∧
    fitsInt32 height = true ∧ size = (sent kind width,sent kind height) := by
  intro ran
  cases kind with
  | false =>
      obtain ⟨_,wide,ran⟩ := Res.bind_exact.mp ran
      obtain ⟨_,high,ran⟩ := Res.bind_exact.mp ran
      exact ⟨checked_fits wide,checked_fits high,(Res.ok.inj ran).symm⟩
  | true =>
      obtain ⟨_,_,ran⟩ := Res.bind_exact.mp ran
      obtain ⟨_,_,ran⟩ := Res.bind_exact.mp ran
      obtain ⟨_,wide,ran⟩ := Res.bind_exact.mp ran
      obtain ⟨_,high,ran⟩ := Res.bind_exact.mp ran
      exact ⟨checked_fits wide,checked_fits high,(Res.ok.inj ran).symm⟩

end

def xwayland (view : Nat) (w : Window) : Bool := (w.server.surfaces view).xwayland

-- Without a scene tree the handlers raise before they send a size.
def shown (view : Nat) (w : Window) : Bool := (w.server.tables view).sceneTree.isSome

def Window.keeping (w : Window) (mode : Mode) (box : Option Box) : Window :=
  { w with saved := Function.update w.saved mode box }

def imposed (view : Nat) (box : Box) (w : Window) : Window := { w with
  server := w.server.setTable view fun table => { table with x := box.x, y := box.y }
  client := if shown view w then
    { w.client with width := sent (xwayland view w) box.width, height := sent (xwayland view w) box.height }
    else w.client }

section
variable {w next : Window} {view : Nat} {layout : Layout}

theorem request_ensures (accepted : request layout view w mode = some next)
    (kept : Ensures (perform layout view mode) w (fun _ t => holds t) holds) : holds next := by
  have left : leaves (perform layout view mode w) = some next := by
    rw [← accepted,request]
    rcases perform layout view mode w with ⟨result,t⟩
    cases result <;> rfl
  exact ensures_leaves left kept

theorem argument_ensures {returned : Unit → Window → Prop} (fits : fitsInt32 value = true) (holds : returned () w) :
    Ensures (lift (integerArgument n value)) w returned raised := by
  unfold integerArgument
  rw [if_pos fits]
  exact holds

-- Both ways to send a size hand it to the client.
def Sends (kind : Bool) (resize : Box → Act Window Unit) : Prop := ∀ w box, Box.fits box = true →
  ∀ returned : Unit → Window → Prop, ∀ raised, returned () { w with client :=
    { w.client with width := sent kind box.width, height := sent kind box.height } } →
    Ensures (resize box) w returned raised

theorem xdg_sends : Sends false resizeXdg := by
  intro w box fits returned raised holds
  obtain ⟨_,_,width,height⟩ := Box.fits_exact.mp fits
  apply ensures_bind
  apply argument_ensures width
  apply ensures_bind
  apply argument_ensures height
  exact holds

theorem xwayland_sends : Sends true resizeXwayland := by
  intro w box fits returned raised holds
  obtain ⟨x,y,width,height⟩ := Box.fits_exact.mp fits
  apply ensures_bind
  apply argument_ensures x
  apply ensures_bind
  apply argument_ensures y
  apply ensures_bind
  apply argument_ensures width
  apply ensures_bind
  apply argument_ensures height
  exact holds

theorem position_accepted {s : Server} (x : fitsInt32 horizontal = true) (y : fitsInt32 vertical = true) :
    (wlrSceneNodeSetPosition (some tree) horizontal vertical s).1 ≠ .panic error := by
  have ran : wlrSceneNodeSetPosition (some tree) horizontal vertical s = reach tree s := by
    simp [wlrSceneNodeSetPosition,bind_run,lift,needed,integerArgument,x,y]
  rw [ran]
  change (if (s.trees tree).alive then Res.ok () else Res.fault .badRead) ≠ .panic error
  split <;> simp

-- A view moves to a box, and its client gets the size unless the view has no tree.
theorem place_ensures {returned : Unit → Window → Prop} (sends : Sends (xwayland view w) resize)
    (fits : Box.fits box = true) (holds : returned () (imposed view box w)) (failed : raised (imposed view box w)) :
    Ensures (place resize view box) w returned raised := by
  obtain ⟨x,y,_,_⟩ := Box.fits_exact.mp fits
  apply ensures_bind
  apply ensures_modify
  apply ensures_bind
  apply ensures_modify
  apply ensures_bind
  apply ensures_read
  apply ensures_bind
  unfold imposed shown at holds failed
  have moved : ((w.server.setTable view fun table => { table with x := box.x }).setTable view
      fun table => { table with y := box.y }) =
      w.server.setTable view fun table => { table with x := box.x, y := box.y } := by
    simp [Server.setTable]
  rw [moved]
  have tree : ((w.server.setTable view fun table => { table with x := box.x, y := box.y }).tables view).sceneTree =
      (w.server.tables view).sceneTree := by
    simp [Server.setTable]
  rw [tree]
  cases own : (w.server.tables view).sceneTree with
  | none =>
      rw [own] at failed
      exact failed
  | some tree =>
      rw [own] at holds
      apply ensures_look
      · intro _ _
        apply sends _ box fits
        exact holds
      · intro error ran
        exact absurd ran (position_accepted x y)

theorem geometry_read (found : getGeometry view w = .ok geoBox) :
    geoBox.width = w.client.width ∧ geoBox.height = w.client.height := by
  unfold getGeometry getGeometryFromView at found
  split at found
  · cases own : ownSurface w.server view with
    | none => simp [own,needed,panicf] at found
    | some surface =>
        rw [own] at found
        obtain rfl := Res.ok.inj found
        exact ⟨rfl,rfl⟩
  · obtain rfl := Res.ok.inj found
    exact ⟨rfl,rfl⟩

theorem boxPut_ok (put : boxPut value = .ok kept) : kept = value ∧ fitsInt32 value = true := by
  unfold boxPut at put
  split at put
  · rename_i fits
    exact ⟨(Res.ok.inj put).symm,fits⟩
  · simp [panicf] at put

-- What a handler does: it leaves its mode, or enters it, or raises before it changes anything.
theorem handleRequest_ensures {holds : Window → Prop} (sends : Sends (xwayland view w) resize)
    (size : w.client.fits = true) (boxes : ∀ box, w.saved mode = some box → box.fits = true)
    (left : ∀ box, w.saved mode = some box → holds (imposed view box (w.keeping mode none)))
    (entered : w.saved mode = none → (geometry view w).fits = true → holds (imposed view
      (getMaximizeGeoBox layout (geometry view w).x (geometry view w).y) (w.keeping mode (some (geometry view w)))))
    (refused : w.saved mode = none → holds w) :
    Ensures (handleRequest resize mode layout view) w (fun _ t => holds t) holds := by
  obtain ⟨_,_,width,height⟩ := Box.fits_exact.mp size
  apply ensures_bind
  apply ensures_read
  cases saved : w.saved mode with
  | some oldBox =>
      apply ensures_bind
      apply ensures_modify
      have ended := left oldBox saved
      exact place_ensures sends (boxes oldBox saved) ended ended
  | none =>
      have stays := refused saved
      apply ensures_bind
      refine ensures_look ?_ fun _ _ => stays
      intro geoBox found
      obtain ⟨sameWidth,sameHeight⟩ := geometry_read found
      apply ensures_bind
      refine ensures_look ?_ fun _ _ => stays
      intro x putX
      obtain ⟨rfl,fitsX⟩ := boxPut_ok putX
      apply ensures_bind
      refine ensures_look ?_ fun _ _ => stays
      intro y putY
      obtain ⟨rfl,fitsY⟩ := boxPut_ok putY
      apply ensures_bind
      apply ensures_modify
      apply ensures_bind
      apply ensures_read
      have same : ({ geoBox with x := (w.server.tables view).x, y := (w.server.tables view).y } : Box) =
          geometry view w := by
        unfold geometry
        rw [sameWidth,sameHeight]
      rw [same]
      have ended := entered saved (Box.fits_exact.mpr ⟨fitsX,fitsY,width,height⟩)
      exact place_ensures sends (layout.getBox _).fits ended ended

theorem perform_ensures {holds : Window → Prop} (handled : ∀ resize, Sends (xwayland view w) resize →
      Ensures (handleRequest resize mode layout view) w (fun _ t => holds t) holds) :
    Ensures (perform layout view mode) w (fun _ t => holds t) holds := by
  apply ensures_bind
  apply ensures_read
  cases kind : (w.server.surfaces view).xwayland with
  | false =>
      have sends : Sends (xwayland view w) resizeXdg := by
        unfold xwayland
        rw [kind]
        exact xdg_sends
      cases mode <;> exact handled resizeXdg sends
  | true =>
      have sends : Sends (xwayland view w) resizeXwayland := by
        unfold xwayland
        rw [kind]
        exact xwayland_sends
      cases mode <;> exact handled resizeXwayland sends

end

-- The box that leaving a mode last goes back to: the first one if the mode was entered
-- first, else the one that the other mode was imposing then.
def origin (layout : Layout) (home : Box) (outer mode : Mode) : Box :=
  if mode = outer then home else getMaximizeGeoBox layout home.x home.y

-- A view ends at the same place from both boxes. Sizes matter only if they are sent.
structure Alike (kind visible : Bool) (one two : Box) : Prop where
  x : one.x = two.x
  y : one.y = two.y
  size : visible = true → sent kind one.width = sent kind two.width ∧ sent kind one.height = sent kind two.height

structure Course (layout : Layout) (view : Nat) (home : Box) (outer : Mode) (w : Window) : Prop where
  client : w.client.fits = true
  boxes : ∀ mode box, w.saved mode = some box → box.fits = true ∧
    Alike (xwayland view w) (shown view w) box (origin layout home outer mode)
  unsent : shown view w = false → w.client.width = home.width ∧ w.client.height = home.height
  -- in one mode the view is where the other one, entered next, would go back to
  between : ∀ mode, w.saved mode ≠ none → w.saved mode.other = none →
    Alike (xwayland view w) (shown view w) (geometry view w) (origin layout home outer mode.other)

-- The request that leaves the last mode goes back to a box that the first geometry matches.
def returns (layout : Layout) (view : Nat) (home : Box) (pair : Window × Mode) (mode : Mode) : Prop :=
  pair.1.saved mode ≠ none → pair.1.saved mode.other = none →
    (origin layout home pair.2 mode).x = home.x ∧ (origin layout home pair.2 mode).y = home.y ∧
      (shown view pair.1 = true →
        sent (xwayland view pair.1) (origin layout home pair.2 mode).width = home.width ∧
        sent (xwayland view pair.1) (origin layout home pair.2 mode).height = home.height)

section
variable {w next : Window} {view : Nat} {layout : Layout} {home box : Box}

theorem sent_again : sent kind (sent kind size) = sent kind size := by
  unfold sent
  cases kind with
  | false => rfl
  | true => exact uint16Type.convert_kept (uint16Type.value_held _)

theorem imposed_shown : shown view (imposed view box w) = shown view w := by
  simp [shown,imposed,Server.setTable]

theorem geometry_imposed : geometry view (imposed view box w) = ⟨box.x,box.y,
    if shown view w then sent (xwayland view w) box.width else w.client.width,
    if shown view w then sent (xwayland view w) box.height else w.client.height⟩ := by
  unfold geometry imposed
  cases shown view w <;> simp [Server.setTable]

theorem imposed_client (size : w.client.fits = true) (fits : Box.fits box = true) :
    (imposed view box w).client.fits = true := by
  obtain ⟨x,y,width,height⟩ := Box.fits_exact.mp size
  obtain ⟨_,_,newWidth,newHeight⟩ := Box.fits_exact.mp fits
  have narrowed : ∀ value, fitsInt32 value = true → fitsInt32 (sent (xwayland view w) value) = true := by
    intro value held
    unfold sent
    cases xwayland view w with
    | false => exact held
    | true =>
        have bounds : 0 ≤ uint16Type.convert value ∧ uint16Type.convert value < 65536 := uint16Type.value_held _
        simp only [fitsInt32,int32Min,int32Max,Bool.and_eq_true,decide_eq_true_eq,if_true]
        omega
  unfold imposed
  cases shown view w with
  | false => exact size
  | true => exact Box.fits_exact.mpr ⟨x,y,narrowed _ newWidth,narrowed _ newHeight⟩

theorem imposed_alike (alike : Alike (xwayland view w) (shown view w) box target) :
    Alike (xwayland view w) (shown view w) (geometry view (imposed view box w)) target := by
  rw [geometry_imposed]
  refine ⟨alike.x,alike.y,?_⟩
  intro visible
  rw [visible]
  obtain ⟨width,height⟩ := alike.size visible
  exact ⟨sent_again.trans width,sent_again.trans height⟩

theorem alike_refl (kind visible : Bool) : Alike kind visible box box := ⟨rfl,rfl,fun _ => ⟨rfl,rfl⟩⟩

theorem Mode.other_ne (mode : Mode) : mode.other ≠ mode := by cases mode <;> simp [Mode.other]
theorem Mode.other_other (mode : Mode) : mode.other.other = mode := by cases mode <;> rfl
theorem Mode.eq_or_other (mode one : Mode) : mode = one ∨ mode = one.other := by
  cases mode <;> cases one <;> simp [Mode.other]

theorem keeping_self : (w.keeping mode kept).saved mode = kept := Function.update_self ..
theorem keeping_other : (w.keeping mode kept).saved mode.other = w.saved mode.other :=
  Function.update_of_ne mode.other_ne ..

-- A handler ends with one mode kept or dropped and the view put at a box.
theorem course_imposed (course : Course layout view home before w) (fits : Box.fits box = true)
    (boxes : ∀ one held, (w.keeping mode kept).saved one = some held → held.fits = true ∧
      Alike (xwayland view w) (shown view w) held (origin layout home outer one))
    (between : ∀ one, (w.keeping mode kept).saved one ≠ none → (w.keeping mode kept).saved one.other = none →
      Alike (xwayland view w) (shown view w) box (origin layout home outer one.other)) :
    Course layout view home outer (imposed view box (w.keeping mode kept)) := by
  have visible : shown view (imposed view box (w.keeping mode kept)) = shown view w := imposed_shown
  refine ⟨imposed_client course.client fits,?_,?_,?_⟩
  · rw [visible]
    exact boxes
  · rw [visible]
    intro hidden
    have still : shown view (w.keeping mode kept) = false := hidden
    have same : (imposed view box (w.keeping mode kept)).client = w.client := if_neg (by simp [still])
    rw [same]
    exact course.unsent hidden
  · rw [visible]
    intro one on off
    exact imposed_alike (w := w.keeping mode kept) (between one on off)

theorem leave_course (course : Course layout view home outer w) (saved : w.saved mode = some box) :
    Course layout view home outer (imposed view box (w.keeping mode none)) := by
  obtain ⟨fits,alike⟩ := course.boxes mode box saved
  apply course_imposed course fits
  · intro one held found
    rcases one.eq_or_other mode with rfl | rfl
    · rw [keeping_self] at found
      simp at found
    · rw [keeping_other] at found
      exact course.boxes _ held found
  · intro one on off
    rcases one.eq_or_other mode with rfl | rfl
    · exact absurd keeping_self on
    · rw [Mode.other_other]
      exact alike

theorem enter_first (course : Course layout view home before w) (home_fits : home.fits = true)
    (off : w.saved mode.other = none) :
    Course layout view home mode (imposed view (getMaximizeGeoBox layout home.x home.y)
      (w.keeping mode (some home))) := by
  apply course_imposed course (layout.getBox _).fits
  · intro one held found
    rcases one.eq_or_other mode with rfl | rfl
    · rw [keeping_self] at found
      obtain rfl := Option.some.inj found
      unfold origin
      rw [if_pos rfl]
      exact ⟨home_fits,alike_refl _ _⟩
    · rw [keeping_other,off] at found
      simp at found
  · intro one on _
    rcases one.eq_or_other mode with rfl | rfl
    · unfold origin
      rw [if_neg one.other_ne]
      exact alike_refl _ _
    · exact absurd (keeping_other.trans off) on

theorem enter_second (course : Course layout view home outer w) (fits : (geometry view w).fits = true)
    (off : w.saved mode = none) (on : w.saved mode.other ≠ none) (output : Box.fits box = true) :
    Course layout view home outer (imposed view box (w.keeping mode (some (geometry view w)))) := by
  apply course_imposed course output
  · intro one held found
    rcases one.eq_or_other mode with rfl | rfl
    · rw [keeping_self] at found
      obtain rfl := Option.some.inj found
      have between := course.between one.other on (by rwa [Mode.other_other])
      rw [Mode.other_other] at between
      exact ⟨fits,between⟩
    · rw [keeping_other] at found
      exact course.boxes _ held found
  · intro one _ none
    rcases one.eq_or_other mode with rfl | rfl
    · exact absurd (keeping_other.symm.trans none) on
    · rw [Mode.other_other,keeping_self] at none
      simp at none

-- Where the view is after it left the last mode.
theorem landed_exact (course : Course layout view home outer w) (saved : w.saved mode = some box) :
    geometry view (imposed view box (w.keeping mode none)) = home ↔
      (origin layout home outer mode).x = home.x ∧ (origin layout home outer mode).y = home.y ∧
      (shown view w = true → sent (xwayland view w) (origin layout home outer mode).width = home.width ∧
        sent (xwayland view w) (origin layout home outer mode).height = home.height) := by
  obtain ⟨_,alike⟩ := course.boxes mode box saved
  have landed : geometry view (imposed view box (w.keeping mode none)) = ⟨box.x,box.y,
      if shown view w then sent (xwayland view w) box.width else w.client.width,
      if shown view w then sent (xwayland view w) box.height else w.client.height⟩ := geometry_imposed
  rw [landed,Box.eq_iff,alike.x,alike.y]
  cases visible : shown view w with
  | false =>
      have sizes := course.unsent visible
      simp [sizes]
  | true =>
      have sizes := alike.size visible
      simp [sizes]

theorem entered_stays (on : w.saved one ≠ none) : entered w outer mode = outer := by
  apply if_neg
  intro off
  cases one with
  | maximized => exact on off.1
  | fullscreen => exact on off.2

theorem entered_new (off : ∀ one, w.saved one = none) : entered w outer mode = mode := if_pos ⟨off _,off _⟩

theorem all_off (off : w.saved mode = none) (other : w.saved mode.other = none) (one : Mode) : w.saved one = none := by
  rcases one.eq_or_other mode with rfl | rfl
  · exact off
  · exact other

-- Without a mode there is nothing to go back to.
theorem course_off (course : Course layout view home before w) (off : ∀ one, w.saved one = none) :
    Course layout view home outer w := by
  refine ⟨course.client,?_,course.unsent,?_⟩
  · intro one box saved
    simp [off one] at saved
  · intro one on
    exact absurd (off one) on

-- Only the request that leaves the last mode can go wrong.
theorem leave_restored (course : Course layout view home outer w) (saved : w.saved mode = some box) :
    Restored view home (imposed view box (w.keeping mode none)) ↔ returns layout view home (w,outer) mode := by
  have on : w.saved mode ≠ none := by simp [saved]
  cases other : w.saved mode.other with
  | none =>
      have off := all_off (w := w.keeping mode none) keeping_self (keeping_other.trans other)
      have landed := landed_exact course saved
      constructor
      · intro back _ _
        exact landed.mp (back off)
      · intro gate _
        exact landed.mpr (gate on other)
  | some held =>
      apply iff_of_true
      · intro off
        have none := keeping_other.symm.trans (off mode.other)
        simp [other] at none
      · intro _ none
        simp [other] at none

theorem course_step (course : Course layout view home outer w) (restored : Restored view home w)
    (accepted : request layout view w mode = some next) :
    Course layout view home (entered w outer mode) next ∧
      (Restored view home next ↔ returns layout view home (w,outer) mode) := by
  apply request_ensures accepted
  apply perform_ensures
  intro resize sends
  apply handleRequest_ensures sends course.client
  · intro box saved
    exact (course.boxes mode box saved).1
  · intro box saved
    have on : w.saved mode ≠ none := by simp [saved]
    rw [entered_stays on]
    exact ⟨leave_course course saved,leave_restored course saved⟩
  · intro off fits
    have gate : returns layout view home (w,outer) mode := fun on => absurd off on
    refine ⟨?_,iff_of_true ?_ gate⟩
    · cases other : w.saved mode.other with
      | none =>
          have here := restored (all_off off other)
          rw [here] at fits ⊢
          rw [entered_new (all_off off other)]
          exact enter_first course fits other
      | some held =>
          have on : w.saved mode.other ≠ none := by simp [other]
          rw [entered_stays on]
          exact enter_second course fits off on (layout.getBox _).fits
    · intro none
      have kept := keeping_self.symm.trans (none mode)
      simp at kept
  · intro off
    have gate : returns layout view home (w,outer) mode := fun on => absurd off on
    refine ⟨?_,iff_of_true restored gate⟩
    cases other : w.saved mode.other with
    | none => exact course_off course (all_off off other)
    | some held =>
        rw [entered_stays (by simp [other] : w.saved mode.other ≠ none)]
        exact course

end

def untouched (server : Server) (client : WlrBox) : Window := ⟨server,client.box,fun _ => none⟩

theorem untouched_course : Course layout view (geometry view (untouched server client)) outer
    (untouched server client) := by
  refine ⟨client.fits,?_,fun _ => ⟨rfl,rfl⟩,?_⟩
  · intro one box saved
    simp [untouched] at saved
  · intro one on
    exact absurd rfl on

-- The mode that was entered first runs beside the requests.
theorem toggles_exact (layout : Layout) (view : Nat) (server : Server) (client : WlrBox) (requests : List Mode) :
    (∀ w ∈ visited (request layout view) (untouched server client) requests,
      Restored view (geometry view (untouched server client)) w) ↔
    ∀ row ∈ taken (followed (request layout view) entered) (untouched server client,.maximized) requests,
      returns layout view (geometry view (untouched server client)) row.1 row.2 := by
  let home := geometry view (untouched server client)
  have runs : (visited (followed (request layout view) entered) (untouched server client,.maximized) requests).map
      Prod.fst = visited (request layout view) (untouched server client) requests := followed_visited
  rw [← runs,List.forall_mem_map]
  apply gate_assuming (fun pair : Window × Mode => Course layout view home pair.2 pair.1)
    (fun pair => Restored view home pair.1) (returns layout view home) fun _ _ => True
  · intro pair mode next course restored accepted
    obtain ⟨accepted,moved⟩ := followed_exact.mp accepted
    rw [← moved]
    exact (course_step course restored accepted).1
  · intro pair mode next course restored _ accepted
    obtain ⟨accepted,_⟩ := followed_exact.mp accepted
    exact (course_step course restored accepted).2
  · exact untouched_course
  · intro _
    rfl
  · intro _ _
    trivial

def singleOutput : Layout := ⟨fun _ _ => some 0,fun _ => ⟨⟨0,0,1920,1080⟩,by decide⟩⟩

-- The compositor with one mapped toplevel.
def desk : Server := (visited step start [.newXdgSurface granted 0,.map granted 0]).getLastD start

-- The modes are left in the order in which they were entered.
theorem crossed_modes_unrestored : ¬∀ layout view server client requests,
    ∀ w ∈ visited (request layout view) (untouched server client) requests,
      Restored view (geometry view (untouched server client)) w := by
  intro claimed
  have found : ∃ w ∈ visited (request singleOutput 0) (untouched desk ⟨⟨0,0,640,480⟩,by decide⟩)
      [.maximized,.fullscreen,.maximized,.fullscreen],
      (w.saved .maximized = none ∧ w.saved .fullscreen = none) ∧ geometry 0 w = ⟨0,0,1920,1080⟩ := by decide
  obtain ⟨w,member,off,wide⟩ := found
  have back := claimed _ _ _ _ _ w member fun mode => by cases mode; exacts [off.1,off.2]
  exact absurd (wide.symm.trans back) (by decide)

end Toggles

end Janetland.Tinyjl
