import Janetland.Tinyjl.Grips
import Janetland.Tinyjl.Pointers

namespace Janetland.Tinyjl.Keys
open Act

section
variable {s t : Session} {event : KeyEvent} {keyboard : Nat}

theorem server_keeps {part : Server → γ} {act : Act Server α} (kept : Keeps part act) :
    Keeps (fun s : Session => part s.server) (onServer act) := by
  intro s
  have one := kept s.server
  unfold Ensures onServer at *
  cases ran : act s.server with
  | mk result server =>
      rw [ran] at one
      cases result <;> exact one

theorem keybinding_grip (sym : BitVec 32) : Keeps (fun s : Session => grip s.server) (handleKeybinding event sym) := by
  unfold handleKeybinding
  split
  · refine keeps_bind (keeps_modify fun _ => rfl) fun _ => ?_
    exact keeps_pure true
  · split
    · apply keeps_bind
      · apply keeps_bind (keeps_lift _)
        intro _
        exact keeps_modify fun _ => rfl
      · intro _
        exact keeps_pure true
    · split
      · apply keeps_bind (server_keeps (focusNextView_through fun _ _ => focusView_grip))
        intro _
        exact keeps_pure true
      · exact keeps_pure false

theorem syms_grip (syms : List (BitVec 32)) : Keeps (fun s : Session => grip s.server) (handleSyms event syms) := by
  induction syms with
  | nil => exact keeps_pure []
  | cons sym rest ih =>
      apply keeps_bind (keybinding_grip sym)
      intro handled
      apply keeps_bind ih
      intro others
      exact keeps_pure _

theorem key_grip : Keeps (fun s : Session => grip s.server) (handleWlrKeyboardKey keyboard event) := by
  have told : ∀ notice, Keeps (fun s : Session => grip s.server) (notify notice) := fun _ => keeps_modify fun _ => rfl
  apply keeps_bind (keeps_look _)
  intro syms
  apply keeps_bind (keeps_lift _)
  intro modifiers
  apply keeps_bind
  · unfold handledSyms
    split
    · exact syms_grip _
    · exact keeps_pure _
  · intro handled
    cases handled.any id with
    | true => exact keeps_pure ()
    | false =>
        apply keeps_bind
        · exact keeps_modify fun _ => rfl
        · intro _
          exact told _

-- Only the desktop's own events change who has the pointer.
def sessionGrip (s : Session) : Input → (CursorMode × Option Nat) × Option (BitVec 32 × ButtonState)
  | .desktop event => gripped s.server event
  | _ => grip s.server

theorem step_grip (orderly : Hotplug.Orderly s.desk) (accepted : step s input = some t) :
    grip t.server = sessionGrip s input := by
  have outcome := step_outcome orderly accepted
  unfold step at accepted
  split at accepted
  · have kept : Keeps (fun s : Session => grip s.server) (perform input) → grip t.server = grip s.server := by
      intro kept
      apply ensures_leaves accepted
      exact kept s
    cases input with
    | desktop event =>
        cases outcome with
        | desktop stepped => exact step_gripped stepped
    | plug event =>
        cases outcome with
        | plug stepped => rfl
    | key keyboard event =>
        apply kept
        apply keeps_bind (keeps_read _)
        intro bound
        cases bound with
        | true => exact key_grip
        | false => exact keeps_pure ()
    | modifiers keyboard => cases outcome <;> rfl
    | signal =>
        cases outcome with
        | signal => rfl
  · cases accepted

end

end Janetland.Tinyjl.Keys

namespace Janetland.Tinyjl.Pointers
open Act EventRuns Strokes

def Pointing.desktop (s : Pointing) (server : Server) : Pointing :=
  { s with session := { s.session with server := server } }

-- What a motion tells where no view is grabbed. A buffer below no view raises.
def motionNotices (s : Server) (event : MotionEvent) : List Notice := match event.answers.nodeAt with
  | none => [.clearFocus]
  | some (_,surface) => if (viewUnder event.answers s).isSome
    then [.enter surface event.sx event.sy,.motion event.time event.sx event.sy] else []

def motionImage (event : MotionEvent) (image : Image) : Image :=
  if event.answers.nodeAt.isNone then .leftPtr else image

def free (s : Pointing) : Bool := decide (s.session.server.cursorMode = .passthrough)

def moved (s : Pointing) (event : MotionEvent) (server : Server) : Pointing := { s.desktop server with
  notices := if free s then s.notices ++ motionNotices s.session.server event else s.notices
  image := if free s then motionImage event s.image else s.image }

def buttonNotices (s : Pointing) (event : ButtonEvent) : List Notice :=
  if altDown s event then [] else [.button event.time event.button event.state]

def clicked (s : Pointing) (event : ButtonEvent) (server : Server) : Pointing := { s.desktop server with
  held := heldAfter s event
  notices := s.notices ++ buttonNotices s event }

def axisNotices (event : AxisEvent) : List Notice :=
  if event.source.toNat < 4 ∧ event.orientation.toNat < 2
  then [.axis event.time event.orientation event.delta event.deltaDiscrete event.source] else []

-- The client with the pointer chooses the image.
def chosenImage (event : SetCursorEvent) (image : Image) : Image :=
  if event.focusedClient = some event.seatClient then .surface event.surface event.hotspotX event.hotspotY else image

def buttonAnswers (s : Pointing) (event : ButtonEvent) : Answers := { event.answers with alt := altDown s event }

-- All that an input can lead to.
inductive Outcome (s : Pointing) : Input → Pointing → Prop
  | session (quiet : fromPointer input = false) (stepped : Keys.step s.session input = some next) :
      Outcome s (.session input) { s with session := next }
  | motion (stepped : Tinyjl.step s.session.server (.cursorMotion event.answers event.x event.y) = some server) :
      Outcome s (.motion event) (moved s event server)
  | motionAbsolute (stepped : Tinyjl.step s.session.server (.cursorMotion event.answers event.x event.y) = some server) :
      Outcome s (.motionAbsolute event) (moved s event server)
  | button (allowed : admits s (.button event) = true) (stepped : Tinyjl.step s.session.server
        (.cursorButton (buttonAnswers s event) event.button.toNat event.state) = some server) :
      Outcome s (.button event) (clicked s event server)
  | axis : Outcome s (.axis event) { s with notices := s.notices ++ axisNotices event }
  | frame : Outcome s .frame { s with notices := s.notices ++ [.frame] }
  | setCursor : Outcome s (.setCursor event) { s with image := chosenImage event s.image }

section
variable {s t : Pointing} {input : Input}

theorem onServer_run (act : Act Server α) (s : Pointing) :
    onServer act s = ((act s.session.server).1,s.desktop (act s.session.server).2) := by
  unfold onServer onSession on Keys.onServer
  rcases act s.session.server with ⟨result,server⟩
  rfl

def serverOf (s : Pointing) : Server := s.session.server

theorem simulates_server {act : Act Server α} {returned : α → Pointing → Prop} {raised : Pointing → Prop}
    (ended : Ensures act s.session.server (fun value server => returned value (s.desktop server))
      fun server => raised (s.desktop server)) : Simulates serverOf (onServer act) act s returned raised := by
  unfold Simulates
  unfold Ensures at ended ⊢
  rw [onServer_run]
  refine ⟨rfl,?_⟩
  rcases ran : act s.session.server with ⟨result,server⟩
  rw [ran] at ended
  cases result <;> exact ended

theorem ensures_always {act : Act σ α} {holds : σ → Prop} (always : ∀ t, holds t) :
    Ensures act u (fun _ t => holds t) holds := by
  unfold Ensures
  rcases act u with ⟨result,t⟩
  cases result with
  | ok value => exact always t
  | panic error => exact always t
  | fault kind => trivial

theorem under_ensures (answers : Answers) (server : Server) : Ensures (desktopViewAt answers) server
    (fun found t => t = server ∧ (answers.nodeAt = none ∧ found = none ∨
      ∃ node view, answers.nodeAt = some node ∧ viewUnder answers server = some view ∧ found = some (view,node.2)))
    fun t => t = server ∧ answers.nodeAt.isSome = true ∧ viewUnder answers server = none := by
  unfold desktopViewAt
  cases placed : answers.nodeAt with
  | none => exact ensures_pure _ ⟨rfl,.inl ⟨rfl,rfl⟩⟩
  | some node =>
      have under : viewUnder answers server =
          Forest.climb server.parentTree (fun tree => (server.trees tree).data) node.1 := by simp [viewUnder,placed]
      apply ensures_bind
      apply reach_ensures
      intro _
      apply ensures_bind
      apply ensures_look
      · intro view climbed
        cases top : Forest.climb server.parentTree (fun tree => (server.trees tree).data) node.1 with
        | none => simp [top,needed,panicf] at climbed
        | some other =>
            rw [top] at climbed
            obtain rfl := Res.ok.inj climbed
            exact ensures_pure _ ⟨rfl,.inr ⟨node,_,rfl,under.trans top,rfl⟩⟩
      · intro error missed
        cases top : Forest.climb server.parentTree (fun tree => (server.trees tree).data) node.1 with
        | none => exact ⟨rfl,rfl,under.trans top⟩
        | some other => simp [top,needed] at missed

-- Over a grabbed view nothing is told; elsewhere the surface below the cursor is.
theorem motion_processed (s : Pointing) (event : MotionEvent) :
    Simulates serverOf (processCursorMotion event) (Tinyjl.processCursorMotion event.answers) s
      (fun _ t => t = moved s event (serverOf t)) fun t => t = moved s event (serverOf t) := by
  have still : (serverOf s).cursorMode ≠ .passthrough → ∀ server, s.desktop server = moved s event server := by
    intro grabbed server
    have taken : free s = false := decide_eq_false grabbed
    unfold moved
    rw [taken]
    rfl
  unfold processCursorMotion Tinyjl.processCursorMotion
  apply simulates_reads Server.cursorMode
  cases mode : (serverOf s).cursorMode with
  | move =>
      apply simulates_server
      apply ensures_always
      exact still (by simp [mode])
  | resize =>
      apply simulates_bind
      apply simulates_server
      apply ensures_weaken (ensures_always (still (by simp [mode])))
      · exact fun _ server same => simulates_pure same
      · exact fun server same => same
  | passthrough =>
      have open_ : free s = true := decide_eq_true mode
      apply simulates_bind
      apply simulates_server
      apply ensures_weaken (under_ensures _ _)
      · rintro found _ ⟨rfl,⟨missing,rfl⟩ | ⟨node,view,placed,under,rfl⟩⟩
        · refine simulates_ended (t := { s with notices := s.notices ++ [.clearFocus], image := .leftPtr }) rfl rfl ?_
          unfold moved motionNotices motionImage
          rw [open_,missing]
          rfl
        · refine simulates_ended (t := { s with notices := (s.notices ++ [.enter node.2 event.sx event.sy]) ++
              [.motion event.time event.sx event.sy] }) rfl rfl ?_
          have seen : viewUnder event.answers s.session.server = some view := under
          unfold moved motionNotices motionImage
          rw [open_,placed]
          simp [seen,Pointing.desktop,serverOf]
      · rintro _ ⟨rfl,placed,lost⟩
        obtain ⟨node,found⟩ := Option.isSome_iff_exists.mp placed
        have nothing : viewUnder event.answers s.session.server = none := lost
        unfold moved motionNotices motionImage
        rw [open_,found]
        simp [nothing,Pointing.desktop,serverOf]

theorem motion_simulates (s : Pointing) (event : MotionEvent) :
    Simulates serverOf (handleCursorMotion event) (Tinyjl.handleCursorMotion event.answers event.x event.y) s
      (fun _ t => t = moved s event (serverOf t)) fun t => t = moved s event (serverOf t) := by
  apply simulates_bind
  apply simulates_server
  apply ensures_modify
  exact motion_processed _ event

theorem modifiers_run (s : Pointing) (event : ButtonEvent) : ∃ keys, modifiersOf event s = (.ok keys,s) ∧
    Keys.altHeld keys = altDown s event := by
  unfold altDown
  cases keyboard : s.session.desk.seatKeyboard with
  | none =>
      refine ⟨[],?_,rfl⟩
      unfold modifiersOf
      rw [bind_run]
      simp only [Act.read,look,keyboard]
      rfl
  | some device =>
      obtain ⟨keys,found,alt⟩ := Keys.alt_exact event.mask
      refine ⟨keys,?_,alt⟩
      unfold modifiersOf
      rw [bind_run]
      simp only [Act.read,look,keyboard,lift,found]

theorem button_simulates (s : Pointing) (event : ButtonEvent) : Simulates serverOf (perform (.button event))
    (Tinyjl.handleCursorButton (buttonAnswers s event) event.button.toNat event.state) s
      (fun _ t => t = clicked s event (serverOf t)) fun t => t = clicked s event (serverOf t) := by
  let down : Pointing := { s with held := heldAfter s event }
  obtain ⟨keys,found,alt⟩ := modifiers_run down event
  have same : altDown down event = altDown s event := rfl
  refine simulates_aside (t := down) rfl rfl ?_
  refine simulates_aside found rfl ?_
  dsimp only
  rw [alt,same]
  have told : when (!altDown s event) (notify (.button event.time event.button event.state)) down =
      (.ok (),{ down with notices := s.notices ++ buttonNotices s event }) := by
    unfold buttonNotices
    cases altDown s event with
    | true => simp [when,down]; rfl
    | false => rfl
  refine simulates_aside told rfl ?_
  apply simulates_server
  apply ensures_always
  exact fun server => rfl

theorem named_ends {returned : Unit → Pointing → Prop} {raised : Pointing → Prop}
    (known : value.toNat < keyDefCount table → returned () s) (unknown : ¬value.toNat < keyDefCount table → raised s) :
    Ends (lift (named table message value)) s returned raised := by
  unfold named
  split
  · exact unknown (by omega)
  · exact known (by omega)

theorem axis_ends (s : Pointing) (event : AxisEvent) : Ends (handleCursorAxis event) s
    (fun _ t => t = { s with notices := s.notices ++ axisNotices event })
    fun t => t = { s with notices := s.notices ++ axisNotices event } := by
  unfold axisNotices
  apply ends_bind
  apply named_ends
  · intro source
    apply ends_bind
    apply named_ends
    · intro orientation
      rw [if_pos ⟨source,orientation⟩]
      exact ends_modify rfl
    · intro unknown
      rw [if_neg fun both => unknown both.2,List.append_nil]
  · intro unknown
    rw [if_neg fun both => unknown both.1,List.append_nil]

theorem cursorMotion_step (event : MotionEvent) (server : Server) :
    Tinyjl.step server (.cursorMotion event.answers event.x event.y) =
      leaves (Tinyjl.handleCursorMotion event.answers event.x event.y server) := Keys.desktop_step rfl

theorem motion_outcome (left : leaves (handleCursorMotion event s) = some t) :
    Tinyjl.step s.session.server (.cursorMotion event.answers event.x event.y) = some t.session.server ∧
      t = moved s event t.session.server := by
  obtain ⟨same,after⟩ := simulates_leaves (motion_simulates s event)
  refine ⟨?_,after t left⟩
  rw [cursorMotion_step]
  change leaves (Tinyjl.handleCursorMotion event.answers event.x event.y (serverOf s)) = _
  rw [same,left]
  rfl

theorem step_outcome (accepted : step s input = some t) : Outcome s input t := by
  unfold step at accepted
  split at accepted
  · rename_i admitted
    cases input with
    | session input =>
        obtain ⟨quiet,allowed⟩ := Bool.and_eq_true_iff.mp admitted
        have ran : leaves (onSession (Keys.perform input) s) =
            (leaves (Keys.perform input s.session)).map fun session => { s with session := session } := by
          unfold onSession on
          rcases Keys.perform input s.session with ⟨result,session⟩
          cases result <;> rfl
        change leaves (onSession (Keys.perform input) s) = some t at accepted
        rw [ran,Option.map_eq_some_iff] at accepted
        obtain ⟨session,left,rfl⟩ := accepted
        exact .session (by simpa using quiet) ((if_pos allowed).trans left)
    | motion event =>
        obtain ⟨stepped,same⟩ := motion_outcome accepted
        rw [same]
        exact .motion stepped
    | motionAbsolute event =>
        obtain ⟨stepped,same⟩ := motion_outcome accepted
        rw [same]
        exact .motionAbsolute stepped
    | button event =>
        obtain ⟨same,after⟩ := simulates_leaves (button_simulates s event)
        have stepped : Tinyjl.step s.session.server (.cursorButton (buttonAnswers s event) event.button.toNat event.state) =
            some t.session.server := by
          rw [Keys.desktop_step rfl]
          change leaves (Tinyjl.handleCursorButton _ _ _ (serverOf s)) = _
          rw [same,accepted]
          rfl
        rw [after t accepted]
        exact .button admitted stepped
    | axis event =>
        obtain ⟨u,left,same⟩ := ends_leaves (axis_ends s event)
        obtain rfl := Option.some.inj (accepted.symm.trans left)
        rw [same]
        exact .axis
    | frame =>
        obtain rfl := Option.some.inj accepted
        exact .frame
    | setCursor event =>
        have same : t = { s with image := chosenImage event s.image } := by
          change leaves (handleSeatRequestSetCursor event s) = some t at accepted
          unfold handleSeatRequestSetCursor at accepted
          unfold chosenImage
          by_cases own : event.focusedClient = some event.seatClient
          · rw [decide_eq_true own] at accepted
            rw [if_pos own]
            exact (Option.some.inj accepted).symm
          · rw [decide_eq_false own] at accepted
            rw [if_neg own]
            exact (Option.some.inj accepted).symm
        rw [same]
        exact .setCursor
  · cases accepted

end

end Janetland.Tinyjl.Pointers
