import Janetland.Tinyjl.Grabs

namespace Janetland.Tinyjl
open Act

-- Who has the pointer, and which button event the handlers remember.
def grip (s : Server) : (CursorMode × Option Nat) × Option (BitVec 32 × ButtonState) :=
  ((s.cursorMode,s.grabbedView),s.lastButtonEvent)

-- begin-interactive takes the pointer for the view that has its focus.
def seizes (answers : Answers) (s : Server) (view : Nat) : Bool :=
  decide (answers.pointerFocus.map answers.rootSurface = some (ownSurface s view))

def wished (button : Nat) : Option CursorMode :=
  if button = 272 then some .move else if button = 273 then some .resize else none

def pressGrab (s : Server) (answers : Answers) (button : Nat) : Option (CursorMode × Nat) := do
  let view ← viewUnder answers s
  let mode ← wished button
  if seizes answers s view then some (mode,view) else none

def handed (s : Server) : Option (CursorMode × Nat) → CursorMode × Option Nat
  | some (mode,view) => (mode,some view)
  | none => (s.cursorMode,s.grabbedView)

def requestGrab (s : Server) (answers : Answers) (view : Nat) (serial : BitVec 32) (mode : CursorMode) :
    Option (CursorMode × Nat) :=
  if requestable s view serial && seizes answers s view then some (mode,view) else none

-- With Alt a press may begin an interaction, and the button event is not remembered.
def buttoned (s : Server) (answers : Answers) (button : Nat) :
    ButtonState → (CursorMode × Option Nat) × Option (BitVec 32 × ButtonState)
  | .pressed => if answers.alt then (handed s (pressGrab s answers button),s.lastButtonEvent)
    else ((s.cursorMode,s.grabbedView),some (answers.serial,.pressed))
  | .released => ((.passthrough,none),if answers.alt then s.lastButtonEvent else some (answers.serial,.released))

def parted (s : Server) (view : Nat) : CursorMode × Option Nat :=
  if (s.surfaces view).bound && decide (s.grabbedView = some view) then (.passthrough,none)
  else (s.cursorMode,s.grabbedView)

-- What each event does to it, also when its handler raises.
def gripped (s : Server) : Event → (CursorMode × Option Nat) × Option (BitVec 32 × ButtonState)
  | .requestMove answers id serial => (handed s (requestGrab s answers id serial .move),s.lastButtonEvent)
  | .requestResize answers id serial _ => (handed s (requestGrab s answers id serial .resize),s.lastButtonEvent)
  | .cursorButton answers button state => buttoned s answers button state
  | .unmap _ id => (parted s id,s.lastButtonEvent)
  | _ => grip s

section
variable {s t : Server} {answers : Answers} {view id : Nat}

theorem focusView_grip : Keeps grip (focusView answers view surface) := by
  apply keeps_bind (keeps_read _)
  intro prevSurface
  split
  · exact keeps_pure ()
  · apply keeps_bind (keeps_when (keeps_lift _))
    intro _
    apply keeps_bind (keeps_look _)
    intro sceneTree
    apply keeps_bind reach_keeps
    intro _
    apply keeps_bind
    · apply keeps_modify
      intro s
      split <;> rfl
    intro _
    apply keeps_bind (keeps_read _)
    intro wlrSurface
    apply keeps_when
    apply keeps_bind (keeps_lift _)
    intro wlrSurface
    exact keeps_when (keeps_modify fun _ => rfl)

theorem recordGrab_grip : Keeps grip (recordGrab answers view edges mode) := by
  cases mode with
  | passthrough => exact keeps_pure ()
  | move =>
      refine keeps_bind (keeps_modify fun _ => rfl) fun _ => ?_
      exact keeps_modify fun _ => rfl
  | resize =>
      apply keeps_bind (keeps_look _)
      intro geoBox
      refine keeps_bind (keeps_modify fun _ => rfl) fun _ => ?_
      refine keeps_bind (keeps_modify fun _ => rfl) fun _ => ?_
      apply keeps_bind (keeps_look _)
      intro x
      apply keeps_bind (keeps_look _)
      intro y
      refine keeps_bind (keeps_modify fun _ => rfl) fun _ => ?_
      exact keeps_modify fun _ => rfl

-- The view and the mode are put first, so that an error after them leaves them there.
theorem begin_gripped : Ensures (beginInteractive answers (some view) mode edges) s
    (fun _ t => grip t = (handed s (if seizes answers s view then some (mode,view) else none),s.lastButtonEvent))
    fun t => grip t = (handed s (if seizes answers s view then some (mode,view) else none),s.lastButtonEvent) := by
  apply begin_ensures
  · intro apart
    rw [seizes,decide_eq_false apart]
    rfl
  · intro matched
    rw [seizes,decide_eq_true matched]
    exact recordGrab_grip _

-- The request of a client for an interaction begins one or changes nothing.
theorem request_ensures {holds : Server → Prop} (refused : requestable s view serial = false → holds s)
    (begun : requestable s view serial = true →
      Ensures (beginInteractive answers (some view) mode edges) s (fun _ t => holds t) holds) :
    Ensures (listened view (byKind view (handleXdgToplevelRequest mode answers view serial edges)
      (handleXwaylandSurfaceRequest mode answers view edges))) s (fun _ t => holds t) holds := by
  apply listened_ensures
  · intro bound
    apply ensures_bind
    apply ensures_read
    cases kind : (s.surfaces view).xwayland with
    | true =>
        have asked : requestable s view serial = (s.surfaces view).mapped := by simp [requestable,bound,kind]
        apply ensures_bind
        apply ensures_read
        apply when_ensures
        · exact fun mapped => begun (asked.trans mapped)
        · exact fun hidden => refused (asked.trans hidden)
    | false =>
        have asked : requestable s view serial = decide (s.lastButtonEvent = some (serial,.pressed)) := by
          simp [requestable,bound,kind]
        apply ensures_bind
        apply ensures_read
        cases last : s.lastButtonEvent with
        | none =>
            apply refused
            rw [asked,last]
            rfl
        | some pair =>
            have both : requestable s view serial = (decide (pair.1 = serial) && decide (pair.2 = .pressed)) := by
              rw [asked,last,← Bool.decide_and]
              exact decide_eq_decide.mpr (by simp [Prod.ext_iff])
            apply when_ensures
            · exact fun matched => begun (both.trans matched)
            · exact fun apart => refused (both.trans apart)
  · intro unbound
    exact refused (by simp [requestable,unbound])

theorem request_gripped : Ensures (listened view (byKind view (handleXdgToplevelRequest mode answers view serial edges)
      (handleXwaylandSurfaceRequest mode answers view edges))) s
    (fun _ t => grip t = (handed s (requestGrab s answers view serial mode),s.lastButtonEvent))
    fun t => grip t = (handed s (requestGrab s answers view serial mode),s.lastButtonEvent) := by
  apply request_ensures
  · intro free
    rw [requestGrab,free]
    rfl
  · intro asked
    rw [requestGrab,asked]
    exact begin_gripped

theorem button_gripped : Ensures (handleCursorButton answers button state) s
    (fun _ t => grip t = buttoned s answers button state) fun t => grip t = buttoned s answers button state := by
  cases state with
  | released =>
      unfold handleCursorButton buttoned
      cases answers.alt with
      | true => exact ensures_bind (ensures_modify (ensures_modify rfl))
      | false => exact ensures_bind (ensures_modify (ensures_bind (ensures_modify (ensures_modify rfl))))
  | pressed =>
      unfold handleCursorButton buttoned
      cases answers.alt with
      | false =>
          have rest : Keeps grip (focusViewAt answers) := focusViewAt_through fun _ _ => focusView_grip
          apply ensures_bind
          apply ensures_modify
          exact rest _
      | true =>
          have missed : viewUnder answers s = none → grip s = (handed s (pressGrab s answers button),s.lastButtonEvent) := by
            intro under
            unfold pressGrab
            rw [under]
            rfl
          have nothing : ∀ mode edges, viewUnder answers s = none → Ensures (beginInteractive answers none mode edges) s
              (fun _ t => grip t = (handed s (pressGrab s answers button),s.lastButtonEvent))
              fun t => grip t = (handed s (pressGrab s answers button),s.lastButtonEvent) :=
            fun mode edges under => missed under
          apply ensures_bind
          apply desktopViewAt_ensures
          · intro under
            split
            · exact nothing _ _ under
            · split
              · exact nothing _ _ under
              · exact missed under
          · exact missed
          · intro view surface under
            have mode : pressGrab s answers button = (wished button).bind fun mode =>
                if seizes answers s view then some (mode,view) else none := by
              unfold pressGrab
              rw [under]
              rfl
            simp only [if_true,mode,wished]
            split
            · exact begin_gripped
            · split
              · exact begin_gripped
              · rfl

theorem unmap_gripped : Ensures (perform (.unmap answers view)) s
    (fun _ t => grip t = (parted s view,s.lastButtonEvent)) fun t => grip t = (parted s view,s.lastButtonEvent) := by
  have rest : Keeps grip (focusLastView answers) := focusLastView_through fun _ _ => focusView_grip
  unfold parted
  apply ensures_bind
  apply ensures_modify
  have bound : ((s.setSurface view fun surface => { surface with mapped := false }).surfaces view).bound =
      (s.surfaces view).bound := by simp [Server.setSurface]
  apply listened_ensures
  · intro listening
    rw [bound] at listening
    rw [listening]
    apply ensures_bind
    apply ensures_read
    apply ensures_bind
    apply when_ensures
    · intro matched
      have own : decide (s.grabbedView = some view) = true := matched
      rw [own]
      apply ensures_bind
      apply ensures_modify
      apply ensures_modify
      apply ensures_bind
      apply ensures_modify
      exact rest _
    · intro apart
      have other : decide (s.grabbedView = some view) = false := apart
      rw [other]
      apply ensures_bind
      apply ensures_modify
      exact rest _
  · intro silent
    rw [bound] at silent
    rw [silent]
    rfl

theorem putIntoScene_grip : Keeps grip (putIntoScene answers view) := by
  have grown : ∀ parent content, Keeps grip (grow parent content) := fun _ _ _ => rfl
  apply keeps_bind (keeps_look _)
  intro parentTree
  apply keeps_bind
  · apply keeps_bind (keeps_read _)
    intro data
    apply keeps_bind
    · cases data with
      | some tree => exact keeps_pure tree
      | none =>
          apply keeps_bind reach_keeps
          intro _
          split
          · exact grown _ _
          · exact keeps_lift _
    intro tree
    apply keeps_bind
    · apply keeps_bind reach_keeps
      intro _
      split
      · exact grown _ _
      · exact keeps_lift _
    intro surfaceTree
    refine keeps_bind (keeps_when (keeps_modify fun _ => rfl)) fun _ => ?_
    exact keeps_pure _
  intro made
  refine keeps_bind (keeps_modify fun _ => rfl) fun _ => ?_
  refine keeps_bind (keeps_modify fun _ => rfl) fun _ => ?_
  refine keeps_bind (keeps_modify fun _ => rfl) fun _ => ?_
  exact keeps_modify fun _ => rfl

theorem map_grip : Keeps grip (perform (.map answers view)) := by
  refine keeps_bind (keeps_modify fun _ => rfl) fun _ => ?_
  apply listened_keeps
  refine keeps_bind (keeps_modify fun _ => rfl) fun _ => ?_
  apply keeps_bind (keeps_read _)
  intro xwayland
  apply keeps_bind (keeps_when putIntoScene_grip)
  intro _
  apply keeps_bind (keeps_read _)
  intro skipped
  refine keeps_bind (keeps_when (keeps_modify fun _ => rfl)) fun _ => ?_
  apply keeps_when
  apply keeps_bind (keeps_read _)
  intro wlrSurface
  exact focusView_grip

theorem newXdgSurface_grip : Keeps grip (perform (.newXdgSurface answers view)) := by
  refine keeps_bind (keeps_modify fun _ => rfl) fun _ => ?_
  apply keeps_bind
  · apply keeps_bind reach_keeps
    intro _
    split
    · exact fun _ => rfl
    · exact keeps_lift _
  intro sceneTree
  refine keeps_bind (keeps_modify fun _ => rfl) fun _ => ?_
  refine keeps_bind (keeps_modify fun _ => rfl) fun _ => ?_
  refine keeps_bind (keeps_modify fun _ => rfl) fun _ => ?_
  exact keeps_modify fun _ => rfl

theorem destroySurface_grip : Keeps grip (destroySurface view) := by
  apply keeps_bind (keeps_read _)
  intro tree
  apply keeps_bind
  · cases tree with
    | none => exact keeps_pure ()
    | some root =>
        apply keeps_bind reach_keeps
        intro _
        exact keeps_modify fun _ => rfl
  intro _
  exact keeps_modify fun _ => rfl

theorem cursorMove_grip : Keeps grip processCursorMove := by
  apply keeps_bind (keeps_look _)
  intro grabX
  apply keeps_bind (keeps_look _)
  intro view
  refine keeps_bind (keeps_modify fun _ => rfl) fun _ => ?_
  apply keeps_bind (keeps_look _)
  intro grabY
  refine keeps_bind (keeps_modify fun _ => rfl) fun _ => ?_
  apply keeps_bind (keeps_read _)
  intro table
  apply keeps_bind setPosition_keeps
  intro _
  apply keeps_bind (keeps_read _)
  intro xwayland
  apply keeps_when
  apply keeps_bind (keeps_look _)
  intro surface
  exact keeps_pure ()

theorem cursorResize_grip : Keeps grip (processCursorResize answers) := by
  apply keeps_bind (keeps_look _)
  intro view
  apply keeps_bind (keeps_look _)
  intro borderX
  apply keeps_bind (keeps_look _)
  intro borderY
  apply keeps_bind (keeps_look _)
  intro geobox
  apply keeps_bind (keeps_look _)
  intro edges
  apply keeps_bind (keeps_look _)
  intro geoBox
  refine keeps_bind (keeps_modify fun _ => rfl) fun _ => ?_
  refine keeps_bind (keeps_modify fun _ => rfl) fun _ => ?_
  apply keeps_bind (keeps_read _)
  intro table
  apply keeps_bind setPosition_keeps
  intro _
  apply keeps_bind (keeps_read _)
  intro xwayland
  exact keeps_lift _

theorem cursorMotion_grip : Keeps grip (handleCursorMotion answers x y) := by
  refine keeps_bind (keeps_modify fun _ => rfl) fun _ => ?_
  apply keeps_bind (keeps_read _)
  intro mode
  cases mode with
  | passthrough =>
      apply keeps_bind desktopViewAt_keeps
      intro _
      exact keeps_pure ()
  | move => exact cursorMove_grip
  | resize =>
      apply keeps_bind cursorResize_grip
      intro _
      exact keeps_pure ()

theorem perform_gripped : Ensures (perform event) s (fun _ t => grip t = gripped s event)
    fun t => grip t = gripped s event := by
  cases event with
  | requestMove answers view serial => exact request_gripped
  | requestResize answers view serial edges => exact request_gripped
  | cursorButton answers button state => exact button_gripped
  | unmap answers view => exact unmap_gripped
  | map answers view => exact map_grip s
  | newXdgSurface answers view => exact newXdgSurface_grip s
  | destroy view => exact destroySurface_grip s
  | cursorMotion answers x y => exact cursorMotion_grip s
  | keyF1 answers => exact focusNextView_through (fun _ _ => focusView_grip) s
  | newXwaylandSurface view wantsFocus => rfl
  | setParent view parent => rfl
  | setWantsFocus view wantsFocus => rfl
  | modifiers => rfl
  | keyboardFocus surface => rfl

theorem step_gripped (accepted : step s event = some t) : grip t = gripped s event := by
  apply step_ensures accepted
  intro _
  exact perform_gripped

end

end Janetland.Tinyjl
