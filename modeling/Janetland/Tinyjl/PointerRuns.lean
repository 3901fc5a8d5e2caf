import Janetland.Tinyjl.PointerSteps

namespace Janetland.Tinyjl
open Act

-- A view is grabbed exactly while the cursor does not act on what is below it.
def Matched (hand : CursorMode × Option Nat) : Prop := hand.1 = .passthrough ↔ hand.2 = none

section
variable {s : Server}

theorem handed_matched (matched : Matched (s.cursorMode,s.grabbedView))
    (interactive : ∀ mode view, taken = some (mode,view) → mode ≠ .passthrough) : Matched (handed s taken) := by
  cases taken with
  | none => exact matched
  | some pair =>
      obtain ⟨mode,view⟩ := pair
      have other : mode ≠ .passthrough := interactive mode view rfl
      constructor
      · exact fun same => absurd same other
      · intro missing
        cases missing

theorem requestGrab_mode (found : requestGrab s answers view serial mode = some (other,owner)) : other = mode := by
  unfold requestGrab at found
  split at found
  · exact (Prod.mk.inj (Option.some.inj found)).1.symm
  · cases found

theorem pressGrab_mode (found : pressGrab s answers button = some (mode,view)) : mode ≠ .passthrough := by
  simp only [pressGrab,Option.bind_eq_bind,Option.bind_eq_some_iff] at found
  obtain ⟨under,_,wish,wants,taken⟩ := found
  have same : wish = mode := by
    split at taken
    · exact (Prod.mk.inj (Option.some.inj taken)).1
    · cases taken
  rw [← same]
  unfold wished at wants
  split at wants
  · obtain rfl := Option.some.inj wants
    simp
  · split at wants
    · obtain rfl := Option.some.inj wants
      simp
    · cases wants

theorem gripped_matched (matched : Matched (s.cursorMode,s.grabbedView)) (event : Event) :
    Matched (gripped s event).1 := by
  have asked : ∀ answers view serial mode, mode ≠ .passthrough →
      Matched (handed s (requestGrab s answers view serial mode)) := by
    intro answers view serial mode interactive
    apply handed_matched matched
    intro other owner found
    rw [requestGrab_mode found]
    exact interactive
  cases event with
  | requestMove answers view serial => exact asked answers view serial .move (by simp)
  | requestResize answers view serial edges => exact asked answers view serial .resize (by simp)
  | cursorButton answers button state =>
      unfold gripped buttoned
      cases state with
      | released => exact ⟨fun _ => rfl,fun _ => rfl⟩
      | pressed =>
          dsimp only
          split
          · exact handed_matched matched fun mode view found => pressGrab_mode found
          · exact matched
  | unmap answers view =>
      change Matched (parted s view)
      unfold parted
      split
      · exact ⟨fun _ => rfl,fun _ => rfl⟩
      · exact matched
  | _ => exact matched

end

end Janetland.Tinyjl

namespace Janetland.Tinyjl.Pointers
open Act EventRuns Strokes

structure Kept (s : Pointing) : Prop where
  composed : Keys.Composed s.session
  matched : Matched (grip s.session.server).1

-- What each input does to the hand that has the pointer.
def inputGrip (s : Pointing) : Input → (CursorMode × Option Nat) × Option (BitVec 32 × ButtonState)
  | .session input => Keys.sessionGrip s.session input
  | .button event => buttoned s.session.server (buttonAnswers s event) event.button.toNat event.state
  | _ => grip s.session.server

section
variable {s t : Pointing} {input : Input}

theorem outcome_grip (composed : Keys.Composed s.session) (outcome : Outcome s input t) :
    grip t.session.server = inputGrip s input := by
  cases outcome with
  | session quiet stepped => exact Keys.step_grip composed.1 stepped
  | motion stepped => exact step_gripped stepped
  | motionAbsolute stepped => exact step_gripped stepped
  | button allowed stepped => exact step_gripped stepped
  | axis | frame | setCursor => rfl

theorem inputGrip_matched (matched : Matched (grip s.session.server).1) : Matched (inputGrip s input).1 := by
  cases input with
  | session input =>
      cases input with
      | desktop event => exact gripped_matched matched event
      | _ => exact matched
  | button event => exact gripped_matched matched (.cursorButton (buttonAnswers s event) event.button.toNat event.state)
  | _ => exact matched

theorem step_kept (kept : Kept s) (accepted : step s input = some t) : Kept t := by
  have outcome := step_outcome accepted
  have onward : ∀ event server, Tinyjl.step s.session.server event = some server →
      Keys.Composed { s.session with server := server } := by
    intro event server stepped
    exact ⟨kept.composed.1,reaches_trans kept.composed.2 (reaches_step stepped (reaches_refl _))⟩
  constructor
  · cases outcome with
    | session quiet stepped => exact Keys.step_composed _ _ _ kept.composed stepped
    | motion stepped => exact onward _ _ stepped
    | motionAbsolute stepped => exact onward _ _ stepped
    | button allowed stepped => exact onward _ _ stepped
    | axis | frame | setCursor => exact kept.composed
  · rw [outcome_grip kept.composed outcome]
    exact inputGrip_matched kept.matched

theorem start_kept (sceneAttached : Bool) : Kept (start sceneAttached) :=
  ⟨Keys.start_composed sceneAttached,⟨fun _ => rfl,fun _ => rfl⟩⟩

theorem run_kept (sceneAttached : Bool) (inputs : List Input) :
    ∀ s ∈ visited step (start sceneAttached) inputs, Kept s := by
  apply visited_invariant Kept
  · exact fun s input t kept accepted => step_kept kept accepted
  · exact start_kept sceneAttached

theorem free_exact (kept : Kept s) : free s = s.session.server.grabbedView.isNone := by
  have matched : s.session.server.cursorMode = .passthrough ↔ s.session.server.grabbedView = none := kept.matched
  rw [Bool.eq_iff_iff,free,decide_eq_true_eq,matched,Option.isNone_iff_eq_none]

end

-- What the clients are to see of the pointer: motions where no view is grabbed, buttons
-- without Alt, and everything else.
def policy (s : Pointing) (seen : List Notice × Image) : Input → List Notice × Image
  | .motion event | .motionAbsolute event =>
    if s.session.server.grabbedView.isSome then seen
    else (seen.1 ++ motionNotices s.session.server event,motionImage event seen.2)
  | .button event => (seen.1 ++ buttonNotices s event,seen.2)
  | .axis event => (seen.1 ++ axisNotices event,seen.2)
  | .frame => (seen.1 ++ [.frame],seen.2)
  | .setCursor event => (seen.1,chosenImage event seen.2)
  | .session _ => seen

-- Each motion comes right after the surface it is on was entered at that place.
def Introduced (log : List Notice) : Prop := ∀ before rest time sx sy, log = before ++ .motion time sx sy :: rest →
  ∃ first surface, before = first ++ [.enter surface sx sy]

section
variable {s t : Pointing} {input : Input}

theorem moved_policy (kept : Kept s) (event : MotionEvent) (server : Server) :
    ((moved s event server).notices,(moved s event server).image) =
      policy s (s.notices,s.image) (.motion event) := by
  unfold moved policy
  rw [free_exact kept]
  cases s.session.server.grabbedView <;> rfl

theorem policy_followed (kept : Kept s) (accepted : step s input = some t) :
    (t.notices,t.image) = policy s (s.notices,s.image) input := by
  cases step_outcome accepted with
  | motion _ => exact moved_policy kept _ _
  | motionAbsolute _ => exact moved_policy kept _ _
  | session _ _ | button _ _ | axis | frame | setCursor => rfl

theorem introduced_append {log more : List Notice} (introduced : Introduced log) (chunk : Introduced more) :
    Introduced (log ++ more) := by
  intro before rest time sx sy split
  rcases List.append_eq_append_iff.mp split with ⟨extra,joined,tail⟩ | ⟨extra,joined,tail⟩
  · obtain ⟨first,surface,same⟩ := chunk extra rest time sx sy tail
    exact ⟨log ++ first,surface,by rw [joined,same,List.append_assoc]⟩
  · cases extra with
    | nil =>
        obtain ⟨first,surface,same⟩ := chunk [] rest time sx sy tail.symm
        simp at same
    | cons notice others =>
        obtain ⟨rfl,_⟩ := List.cons.inj tail
        exact introduced before others time sx sy joined

theorem introduced_plain {log : List Notice} (plain : ∀ time sx sy, Notice.motion time sx sy ∉ log) : Introduced log := by
  intro before rest time sx sy split
  apply absurd _ (plain time sx sy)
  rw [split]
  exact List.mem_append_right _ List.mem_cons_self

theorem motion_introduced (server : Server) (event : MotionEvent) : Introduced (motionNotices server event) := by
  unfold motionNotices
  split
  · exact introduced_plain (by simp)
  · split
    · rename_i surface _ _
      intro before rest time sx sy split
      match before with
      | [] => simp at split
      | [first] =>
          simp only [List.cons_append,List.nil_append,List.cons.injEq,Notice.motion.injEq] at split
          obtain ⟨rfl,⟨_,rfl,rfl⟩,_⟩ := split
          exact ⟨[],surface,rfl⟩
      | _ :: _ :: more => simp at split
    · exact introduced_plain (by simp)

theorem policy_introduced (seen : List Notice × Image) (introduced : Introduced seen.1) :
    Introduced (policy s seen input).1 := by
  have motion : ∀ event, Introduced (policy s seen (.motion event)).1 := by
    intro event
    change Introduced (if s.session.server.grabbedView.isSome then seen
      else (seen.1 ++ motionNotices s.session.server event,motionImage event seen.2)).1
    cases s.session.server.grabbedView with
    | some view => exact introduced
    | none => exact introduced_append introduced (motion_introduced _ event)
  cases input with
  | motion event => exact motion event
  | motionAbsolute event => exact motion event
  | button event =>
      apply introduced_append introduced
      unfold buttonNotices
      split <;> exact introduced_plain (by simp)
  | axis event =>
      apply introduced_append introduced
      unfold axisNotices
      split <;> exact introduced_plain (by simp)
  | frame => exact introduced_append introduced (introduced_plain (by simp))
  | setCursor event => exact introduced
  | session input => exact introduced

end

structure PointerTraffic (sceneAttached : Bool) (inputs : List Input) : Prop where
  -- the second machine only writes down what the policy says
  told : ∀ pair ∈ visited (followed step policy) (start sceneAttached,([],.unset)) inputs,
    (pair.1.notices,pair.1.image) = pair.2
  same : (visited (followed step policy) (start sceneAttached,([],.unset)) inputs).map Prod.fst =
    visited step (start sceneAttached) inputs
  introduced : ∀ s ∈ visited step (start sceneAttached) inputs, Introduced s.notices
  -- what is proved of the desktop's own runs holds here, too
  refined : ∀ safe : Server → Prop, (∀ events, ∀ t ∈ visited Tinyjl.step Tinyjl.start events, safe t) →
    ∀ s ∈ visited step (start sceneAttached) inputs, safe s.session.server

theorem pointer_traffic (sceneAttached : Bool) (inputs : List Input) : PointerTraffic sceneAttached inputs where
  told := by
    intro pair member
    refine (visited_invariant (fun pair => Kept pair.1 ∧ (pair.1.notices,pair.1.image) = pair.2) ?_ ?_ pair member).2
    · rintro ⟨s,seen⟩ input ⟨t,after⟩ ⟨kept,same⟩ accepted
      obtain ⟨stepped,followed⟩ := followed_exact.mp accepted
      refine ⟨step_kept kept stepped,?_⟩
      rw [policy_followed kept stepped,← followed]
      exact congrArg (policy s · input) same
    · exact ⟨start_kept sceneAttached,rfl⟩
  same := followed_visited
  introduced := by
    intro s member
    refine (visited_invariant (fun s => Kept s ∧ Introduced s.notices) ?_ ?_ s member).2
    · rintro s input t ⟨kept,introduced⟩ accepted
      refine ⟨step_kept kept accepted,?_⟩
      have followed := congrArg Prod.fst (policy_followed kept accepted)
      change t.notices = _ at followed
      rw [followed]
      exact policy_introduced _ introduced
    · exact ⟨start_kept sceneAttached,introduced_plain (by simp [start])⟩
  refined := by
    intro safe always s member
    obtain ⟨events,reached⟩ := (run_kept sceneAttached inputs s member).composed.2
    exact always events s.session.server reached

def stroke : Notice → Option (Stroke (BitVec 32))
  | .button _ button state => some ⟨button,decide (state = .pressed)⟩
  | _ => none

-- The clients see a button down exactly for each press without Alt that is still held.
def InStep (s : Pointing) : Prop :=
  Tallied (fun button : Button => button.2) (fun alt : Bool => !alt) s.held (s.notices.filterMap stroke)

-- A button comes up with Alt as it went down.
def alike (s : Pointing) : Input → Bool
  | .button event => decide (event.state = .pressed) ||
      decide (markOf (event.pointer,event.button) s.held = some (altDown s event))
  | _ => true

section
variable {s t : Pointing} {input : Input}

theorem inStep_same (held : t.held = s.held) (told : t.notices.filterMap stroke = s.notices.filterMap stroke) :
    InStep t ↔ InStep s := by
  unfold InStep
  rw [held,told]

theorem inStep_more (held : t.held = s.held) (more : t.notices = s.notices ++ notices)
    (silent : notices.filterMap stroke = []) : InStep t ↔ InStep s := by
  apply inStep_same held
  rw [more,List.filterMap_append,silent,List.append_nil]

theorem button_strokes (s : Pointing) (event : ButtonEvent) : (buttonNotices s event).filterMap stroke =
    telling (fun alt : Bool => !alt) (altDown s event) ⟨event.button,decide (event.state = .pressed)⟩ := by
  unfold buttonNotices telling
  cases altDown s event <;> rfl

theorem motion_strokes (server : Server) (event : MotionEvent) : (motionNotices server event).filterMap stroke = [] := by
  unfold motionNotices
  split
  · rfl
  · split <;> rfl

theorem moved_inStep (event : MotionEvent) (server : Server) : InStep (moved s event server) ↔ InStep s := by
  unfold moved
  cases free s with
  | false => exact inStep_same rfl rfl
  | true => exact inStep_more rfl rfl (motion_strokes _ event)

theorem clicked_inStep (inStep : InStep s) (allowed : admits s (.button event) = true) :
    InStep (clicked s event server) ↔ alike s (.button event) = true := by
  change Tallied _ _ (heldAfter s event) ((s.notices ++ buttonNotices s event).filterMap stroke) ↔
    (decide (event.state = .pressed) || decide (markOf (event.pointer,event.button) s.held = some (altDown s event))) = true
  change strikes s event = true at allowed
  unfold strikes at allowed
  rw [List.filterMap_append,button_strokes]
  unfold heldAfter
  cases state : event.state with
  | pressed => exact ⟨fun _ => rfl,fun _ => tallied_pressed inStep⟩
  | released =>
      rw [state] at allowed
      obtain ⟨mark,marked⟩ := Option.isSome_iff_exists.mp allowed
      refine (tallied_released inStep marked).trans ?_
      rw [marked]
      cases mark <;> cases altDown s event <;> simp

theorem step_inStep (inStep : InStep s) (accepted : step s input = some t) : InStep t ↔ alike s input = true := by
  have kept : (InStep t ↔ InStep s) → alike s input = true → (InStep t ↔ alike s input = true) :=
    fun same passed => iff_of_true (same.mpr inStep) passed
  cases step_outcome accepted with
  | button allowed stepped => exact clicked_inStep inStep allowed
  | session quiet stepped => exact kept (inStep_same rfl rfl) rfl
  | motion stepped => exact kept (moved_inStep _ _) rfl
  | motionAbsolute stepped => exact kept (moved_inStep _ _) rfl
  | axis =>
      refine kept (inStep_more rfl rfl ?_) rfl
      unfold axisNotices
      split <;> rfl
  | frame => exact kept (inStep_more rfl rfl rfl) rfl
  | setCursor => exact kept (inStep_same rfl rfl) rfl

end

structure ButtonTraffic (sceneAttached : Bool) (inputs : List Input) : Prop where
  -- Alt is held, or not, for the press and the release of a button alike
  exact : (∀ s ∈ visited step (start sceneAttached) inputs, InStep s) ↔
    ∀ row ∈ taken step (start sceneAttached) inputs, alike row.1 row.2 = true
  -- then no button is told to be up more often than down, nor to be down while it is up
  bounded : ∀ s ∈ visited step (start sceneAttached) inputs, InStep s → ∀ button : BitVec 32,
    0 ≤ tally button (s.notices.filterMap stroke) ∧ tally button (s.notices.filterMap stroke) ≤
      s.held.countP fun press => decide (press.1.2 = button)

theorem buttons_exact (sceneAttached : Bool) (inputs : List Input) : ButtonTraffic sceneAttached inputs where
  exact := by
    apply gate_exact (fun _ => True) InStep fun s input => alike s input = true
    · exact fun _ _ _ _ _ => trivial
    · exact fun s input t _ inStep accepted => step_inStep inStep accepted
    · trivial
    · exact tallied_empty
  bounded _ _ inStep button := tallied_bounds inStep button

-- A view is grabbed only while some button is down.
def HeldGrab (s : Pointing) : Prop := s.session.server.grabbedView.isSome = true → s.held ≠ []

def taking (s : Server) : Event → Option (CursorMode × Nat)
  | .requestMove answers id serial => requestGrab s answers id serial .move
  | .requestResize answers id serial _ => requestGrab s answers id serial .resize
  | _ => none

-- A client is given an interaction only then.
def takesHeld (s : Pointing) : Input → Bool
  | .session (.desktop event) => (taking s.session.server event).isNone || !s.held.isEmpty
  | _ => true

section
variable {s t : Pointing} {input : Input}

theorem heldGrab_same (grabbed : t.session.server.grabbedView = s.session.server.grabbedView)
    (held : t.held = s.held) (before : HeldGrab s) : HeldGrab t := by
  unfold HeldGrab
  rw [grabbed,held]
  exact before

theorem desktop_heldGrab (before : HeldGrab s) (quiet : fromPointer (.desktop event) = false)
    (grips : grip t.session.server = gripped s.session.server event) (held : t.held = s.held) :
    HeldGrab t ↔ takesHeld s (.session (.desktop event)) = true := by
  have same : t.session.server.grabbedView = (gripped s.session.server event).1.2 := congrArg (fun all => all.1.2) grips
  have asked : ∀ taken, t.session.server.grabbedView = (handed s.session.server taken).2 →
      (HeldGrab t ↔ (taken.isNone || !s.held.isEmpty) = true) := by
    intro taken grabbed
    unfold HeldGrab
    rw [grabbed,held]
    cases taken with
    | none => exact iff_of_true before rfl
    | some pair => simp [handed]
  cases event with
  | requestMove answers view serial => exact asked _ same
  | requestResize answers view serial edges => exact asked _ same
  | cursorMotion answers x y => simp [fromPointer] at quiet
  | cursorButton answers button state => simp [fromPointer] at quiet
  | unmap answers view =>
      refine iff_of_true ?_ rfl
      have left : t.session.server.grabbedView = (parted s.session.server view).2 := same
      unfold parted at left
      split at left
      · intro grabbed
        rw [left] at grabbed
        cases grabbed
      · exact heldGrab_same left held before
  | _ => exact iff_of_true (heldGrab_same same held before) rfl

theorem clicked_heldGrab (grips : grip server = buttoned s.session.server (buttonAnswers s event) button event.state) :
    HeldGrab (clicked s event server) := by
  unfold HeldGrab
  change server.grabbedView.isSome = true → heldAfter s event ≠ []
  unfold heldAfter
  cases state : event.state with
  | pressed => simp
  | released =>
      rw [state] at grips
      have free : server.grabbedView = none := congrArg (fun all => all.1.2) grips
      rw [free]
      simp

theorem step_heldGrab (kept : Kept s) (before : HeldGrab s) (accepted : step s input = some t) :
    HeldGrab t ↔ takesHeld s input = true := by
  have outcome := step_outcome accepted
  have grips := outcome_grip kept.composed outcome
  have still : grip t.session.server = grip s.session.server → t.held = s.held → HeldGrab t := by
    intro same held
    exact heldGrab_same (congrArg (fun all => all.1.2) same) held before
  cases outcome with
  | @session request next quiet stepped =>
      cases request with
      | desktop event => exact desktop_heldGrab before quiet grips rfl
      | _ => exact iff_of_true (still grips rfl) rfl
  | motion stepped => exact iff_of_true (still grips rfl) rfl
  | motionAbsolute stepped => exact iff_of_true (still grips rfl) rfl
  | button allowed stepped => exact iff_of_true (clicked_heldGrab grips) rfl
  | axis | frame | setCursor => exact iff_of_true (still rfl rfl) rfl

-- The button event that is remembered as a press is of a button that is still down.
def Recorded (s : Pointing) : Prop := ∀ serial, s.session.server.lastButtonEvent = some (serial,.pressed) →
  ∃ button, (button,false) ∈ s.held

theorem recorded_same (remembered : t.session.server.lastButtonEvent = s.session.server.lastButtonEvent)
    (held : ∀ button, (button,false) ∈ s.held → (button,false) ∈ t.held) (recorded : Recorded s) : Recorded t := by
  intro serial last
  rw [remembered] at last
  obtain ⟨button,member⟩ := recorded serial last
  exact ⟨button,held button member⟩

theorem sessionGrip_remembered (s : Keys.Session) (quiet : fromPointer request = false) :
    (Keys.sessionGrip s request).2 = s.server.lastButtonEvent := by
  cases request with
  | desktop event =>
      cases event with
      | cursorButton answers button state => simp [fromPointer] at quiet
      | _ => rfl
  | _ => rfl

theorem clicked_recorded (recorded : Recorded s) (passed : alike s (.button event) = true)
    (grips : grip server = buttoned s.session.server (buttonAnswers s event) button event.state) :
    Recorded (clicked s event server) := by
  have last : server.lastButtonEvent = (buttoned s.session.server (buttonAnswers s event) button event.state).2 :=
    congrArg Prod.snd grips
  have alt : (buttonAnswers s event).alt = altDown s event := rfl
  change (decide (event.state = .pressed) ||
    decide (markOf (event.pointer,event.button) s.held = some (altDown s event))) = true at passed
  have kept : server.lastButtonEvent = s.session.server.lastButtonEvent →
      (∀ press, press ∈ s.held → press.2 = false → press ∈ heldAfter s event) → Recorded (clicked s event server) :=
    fun same others => recorded_same same (fun button member => others (button,false) member rfl) recorded
  unfold heldAfter at kept
  cases state : event.state with
  | pressed =>
      rw [state] at last kept
      cases down : altDown s event with
      | true =>
          apply kept
          · rw [last,buttoned,alt,down]
            rfl
          · exact fun press member _ => List.mem_append_left _ member
      | false =>
          intro serial _
          refine ⟨(event.pointer,event.button),?_⟩
          change _ ∈ heldAfter s event
          unfold heldAfter
          rw [state,down]
          exact List.mem_append_right _ (List.mem_singleton.mpr rfl)
  | released =>
      rw [state] at last kept passed
      have marked : markOf (event.pointer,event.button) s.held = some (altDown s event) := by simpa using passed
      rw [buttoned,alt] at last
      cases down : altDown s event with
      | true =>
          rw [down] at last marked
          apply kept last
          intro press member plain
          apply held_released member marked
          intro same
          rw [same] at plain
          cases plain
      | false =>
          rw [down] at last
          intro serial remembered
          have other : server.lastButtonEvent = some (serial,.pressed) := remembered
          rw [last] at other
          cases other

theorem step_recorded (kept : Kept s) (recorded : Recorded s) (passed : alike s input = true)
    (accepted : step s input = some t) : Recorded t := by
  have outcome := step_outcome accepted
  have grips := outcome_grip kept.composed outcome
  have still : grip t.session.server = grip s.session.server → t.held = s.held → Recorded t :=
    fun same held => recorded_same (congrArg Prod.snd same) (fun _ member => held ▸ member) recorded
  cases outcome with
  | session quiet stepped =>
      exact recorded_same ((congrArg Prod.snd grips).trans (sessionGrip_remembered _ quiet)) (fun _ member => member) recorded
  | motion stepped => exact still grips rfl
  | motionAbsolute stepped => exact still grips rfl
  | button allowed stepped => exact clicked_recorded recorded passed grips
  | axis | frame | setCursor => exact still rfl rfl

def ofToplevel (s : Pointing) : Input → Bool
  | .session (.desktop (.requestMove _ id _)) | .session (.desktop (.requestResize _ id _ _)) =>
    !(s.session.server.surfaces id).xwayland
  | _ => false

theorem recorded_takes (recorded : Recorded s) (toplevel : ofToplevel s input = true) : takesHeld s input = true := by
  have one : ∀ answers view serial mode, (s.session.server.surfaces view).xwayland = false →
      ((requestGrab s.session.server answers view serial mode).isNone || !s.held.isEmpty) = true := by
    intro answers view serial mode kind
    cases asked : requestable s.session.server view serial with
    | false =>
        unfold requestGrab
        rw [asked]
        rfl
    | true =>
        have remembered : s.session.server.lastButtonEvent = some (serial,.pressed) := by
          simp only [requestable,kind,Bool.and_eq_true] at asked
          simpa using asked.2
        obtain ⟨button,member⟩ := recorded serial remembered
        cases same : s.held with
        | nil => simp [same] at member
        | cons press rest => simp
  unfold ofToplevel at toplevel
  split at toplevel
  · exact one _ _ _ .move (by simpa using toplevel)
  · exact one _ _ _ .resize (by simpa using toplevel)
  · cases toplevel

end

structure HeldGrabs (sceneAttached : Bool) (inputs : List Input) : Prop where
  exact : (∀ s ∈ visited step (start sceneAttached) inputs, HeldGrab s) ↔
    ∀ row ∈ taken step (start sceneAttached) inputs, takesHeld row.1 row.2 = true
  -- a toplevel has to show the serial of the last press
  toplevels : (∀ row ∈ taken step (start sceneAttached) inputs, alike row.1 row.2 = true) →
    ∀ row ∈ taken step (start sceneAttached) inputs, ofToplevel row.1 row.2 = true → takesHeld row.1 row.2 = true

theorem grabs_held (sceneAttached : Bool) (inputs : List Input) : HeldGrabs sceneAttached inputs where
  exact := by
    apply gate_exact Kept HeldGrab fun s input => takesHeld s input = true
    · exact fun s input t kept accepted => step_kept kept accepted
    · exact fun s input t kept before accepted => step_heldGrab kept before accepted
    · exact start_kept sceneAttached
    · intro grabbed
      cases grabbed
  toplevels := by
    intro passed row member toplevel
    have recorded : Kept row.1 ∧ Recorded row.1 := by
      apply visited_assuming (fun s => Kept s ∧ Recorded s) (fun s input => alike s input = true) _ _ passed _
        (taken_visited member)
      · intro s input t before passed accepted
        exact ⟨step_kept before.1 accepted,step_recorded before.1 before.2 passed accepted⟩
      · refine ⟨start_kept sceneAttached,?_⟩
        intro serial remembered
        cases remembered
    exact recorded_takes recorded.2 toplevel

end Janetland.Tinyjl.Pointers
