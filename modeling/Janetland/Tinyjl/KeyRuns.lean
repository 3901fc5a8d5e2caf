import Janetland.Tinyjl.Keys

namespace Janetland.Tinyjl.Keys
open Act EventRuns

def bindable (sym : BitVec 32) : Bool := decide (sym ∈ [xkbKeyEscape,xkbKeyReturn,xkbKeyF1])

-- The keysyms of a key, under the number that xkb has for it.
def symsOf (event : KeyEvent) : List (BitVec 32) := event.syms (event.keycode + 8)

-- A key that is pressed with Alt and has a binding is the compositor's own.
def withheld (event : KeyEvent) : Bool :=
  decide (event.mask &&& 8 ≠ 0) && decide (event.state = .pressed) && (symsOf event).any bindable

-- The server stops for Escape only.
def StopsFor (syms : List (BitVec 32)) (s t : Session) : Prop :=
  t.running = false → s.running = false ∨ xkbKeyEscape ∈ syms

-- What a binding may do: press F1 on the desktop, start a program, or stop the server.
def Bound (s t : Session) : Prop := ∃ server running spawned,
  t = { s with server := server, running := running, spawned := spawned } ∧
    Reaches Tinyjl.step s.server server ∧ (running = true → s.running = true)

def told (s : Session) (keyboard : Nat) (notice : Notice) : Session := { s with
  desk := { s.desk with seatKeyboard := some keyboard }
  notices := s.notices ++ [notice] }

-- All that an input can lead to.
inductive Outcome (s : Session) : Input → Session → Prop
  | desktop (stepped : Tinyjl.step s.server event = some server) : Outcome s (.desktop event) { s with server := server }
  | plug (stepped : Hotplug.step s.desk event = some desk) : Outcome s (.plug event) { s with desk := desk }
  | consumed (listed : keyboard ∈ s.desk.keyboards) (own : withheld event = true) (bound : Bound s t)
      (stops : StopsFor (symsOf event) s t) : Outcome s (.key keyboard event) t
  | forwarded (listed : keyboard ∈ s.desk.keyboards) (free : withheld event = false) :
      Outcome s (.key keyboard event) (told s keyboard (.key keyboard event.time event.keycode event.state))
  | modifiers (listed : keyboard ∈ s.desk.keyboards) :
      Outcome s (.modifiers keyboard) (told s keyboard (.modifiers keyboard))
  | unheardKey (missing : keyboard ∉ s.desk.keyboards) : Outcome s (.key keyboard event) s
  | unheardModifiers (missing : keyboard ∉ s.desk.keyboards) : Outcome s (.modifiers keyboard) s
  | signal : Outcome s .signal { s with running := false }

section
variable {s t : Session} {event : KeyEvent} {keyboard : Nat} {input : Input}

theorem lookedUp_exact (keycode : BitVec 32) : lookedUp keycode = keycode + 8 := by
  apply BitVec.eq_of_toNat_eq
  simp [lookedUp,BitVec.toNat_add]

def modifierRows : List (String × BitVec 32) := flagRows wlrKeyboardModifierDefs

theorem modifier_table : modifierRows.map (fun row => keyDef row.1 row.2.toInt) ++ [.null] = wlrKeyboardModifierDefs := by
  decide

theorem alt_exact (mask : BitVec 32) : ∃ keys, jlGetFlagKeys mask wlrKeyboardModifierDefs = .ok keys ∧
    altHeld keys = decide (mask &&& 8 ≠ 0) := by
  have read := FlagDefs.flagKeys_rows mask modifierRows
  rw [modifier_table] at read
  refine ⟨_,read,?_⟩
  have alone : ∀ row ∈ modifierRows, isKeyword "alt" (.keyword row.1) = true ↔ row.2 = 8 := by decide
  have known : ("alt",8) ∈ modifierRows := by decide
  rw [Bool.eq_iff_iff,decide_eq_true_eq]
  simp only [altHeld,FlagTables.decode,List.map_map,List.any_map,List.any_eq_true,List.mem_filter,decide_eq_true_eq]
  constructor
  · rintro ⟨row,⟨member,meets⟩,named⟩
    rwa [(alone row member).mp named] at meets
  · intro meets
    exact ⟨("alt",8),⟨known,meets⟩,rfl⟩

theorem bound_refl (s : Session) : Bound s s := ⟨s.server,s.running,s.spawned,rfl,reaches_refl _,id⟩

theorem bound_trans (first : Bound s t) (second : Bound t u) : Bound s u := by
  obtain ⟨_,_,_,rfl,moved,stays⟩ := first
  obtain ⟨server,running,spawned,rfl,onward,still⟩ := second
  exact ⟨server,running,spawned,rfl,reaches_trans moved onward,stays ∘ still⟩

theorem ensures_server {act : Act Server α} {returned : α → Server → Prop} {raised : Server → Prop}
    (ran : Ensures act s.server returned raised) : Ensures (onServer act) s
      (fun value t => ∃ server, t = { s with server := server } ∧ returned value server)
      fun t => ∃ server, t = { s with server := server } ∧ raised server := by
  unfold Ensures onServer at *
  cases same : act s.server with
  | mk result server =>
      rw [same] at ran
      cases result with
      | ok value => exact ⟨server,rfl,ran⟩
      | panic error => exact ⟨server,rfl,ran⟩
      | fault kind => trivial

theorem desktop_step {change : Event} (admitted : Tinyjl.admits server change = true) :
    Tinyjl.step server change = leaves (Tinyjl.perform change server) := by
  rw [Tinyjl.step,if_pos admitted]
  rcases Tinyjl.perform change server with ⟨result,t⟩
  cases result <;> rfl

-- F1 is a key press of the desktop's own machine, also when it raises.
theorem f1_reaches (answers : Answers) (server : Server) : Ensures (focusNextView answers) server
    (fun _ t => Reaches Tinyjl.step server t) (Reaches Tinyjl.step server) := by
  have pressed : Tinyjl.step server (.keyF1 answers) = leaves (focusNextView answers server) := desktop_step rfl
  unfold Ensures
  cases ran : focusNextView answers server with
  | mk result t =>
      rw [ran] at pressed
      cases result with
      | ok value => exact reaches_step pressed (reaches_refl t)
      | panic error => exact reaches_step pressed (reaches_refl t)
      | fault kind => trivial

theorem keybinding_ensures (s : Session) (sym : BitVec 32) : Ensures (handleKeybinding event sym) s
    (fun handled t => handled = bindable sym ∧ Bound s t ∧ (bindable sym = false → t = s) ∧
      t.running = (s.running && !decide (sym = xkbKeyEscape)))
    fun t => bindable sym = true ∧ Bound s t ∧ t.running = s.running := by
  unfold handleKeybinding
  split
  · rename_i escape
    subst escape
    exact ensures_bind (ensures_modify ⟨rfl,⟨s.server,false,s.spawned,rfl,reaches_refl _,nofun⟩,nofun,by simp⟩)
  · rename_i other
    have going : s.running = (s.running && !decide (sym = xkbKeyEscape)) := by simp [other]
    split
    · rename_i enter
      have known : bindable sym = true := by
        rw [enter]
        rfl
      refine ensures_bind (ensures_bind (ensures_lift (fun _ _ => ?_) ⟨known,bound_refl s,rfl⟩))
      exact ensures_modify ⟨known.symm,⟨s.server,s.running,s.spawned + 1,rfl,reaches_refl _,id⟩,by simp [known],going⟩
    · rename_i unentered
      split
      · rename_i f1
        have known : bindable sym = true := by
          rw [f1]
          rfl
        refine ensures_bind (ensures_weaken (ensures_server (f1_reaches event.answers s.server)) ?_ ?_)
        · rintro _ t ⟨server,rfl,moved⟩
          exact ensures_pure _ ⟨known.symm,⟨server,s.running,s.spawned,rfl,moved,id⟩,by simp [known],going⟩
        · rintro t ⟨server,rfl,moved⟩
          exact ⟨known,⟨server,s.running,s.spawned,rfl,moved,id⟩,rfl⟩
      · rename_i free
        exact ensures_pure _ ⟨by simp [bindable,other,unentered,free],bound_refl s,fun _ => rfl,going⟩

-- Induction over the keysyms. One that raises is a binding, so nothing is forwarded then.
theorem syms_ensures (s : Session) (syms : List (BitVec 32)) : Ensures (handleSyms event syms) s
    (fun handled t => handled = syms.map bindable ∧ Bound s t ∧ (syms.any bindable = false → t = s) ∧
      t.running = (s.running && !decide (xkbKeyEscape ∈ syms)))
    fun t => syms.any bindable = true ∧ Bound s t ∧ StopsFor syms s t := by
  induction syms generalizing s with
  | nil => exact ensures_pure _ ⟨rfl,bound_refl s,fun _ => rfl,by simp⟩
  | cons sym rest ih =>
      refine ensures_bind (ensures_weaken (keybinding_ensures s sym) ?_ ?_)
      · rintro _ t ⟨rfl,first,unmoved,stopped⟩
        refine ensures_bind (ensures_weaken (ih t) ?_ ?_)
        · rintro _ u ⟨rfl,others,resting,last⟩
          refine ensures_pure _ ⟨rfl,bound_trans first others,?_,?_⟩
          · intro free
            obtain ⟨one,more⟩ := Bool.or_eq_false_iff.mp free
            rw [resting more,unmoved one]
          · rw [last,stopped]
            by_cases escape : sym = xkbKeyEscape
            · simp [escape]
            · simp [escape,Ne.symm escape]
        · rintro u ⟨known,others,stops⟩
          refine ⟨by simp [known],bound_trans first others,fun off => ?_⟩
          rcases stops off with before | later
          · rw [stopped] at before
            by_cases escape : sym = xkbKeyEscape
            · exact .inr (by simp [escape])
            · exact .inl (by simpa [escape] using before)
          · exact .inr (List.mem_cons_of_mem _ later)
      · rintro t ⟨known,first,same⟩
        exact ⟨by simp [known],first,fun off => .inl (same ▸ off)⟩

theorem syms_exact : xkbStateKeyGetSyms keyboard event s =
    (if Hotplug.xkbState s.desk keyboard then .ok (symsOf event) else .fault .nullDeref,s) := by
  unfold xkbStateKeyGetSyms look symsOf
  rw [lookedUp_exact]

theorem syms_found {raised : Session → Prop} : Ensures (xkbStateKeyGetSyms keyboard event) s
    (fun syms t => syms = symsOf event ∧ t = s) raised := by
  unfold Ensures
  rw [syms_exact]
  cases Hotplug.xkbState s.desk keyboard with
  | true => exact ⟨rfl,rfl⟩
  | false => trivial

theorem handled_ensures (s : Session) (event : KeyEvent) (modifiers : List Janet)
    (alt : altHeld modifiers = decide (event.mask &&& 8 ≠ 0)) : Ensures (handledSyms event (symsOf event) modifiers) s
      (fun handled t => handled.any id = withheld event ∧ Bound s t ∧ (withheld event = false → t = s) ∧
        t.running = (s.running && !(withheld event && decide (xkbKeyEscape ∈ symsOf event))))
      fun t => withheld event = true ∧ Bound s t ∧ StopsFor (symsOf event) s t := by
  unfold handledSyms
  rw [alt]
  split
  · rename_i pressed
    have own : withheld event = (symsOf event).any bindable := by
      rw [withheld,pressed]
      rfl
    refine ensures_weaken (syms_ensures s _) ?_ ?_
    · rintro _ t ⟨rfl,bound,unmoved,stopped⟩
      refine ⟨by rw [own,List.any_map]; rfl,bound,by rwa [own],?_⟩
      rw [stopped,own]
      generalize symsOf event = syms
      by_cases escape : xkbKeyEscape ∈ syms
      · have known : syms.any bindable = true := List.any_eq_true.mpr ⟨_,escape,rfl⟩
        simp [escape,known]
      · simp [escape]
    · rintro t ⟨known,bound,stops⟩
      exact ⟨own.trans known,bound,stops⟩
  · rename_i free
    have open_ : withheld event = false := by
      rw [withheld,Bool.eq_false_iff.mpr free]
      rfl
    refine ensures_pure _ ⟨?_,bound_refl s,fun _ => rfl,by simp [open_]⟩
    rw [open_]
    simp

theorem returned_stops (running : t.running = (s.running && !decide (xkbKeyEscape ∈ syms))) : StopsFor syms s t := by
  intro off
  rw [running] at off
  by_cases escape : xkbKeyEscape ∈ syms
  · exact .inr escape
  · exact .inl (by simpa [escape] using off)

-- What becomes of a key that a bound listener hears.
theorem key_ensures (s : Session) (keyboard : Nat) (event : KeyEvent) :
    Ensures (handleWlrKeyboardKey keyboard event) s
      (fun _ t => if withheld event = true then Bound s t ∧
          t.running = (s.running && !decide (xkbKeyEscape ∈ symsOf event))
        else t = told s keyboard (.key keyboard event.time event.keycode event.state))
      fun t => withheld event = true ∧ Bound s t ∧ StopsFor (symsOf event) s t := by
  obtain ⟨keys,read,alt⟩ := alt_exact event.mask
  unfold handleWlrKeyboardKey
  rw [read]
  refine ensures_bind (ensures_mono syms_found ?_)
  rintro _ _ ⟨rfl,rfl⟩
  refine ensures_bind (ensures_bind (ensures_weaken (handled_ensures _ event keys alt) ?_ fun _ => id))
  rintro handled t ⟨any,bound,unmoved,stopped⟩
  rw [any]
  cases own : withheld event with
  | true =>
      rw [own] at stopped
      exact ⟨bound,by simpa using stopped⟩
  | false =>
      obtain rfl := unmoved own
      rfl

-- Without an xkb_state the handler is undefined, whatever the key.
theorem stateless_key (stateless : Hotplug.xkbState s.desk keyboard = false) :
    handleWlrKeyboardKey keyboard event s = (.fault .nullDeref,s) := by
  unfold handleWlrKeyboardKey
  rw [bind_run,syms_exact,stateless]
  rfl

theorem unbound_sym (free : bindable sym = false) : handleKeybinding event sym s = (.ok false,s) := by
  have apart : sym ≠ xkbKeyEscape ∧ sym ≠ xkbKeyReturn ∧ sym ≠ xkbKeyF1 := by simpa [bindable] using free
  rw [handleKeybinding,if_neg apart.1,if_neg apart.2.1,if_neg apart.2.2]
  rfl

theorem unbound_syms (free : List.any syms bindable = false) :
    handleSyms event syms s = (.ok (syms.map fun _ => false),s) := by
  induction syms with
  | nil => rfl
  | cons sym rest ih =>
      obtain ⟨first,others⟩ := Bool.or_eq_false_iff.mp free
      rw [handleSyms,bind_run,unbound_sym first]
      change (handleSyms event rest >>= fun others => return false :: others) s = _
      rw [bind_run,ih others]
      rfl

theorem free_handled (free : withheld event = false) (alt : altHeld modifiers = decide (event.mask &&& 8 ≠ 0)) :
    handledSyms event (symsOf event) modifiers s = (.ok ((symsOf event).map fun _ => false),s) := by
  unfold handledSyms
  split
  · rename_i pressed
    rw [alt] at pressed
    rw [withheld,pressed,Bool.true_and] at free
    exact unbound_syms free
  · rfl

-- A key that is free is told at once.
theorem free_key (state : Hotplug.xkbState s.desk keyboard = true) (free : withheld event = false) :
    handleWlrKeyboardKey keyboard event s =
      (.ok (),told s keyboard (.key keyboard event.time event.keycode event.state)) := by
  obtain ⟨keys,read,alt⟩ := alt_exact event.mask
  unfold handleWlrKeyboardKey
  rw [bind_run,syms_exact,state,read]
  change (handledSyms event (symsOf event) keys >>= _) s = _
  rw [bind_run,free_handled free alt]
  have none : ((symsOf event).map fun _ => false).any id = false := by simp
  simp only [none]
  rfl

theorem heard_exact (orderly : Hotplug.Orderly s.desk) (listener : Hotplug.KeyboardListener) :
    s.desk.keyboardBound.contains (keyboard,listener) = true ↔ keyboard ∈ s.desk.keyboards := by
  rw [List.contains_iff_mem,Rosters.exact_member orderly.bound]
  cases listener <;> simp [Hotplug.keyboardListeners]

theorem heard_ensures {returned : Unit → Session → Prop} {raised : Session → Prop}
    (orderly : Hotplug.Orderly s.desk)
    (handled : keyboard ∈ s.desk.keyboards → Ensures handler s returned raised)
    (unheard : keyboard ∉ s.desk.keyboards → returned () s) :
    Ensures (heard keyboard listener handler) s returned raised := by
  refine ensures_bind (ensures_read ?_)
  by_cases listed : keyboard ∈ s.desk.keyboards
  · rw [(heard_exact orderly listener).mpr listed]
    exact handled listed
  · rw [Bool.eq_false_iff.mpr fun bound => listed ((heard_exact orderly listener).mp bound)]
    exact unheard listed

theorem leaves_server (act : Act Server Unit) : leaves (onServer act s) =
    (leaves (act s.server)).map fun server => { s with server := server } := by
  unfold onServer
  rcases act s.server with ⟨result,server⟩
  cases result <;> rfl

theorem leaves_desk (act : Act Hotplug.Desk Unit) : leaves (onDesk act s) =
    (leaves (act s.desk)).map fun desk => { s with desk := desk } := by
  unfold onDesk
  rcases act s.desk with ⟨result,desk⟩
  cases result <;> rfl

theorem step_outcome (orderly : Hotplug.Orderly s.desk) (accepted : step s input = some t) : Outcome s input t := by
  unfold step at accepted
  split at accepted
  · rename_i admitted
    cases input with
    | desktop event =>
        have allowed : Tinyjl.admits s.server event = true := (Bool.and_eq_true_iff.mp admitted).2
        rw [show perform (.desktop event) = onServer (Tinyjl.perform event) from rfl,leaves_server,
          ← desktop_step allowed,Option.map_eq_some_iff] at accepted
        obtain ⟨server,stepped,rfl⟩ := accepted
        exact .desktop stepped
    | plug event =>
        rw [show perform (.plug event) = onDesk (Hotplug.perform event) from rfl,leaves_desk,
          Option.map_eq_some_iff] at accepted
        obtain ⟨desk,left,rfl⟩ := accepted
        exact .plug ((if_pos admitted).trans left)
    | key keyboard event =>
        refine ensures_leaves accepted (heard_ensures orderly (fun listed => ?_) .unheardKey)
        refine ensures_weaken (key_ensures s keyboard event) ?_ ?_
        · intro _ t returned
          cases own : withheld event with
          | true =>
              rw [own,if_pos rfl] at returned
              exact .consumed listed own returned.1 (returned_stops returned.2)
          | false =>
              rw [own,if_neg (by simp)] at returned
              subst returned
              exact .forwarded listed own
        · rintro t ⟨own,bound,stops⟩
          exact .consumed listed own bound stops
    | modifiers keyboard =>
        refine ensures_leaves accepted (heard_ensures orderly (fun listed => ?_) .unheardModifiers)
        exact Outcome.modifiers listed
    | signal =>
        cases accepted
        exact .signal
  · cases accepted

-- The desktop has come where its own machine can come, and the devices are in order.
def Composed (s : Session) : Prop := Hotplug.Orderly s.desk ∧ Reaches Tinyjl.step Tinyjl.start s.server

theorem told_composed (composed : Composed s) (listed : keyboard ∈ s.desk.keyboards) (notice : Notice) :
    Composed (told s keyboard notice) := by
  refine ⟨{ composed.1 with focused := ?_ },composed.2⟩
  intro k same
  exact Option.some.inj same ▸ listed

theorem step_composed (s : Session) (input : Input) (t : Session) (composed : Composed s)
    (accepted : step s input = some t) : Composed t := by
  cases step_outcome composed.1 accepted with
  | desktop stepped => exact ⟨composed.1,reaches_trans composed.2 (reaches_step stepped (reaches_refl _))⟩
  | plug stepped => exact ⟨Hotplug.step_orderly _ _ _ composed.1 stepped,composed.2⟩
  | consumed listed own bound stops =>
      obtain ⟨server,running,spawned,rfl,moved,_⟩ := bound
      exact ⟨composed.1,reaches_trans composed.2 moved⟩
  | forwarded listed free => exact told_composed composed listed _
  | modifiers listed => exact told_composed composed listed _
  | unheardKey _ | unheardModifiers _ => exact composed
  | signal => exact composed

theorem start_composed (sceneAttached : Bool) : Composed (start sceneAttached) :=
  ⟨Hotplug.start_orderly sceneAttached,reaches_refl _⟩

-- What clients are to be told: the keys that no binding withholds, in their order.
def policy (s : Session) (log : List Notice) : Input → List Notice
  | .key keyboard event =>
    if keyboard ∈ s.desk.keyboards ∧ withheld event = false
    then log ++ [.key keyboard event.time event.keycode event.state] else log
  | .modifiers keyboard => if keyboard ∈ s.desk.keyboards then log ++ [.modifiers keyboard] else log
  | _ => log

theorem policy_followed (orderly : Hotplug.Orderly s.desk) (accepted : step s input = some t) :
    t.notices = policy s s.notices input := by
  cases step_outcome orderly accepted with
  | desktop _ | plug _ | signal => rfl
  | consumed listed own bound stops =>
      obtain ⟨_,_,_,rfl,_,_⟩ := bound
      exact (if_neg (by simp [own])).symm
  | forwarded listed free => exact (if_pos ⟨listed,free⟩).symm
  | modifiers listed => exact (if_pos listed).symm
  | unheardKey missing => exact (if_neg fun both => missing both.1).symm
  | unheardModifiers missing => exact (if_neg missing).symm

def requestsStop : Input → Prop
  | .key _ event => withheld event = true ∧ xkbKeyEscape ∈ symsOf event
  | .signal => True
  | _ => False

theorem stopped_by (orderly : Hotplug.Orderly s.desk) (accepted : step s input = some t)
    (stopped : t.running = false) : s.running = false ∨ requestsStop input := by
  cases step_outcome orderly accepted with
  | desktop _ | plug _ => exact .inl stopped
  | consumed listed own bound stops =>
      rcases stops stopped with before | escape
      · exact .inl before
      · exact .inr ⟨own,escape⟩
  | forwarded _ _ | modifiers _ | unheardKey _ | unheardModifiers _ => exact .inl stopped
  | signal => exact .inr trivial

theorem stays_stopped (orderly : Hotplug.Orderly s.desk) (accepted : step s input = some t)
    (stopped : s.running = false) : t.running = false := by
  cases step_outcome orderly accepted with
  | consumed listed own bound stops =>
      obtain ⟨server,running,spawned,rfl,_,stays⟩ := bound
      cases running with
      | false => rfl
      | true => simp [stays rfl] at stopped
  | signal => rfl
  | _ => exact stopped

end

theorem run_composed (sceneAttached : Bool) (inputs : List Input) :
    ∀ s ∈ visited step (start sceneAttached) inputs, Composed s :=
  visited_invariant Composed step_composed (start_composed sceneAttached)

-- What is proved of the runs of the desktop alone holds in the whole compositor, too.
theorem session_refines (sceneAttached : Bool) (inputs : List Input) :
    (∀ s ∈ visited step (start sceneAttached) inputs, Hotplug.Orderly s.desk) ∧
    ∀ safe : Server → Prop, (∀ events, ∀ t ∈ visited Tinyjl.step Tinyjl.start events, safe t) →
      ∀ s ∈ visited step (start sceneAttached) inputs, safe s.server := by
  refine ⟨fun s member => (run_composed sceneAttached inputs s member).1,?_⟩
  intro safe always s member
  obtain ⟨events,reached⟩ := (run_composed sceneAttached inputs s member).2
  exact always events s.server reached

structure KeyTraffic (sceneAttached : Bool) (inputs : List Input) : Prop where
  -- a free key of a listed keyboard is told if the keyboard has its xkb_state; without it
  -- every key is undefined
  defined : ∀ s ∈ visited step (start sceneAttached) inputs, ∀ keyboard ∈ s.desk.keyboards, ∀ event,
    (Hotplug.xkbState s.desk keyboard = true → withheld event = false → step s (.key keyboard event) =
      some (told s keyboard (.key keyboard event.time event.keycode event.state))) ∧
    (Hotplug.xkbState s.desk keyboard = false → step s (.key keyboard event) = none)
  -- the second machine only writes down what the policy says
  told : ∀ pair ∈ visited (followed step policy) (start sceneAttached,[]) inputs, pair.1.notices = pair.2
  same : (visited (followed step policy) (start sceneAttached,[]) inputs).map Prod.fst =
    visited step (start sceneAttached) inputs
  -- only Alt+Escape and the signals stop the server, and nothing starts it again
  stopped : ∀ row ∈ taken step (start sceneAttached) inputs, ∀ t, step row.1 row.2 = some t →
    t.running = false → row.1.running = false ∨ requestsStop row.2
  forever : ∀ s ∈ visited step (start sceneAttached) inputs, s.running = false →
    ∀ later, ∀ t ∈ visited step s later, t.running = false
  -- Alt+Escape does stop it, unless a binding before it raises
  escaped : ∀ s ∈ visited step (start sceneAttached) inputs, ∀ keyboard ∈ s.desk.keyboards, ∀ event t,
    perform (.key keyboard event) s = (.ok (),t) → requestsStop (.key keyboard event) → t.running = false

theorem escape_stops (orderly : Hotplug.Orderly s.desk) (listed : keyboard ∈ s.desk.keyboards)
    (ran : perform (.key keyboard event) s = (.ok (),t)) (requested : requestsStop (.key keyboard event)) :
    t.running = false := by
  obtain ⟨own,escape⟩ := requested
  have ended : Ensures (perform (.key keyboard event)) s (fun _ t => t.running = false) fun _ => True := by
    refine heard_ensures orderly (fun _ => ?_) fun missing => absurd listed missing
    refine ensures_weaken (key_ensures s keyboard event) ?_ fun _ _ => trivial
    intro _ t returned
    rw [own,if_pos rfl] at returned
    rw [returned.2,decide_eq_true escape]
    exact Bool.and_false _
  have stopped := ensures_returned ended ran
  exact stopped

-- A listed keyboard is alive, and its listener is bound.
theorem listed_step (orderly : Hotplug.Orderly s.desk) (listed : keyboard ∈ s.desk.keyboards) (event : KeyEvent) :
    step s (.key keyboard event) = leaves (handleWlrKeyboardKey keyboard event s) := by
  have admitted : admits s (.key keyboard event) = true := by simp [admits,orderly.listed keyboard listed]
  have bound := (heard_exact orderly .key).mpr listed
  rw [step,if_pos admitted,perform,heard,bind_run]
  change leaves (when (s.desk.keyboardBound.contains (keyboard,.key)) (handleWlrKeyboardKey keyboard event) s) = _
  rw [bound]
  rfl

theorem key_traffic (sceneAttached : Bool) (inputs : List Input) : KeyTraffic sceneAttached inputs where
  defined := by
    intro s member keyboard listed event
    have orderly := (run_composed sceneAttached inputs s member).1
    rw [listed_step orderly listed event]
    constructor
    · intro state free
      rw [free_key state free]
      rfl
    · intro stateless
      rw [stateless_key stateless]
      rfl
  told := by
    intro pair member
    refine (visited_invariant (fun pair => Composed pair.1 ∧ pair.1.notices = pair.2) ?_ ?_ pair member).2
    · rintro ⟨s,log⟩ input ⟨t,after⟩ ⟨composed,same⟩ accepted
      obtain ⟨stepped,followed⟩ := followed_exact.mp accepted
      refine ⟨step_composed s input t composed stepped,?_⟩
      rw [policy_followed composed.1 stepped,← followed]
      exact congrArg (policy s · input) same
    · exact ⟨start_composed sceneAttached,rfl⟩
  same := followed_visited
  stopped row member t accepted :=
    stopped_by (run_composed sceneAttached inputs row.1 (taken_visited member)).1 accepted
  forever := by
    intro s member stopped later t reached
    have composed := run_composed sceneAttached inputs s member
    refine (visited_invariant (fun u => Composed u ∧ u.running = false) ?_ ⟨composed,stopped⟩ t reached).2
    intro u input next before accepted
    exact ⟨step_composed u input next before.1 accepted,stays_stopped before.1.1 accepted before.2⟩
  escaped s member keyboard listed event t ran requested :=
    escape_stops (run_composed sceneAttached inputs s member).1 listed ran requested

end Janetland.Tinyjl.Keys
