import Janetland.Foundations.Suspensions
import Janetland.Liveness

-- The collector beside the C callbacks: Janet asks for a collection whenever its code runs,
-- also in a function that C code called back.
namespace Janetland.GcLocks
open EventRuns Suspensions Marking

structure Vm where
  state : State
  -- janet_vm.gc_suspend, and what each running callback has in `locked`
  gcSuspend : Counter
  -- what the fiber of the program itself holds; Janet does not mark those of janet_pcall
  rootFiber : List Addr

def boot (s : State) : Vm := ⟨s,.idle,s.script⟩

-- Frames of C code that called a function back with janet_pcall.
def calls : Frame → Bool
  | .dispatch _ _ => false
  | .idle _ | .callback => true

def running (s : State) : Nat := s.frames.countP calls

def collectible (vm : Vm) : List Addr := vm.state.domain.filter fun object =>
  object ∉ marked vm.state.edges vm.state.domain (vm.state.roots ++ vm.rootFiber)

-- janet_collect returns at once while it is suspended.
def janetCollect (vm : Vm) : Vm :=
  if vm.gcSuspend.value = 0 then { vm with state := { vm.state with freed := vm.state.freed ++ collectible vm } }
  else vm

inductive Event where
  | base (event : Janetland.Event)
  -- a signal is emitted, by C code or by the script
  | notify (listener : Addr)
  -- wlroots logs a message
  | log
  | checkpoint

-- Each callback has a janet_gclock before its janet_pcall and a janet_gcunlock after it,
-- however the function ends. Without `locks` they are left out.
def locking (locks : Bool) (event : Janetland.Event) (gcSuspend : Counter) : Counter := match event with
  | .idleCall | .sourceCall _ => if locks then gcSuspend.suspend else gcSuspend
  | .idleReturn | .callbackReturn => if locks then gcSuspend.resume else gcSuspend
  | _ => gcSuspend

def settle (vm : Vm) (state : State) (gcSuspend : Counter) : Vm :=
  ⟨state,gcSuspend,if state.frames = [] then state.script else vm.rootFiber⟩

def called (s : State) (passed : List Addr) : State :=
  { s with frames := .callback :: s.frames,script := s.script ++ passed }

def step (locks : Bool) (vm : Vm) : Event → Option Vm
  | .base .collect => none
  | .base event => (Janetland.step vm.state event).map fun next => settle vm next (locking locks event vm.gcSuspend)
  -- jwl_listener_notify_callback passes the listener itself
  | .notify listener =>
    if (vm.state.links.map Prod.snd).contains listener && vm.state.live listener then match vm.state.heap listener with
      | some (.listener notifyFn) => some (settle vm (called vm.state [notifyFn,listener])
          (locking locks (.sourceCall listener) vm.gcSuspend))
      | _ => none
    else none
  -- jwlr_log_callback
  | .log => if vm.state.logHooked then vm.state.logFn.map fun cb =>
      settle vm (called vm.state [cb]) (locking locks (.sourceCall cb) vm.gcSuspend)
    else none
  | .checkpoint => if vm.state.scriptRuns then some (janetCollect vm) else none

variable {vm next : Vm} {s t : State} {base : List Addr}

-- The counter is the number of callbacks that are running, and outside of them the
-- collector knows everything the script holds.
structure Locked (vm : Vm) : Prop where
  nested : vm.gcSuspend.Nested
  depth : vm.gcSuspend.kept.length = running vm.state
  known : vm.state.frames = [] → vm.rootFiber = vm.state.script

theorem locked_value (locked : Locked vm) : vm.gcSuspend.value = running vm.state :=
  (Counter.nested_depth locked.nested).trans locked.depth

-- Script code runs at the top, so without a callback there is no C code at all.
theorem outermost (locked : Locked vm) (runs : vm.state.scriptRuns = true) :
    vm.gcSuspend.value = 0 ↔ vm.state.frames = [] := by
  rw [locked_value locked]
  unfold running
  constructor
  · intro none
    cases frames : vm.state.frames with
    | nil => rfl
    | cons frame rest =>
        rw [frames] at none
        cases frame with
        | dispatch loop onlyIdle => simp [State.scriptRuns,frames] at runs
        | idle data => simp [calls] at none
        | callback => simp [calls] at none
  · intro frames
    simp [frames]

theorem boot_locked (idle : s.frames = []) : Locked (boot s) :=
  ⟨.idle,by simp [boot,Counter.idle,running,idle],fun _ => rfl⟩

theorem settle_known (state : State) (gcSuspend : Counter) : state.frames = [] →
    (settle vm state gcSuspend).rootFiber = state.script := by
  intro idle
  simp [settle,idle]

theorem locked_same (locked : Locked vm) (same : running t = running vm.state) :
    Locked (settle vm t vm.gcSuspend) :=
  ⟨locked.nested,locked.depth.trans same.symm,settle_known t _⟩

theorem locked_called (locked : Locked vm) (more : running t = running vm.state + 1) :
    Locked (settle vm t vm.gcSuspend.suspend) := by
  refine ⟨.suspend locked.nested,?_,settle_known t _⟩
  change (vm.gcSuspend.value :: vm.gcSuspend.kept).length = running t
  rw [List.length_cons,locked.depth,more]

theorem locked_returned (locked : Locked vm) (less : running vm.state = running t + 1) :
    Locked (settle vm t vm.gcSuspend.resume) := by
  refine ⟨Counter.nested_resume locked.nested,?_,settle_known t _⟩
  change vm.gcSuspend.resume.kept.length = running t
  rw [Counter.resume_depth,locked.depth,less,Nat.add_sub_cancel]

section
open Act

theorem keeps_optional {act : Addr → Act State Unit} (kept : ∀ object, Keeps running (act object))
    (object : Option Addr) : Keeps running (optional act object) := by
  cases object with
  | none => exact keeps_pure ()
  | some object => exact kept object

theorem gcroot_keeps (object : Addr) : Keeps running (janetGcroot object) := keeps_modify fun _ => rfl
theorem gcunroot_keeps (object : Addr) : Keeps running (janetGcunroot object) := keeps_modify fun _ => rfl
theorem abstract_keeps (value : Obj) : Keeps running (janetAbstract value) := fun _ => rfl

theorem addListener_keeps : Keeps running (addListener argv type signal) := by
  apply keeps_bind (keeps_lift _)
  intro _
  apply keeps_bind (keeps_lift _)
  intro ptr
  apply keeps_bind (keeps_lift _)
  intro notifyFn
  apply keeps_bind (abstract_keeps _)
  intro listener
  apply keeps_bind (gcroot_keeps _)
  intro _
  refine keeps_bind (keeps_modify fun _ => rfl) fun _ => ?_
  exact keeps_pure _

theorem signalRemove_keeps : Keeps running (cfunWlSignalRemove argv) := by
  apply keeps_bind (keeps_lift _)
  intro _
  apply keeps_bind (keeps_lift _)
  intro listener
  apply keeps_bind
  · apply keeps_bind (keeps_look _)
    intro _
    exact keeps_modify fun _ => rfl
  intro _
  apply keeps_bind (keeps_look _)
  intro notifyFn
  apply keeps_bind (gcunroot_keeps _)
  intro _
  exact keeps_pure _

theorem addEventSource_keeps : Keeps running (addEventSource answer source stream func message) := by
  apply keeps_bind
  · intro s
    unfold wlEventLoopAdd
    split <;> rfl
  intro added
  split
  · refine keeps_bind (keeps_modify fun _ => rfl) fun _ => ?_
    apply keeps_bind (gcroot_keeps _)
    intro _
    apply keeps_bind (keeps_optional gcroot_keeps _)
    intro _
    exact keeps_pure _
  · exact keeps_lift _

theorem addSource_keeps (kept : ∀ source, Keeps running (kind source)) :
    Keeps running (addSource answer argv arity kind message) := by
  apply keeps_bind (keeps_lift _)
  intro _
  apply keeps_bind (abstract_keeps _)
  intro source
  apply keeps_bind (keeps_lift _)
  intro loop
  apply keeps_bind (kept source)
  intro found
  apply keeps_bind (keeps_lift _)
  intro func
  exact addEventSource_keeps

theorem fdKind_keeps (source : Addr) : Keeps running (fdKind argv source) := by
  apply keeps_bind
  · unfold fdArgument
    split
    · apply keeps_bind (keeps_lift _)
      intro fd
      exact keeps_pure _
    · apply keeps_bind (keeps_lift _)
      intro stream
      refine keeps_bind (keeps_modify fun _ => rfl) fun _ => ?_
      apply keeps_bind (keeps_look _)
      intro fd
      exact keeps_pure _
  intro found
  apply keeps_bind (keeps_lift _)
  intro mask
  exact keeps_pure _

theorem signalKind_keeps : Keeps running (signalKind argv) := by
  apply keeps_bind (keeps_lift _)
  intro number
  exact keeps_pure _

theorem sourceRemove_keeps : Keeps running (cfunWlEventSourceRemove argv) := by
  apply keeps_bind (keeps_lift _)
  intro _
  apply keeps_bind (keeps_lift _)
  intro source
  apply keeps_bind
  · apply keeps_bind (keeps_look _)
    intro _
    refine keeps_bind (keeps_modify fun _ => rfl) fun _ => ?_
    exact keeps_pure _
  intro ret
  apply keeps_bind (keeps_look _)
  intro found
  apply keeps_bind (keeps_optional gcunroot_keeps _)
  intro _
  apply keeps_bind (keeps_optional gcunroot_keeps _)
  intro _
  exact keeps_pure _

theorem logInit_keeps : Keeps running (cfunWlrLogInit argv) := by
  apply keeps_bind (keeps_lift _)
  intro _
  apply keeps_bind (keeps_lift _)
  intro verbosity
  apply keeps_bind (keeps_lift _)
  intro cb
  apply keeps_bind
  · apply keeps_optional
    intro cb
    apply keeps_bind (keeps_look _)
    intro old
    apply keeps_bind (keeps_optional gcunroot_keeps _)
    intro _
    refine keeps_bind (keeps_modify fun _ => rfl) fun _ => ?_
    exact gcroot_keeps cb
  intro _
  refine keeps_bind (keeps_modify fun _ => rfl) fun _ => ?_
  exact keeps_pure _

-- A dispatch enters C code that has called nothing back yet.
theorem operation_keeps (answer : Bool) (operation : Operation) : Keeps running (operation.run answer argv) := by
  cases operation with
  | signalAdd => exact addListener_keeps
  | addDestroyListener => exact addListener_keeps
  | signalRemove => exact signalRemove_keeps
  | addFd => exact addSource_keeps fdKind_keeps
  | addTimer => exact addSource_keeps fun _ => keeps_pure _
  | addSignal => exact addSource_keeps fun _ => signalKind_keeps
  | addIdle => exact addSource_keeps fun _ => keeps_pure _
  | sourceRemove => exact sourceRemove_keeps
  | logInit => exact logInit_keeps
  | dispatch =>
      apply keeps_bind (keeps_lift _)
      intro _
      apply keeps_bind (keeps_lift _)
      intro loop
      apply keeps_bind (keeps_lift _)
      intro _
      refine keeps_bind (keeps_modify fun _ => by simp [running,calls]) fun _ => ?_
      exact keeps_pure _
  | dispatchIdle =>
      apply keeps_bind (keeps_lift _)
      intro _
      apply keeps_bind (keeps_lift _)
      intro loop
      refine keeps_bind (keeps_modify fun _ => by simp [running,calls]) fun _ => ?_
      exact keeps_pure _

end

theorem setRefs_frames (accepted : s.setRefs object change = some t) : t.frames = s.frames := by
  unfold State.setRefs at accepted
  split at accepted <;> cases accepted <;> rfl

theorem call_running (accepted : Janetland.step s (.call operation answer argv) = some t) : running t = running s := by
  simp only [Janetland.step] at accepted
  split at accepted
  · have kept : Act.Ensures (operation.run answer argv) s (fun _ t => running t = running s)
        fun t => running t = running s := operation_keeps answer operation s
    unfold Act.Ensures at kept
    split at accepted
    · rename_i value u ran
      rw [ran] at kept
      cases accepted
      refine Eq.trans ?_ kept
      unfold State.keep
      split <;> rfl
    · rename_i error u ran
      rw [ran] at kept
      cases accepted
      exact kept
    · cases accepted
  · cases accepted

theorem base_locked (locked : Locked vm) (accepted : Janetland.step vm.state event = some t) :
    Locked (settle vm t (locking true event vm.gcSuspend)) := by
  cases event with
  | call operation answer argv => exact locked_same locked (call_running accepted)
  | allocate callable refs | fetch parent child | drop object | collect =>
      simp only [Janetland.step] at accepted
      split at accepted <;> cases accepted
      exact locked_same locked rfl
  | link parent child | unlink parent child =>
      simp only [Janetland.step] at accepted
      split at accepted
      · exact locked_same locked (congrArg (List.countP calls) (setRefs_frames accepted))
      · cases accepted
  | idleCall =>
      simp only [Janetland.step] at accepted
      split at accepted
      · obtain ⟨data,_,found⟩ := Option.bind_eq_some_iff.mp accepted
        obtain ⟨callee,_,moved⟩ := Option.bind_eq_some_iff.mp found
        cases moved
        exact locked_called locked (List.countP_cons_of_pos rfl)
      · cases accepted
  | sourceCall data =>
      simp only [Janetland.step] at accepted
      split at accepted
      · split at accepted
        · obtain ⟨callee,_,moved⟩ := Option.bind_eq_some_iff.mp accepted
          cases moved
          exact locked_called locked (List.countP_cons_of_pos rfl)
        · cases accepted
      · cases accepted
  | idleReturn | callbackReturn =>
      simp only [Janetland.step] at accepted
      split at accepted
      · rename_i frames
        cases accepted
        apply locked_returned locked
        unfold running
        rw [frames]
        exact List.countP_cons_of_pos rfl
      · cases accepted
  | dispatchReturn =>
      simp only [Janetland.step] at accepted
      split at accepted
      · rename_i frames
        split at accepted <;> cases accepted
        exact locked_same locked (by simp [running,calls,frames])
      · cases accepted

-- The step of the registration machine that an event is, if it is one.
def baseOf (vm : Vm) : Event → Option Janetland.Event
  | .base event => some event
  | .checkpoint => if vm.state.frames = [] then some .collect else none
  | .notify _ | .log => none

-- What one step can do.
inductive Moved (vm : Vm) (event : Event) (next : Vm) : Prop where
  | base (name : Janetland.Event) (known : baseOf vm event = some name)
      (accepted : Janetland.step vm.state name = some next.state)
  | called (passed : List Addr) (known : baseOf vm event = none) (same : next.state = called vm.state passed)
  | inert (known : baseOf vm event = none) (same : next = vm)

theorem collect_once (locked : Locked vm) (idle : vm.state.frames = []) :
    janetCollect vm = { vm with state := { vm.state with freed := vm.state.freed ++ vm.state.garbage } } := by
  have open_ : vm.gcSuspend.value = 0 := by
    rw [locked_value locked]
    simp [running,idle]
  unfold janetCollect
  rw [if_pos open_]
  unfold collectible State.garbage
  rw [locked.known idle]

theorem called_locked (locked : Locked vm) (passed : List Addr) :
    Locked (settle vm (called vm.state passed) vm.gcSuspend.suspend) :=
  locked_called locked (List.countP_cons_of_pos rfl)

theorem step_moves (locked : Locked vm) (accepted : step true vm event = some next) :
    Locked next ∧ Moved vm event next := by
  cases event with
  | base name =>
      have stepped : ∃ t, Janetland.step vm.state name = some t ∧
          settle vm t (locking true name vm.gcSuspend) = next := by
        cases name <;> first | exact Option.map_eq_some_iff.mp accepted | cases accepted
      obtain ⟨t,moved,rfl⟩ := stepped
      exact ⟨base_locked locked moved,.base name rfl moved⟩
  | notify listener =>
      simp only [step] at accepted
      split at accepted
      · split at accepted <;> cases accepted
        exact ⟨called_locked locked _,.called _ rfl rfl⟩
      · cases accepted
  | log =>
      simp only [step] at accepted
      split at accepted
      · obtain ⟨cb,_,rfl⟩ := Option.map_eq_some_iff.mp accepted
        exact ⟨called_locked locked _,.called _ rfl rfl⟩
      · cases accepted
  | checkpoint =>
      simp only [step] at accepted
      split at accepted <;> cases accepted
      rename_i runs
      by_cases idle : vm.state.frames = []
      · rw [collect_once locked idle]
        refine ⟨⟨locked.nested,locked.depth,locked.known⟩,.base .collect (if_pos idle) ?_⟩
        simp [Janetland.step,idle]
      · have busy : vm.gcSuspend.value ≠ 0 := fun none => idle ((outermost locked runs).mp none)
        have inert : janetCollect vm = vm := if_neg busy
        rw [inert]
        exact ⟨locked,.inert (if_neg idle) rfl⟩

theorem base_spares (valid : HeapValid s) (accepted : Janetland.step s event = some t) (live : s.live object = true)
    (reached : Reachable s.edges (s.roots ++ s.script) object) : t.live object = true := by
  have effect := step_effect valid accepted
  obtain ⟨obj,found⟩ := live_found live
  obtain ⟨later,after,_⟩ := effect.grows.kept object obj found
  have old : object ∉ s.freed := by simpa [State.live,found] using live
  have kept : object ∉ t.freed := by
    rcases effect.freed with same | ⟨_,_,collected⟩
    · rwa [same]
    · rw [collected,List.mem_append,not_or]
      exact ⟨old,fun swept => ((garbage_exact valid).mp swept).2 reached⟩
  simp [State.live,after,kept]

-- The laws of the registrations hold under nested callbacks as well.
structure Kept (base : List Addr) (vm : Vm) : Prop where
  locked : Locked vm
  grounded : Grounded base vm.state

theorem called_grounded (grounded : Grounded base s) (passed : List Addr) : Grounded base (called s passed) :=
  ⟨⟨⟨grounded.heap.bounded,grounded.heap.wired⟩,grounded.handles,grounded.covered⟩,grounded.rooted,grounded.freed⟩

theorem kept_preserved (kept : Kept base vm) (accepted : step true vm event = some next) : Kept base next := by
  obtain ⟨locked,moved⟩ := step_moves kept.locked accepted
  refine ⟨locked,?_⟩
  cases moved with
  | base name _ stepped => exact grounded_preserved kept.grounded stepped
  | called passed _ same =>
      rw [same]
      exact called_grounded kept.grounded passed
  | inert _ same =>
      rw [same]
      exact kept.grounded

theorem step_spares (kept : Kept base vm) (accepted : step true vm event = some next)
    (live : vm.state.live object = true)
    (reached : Reachable vm.state.edges (vm.state.roots ++ vm.state.script) object) :
    next.state.live object = true := by
  cases (step_moves kept.locked accepted).2 with
  | base name _ stepped => exact base_spares kept.grounded.heap stepped live reached
  | called passed _ same =>
      rw [same]
      exact live
  | inert _ same =>
      rw [same]
      exact live

-- A collection finds a handle that nobody but its registration keeps.
def orphans (vm : Vm) (event : Event) : Bool := (baseOf vm event).any vm.state.orphans

theorem step_alive (kept : Kept base vm) (alive : Alive vm.state) (accepted : step true vm event = some next) :
    Alive next.state ↔ orphans vm event = false := by
  unfold orphans
  cases (step_moves kept.locked accepted).2 with
  | base name known stepped =>
      rw [known]
      exact alive_step kept.grounded alive stepped
  | called passed known same =>
      rw [known,same]
      exact ⟨fun _ => rfl,fun _ => alive⟩
  | inert known same =>
      rw [known,same]
      exact ⟨fun _ => rfl,fun _ => alive⟩

theorem boot_kept (start : Start s) (idle : s.frames = []) : Kept s.roots (boot s) :=
  ⟨boot_locked idle,start_balanced start,start.rooted,by simp [boot,start.freed]⟩

structure LockLaw (s : State) (events : List Event) : Prop where
  -- the counter is the number of running callbacks, each of which kept those around it
  counted : ∀ vm ∈ visited (step true) (boot s) events, vm.gcSuspend.value = running vm.state ∧
    vm.gcSuspend.kept = (List.range (running vm.state)).reverse
  -- nothing is freed that any fiber still has, whether the collector would find it or not
  spared : ∀ row ∈ taken (step true) (boot s) events, ∀ next, step true row.1 row.2 = some next →
    ∀ object, row.1.state.live object = true →
      Reachable row.1.state.edges (row.1.state.roots ++ row.1.state.script) object → next.state.live object = true
  -- the roots stay balanced
  rooted : ∀ vm ∈ visited (step true) (boot s) events, ∀ object,
    vm.state.listenersOf object + vm.state.sourcesOf object + vm.state.loggersOf object ≤ vm.state.roots.count object ∧
    vm.state.streamsOf object ≤ vm.state.roots.count object
  -- and handles die of the collections outside all callbacks only
  alive : (∀ vm ∈ visited (step true) (boot s) events, Alive vm.state) ↔
    ∀ row ∈ taken (step true) (boot s) events, orphans row.1 row.2 = false

theorem collections_locked (start : Start s) (idle : s.frames = []) (events : List Event) : LockLaw s events := by
  have all : ∀ vm ∈ visited (step true) (boot s) events, Kept s.roots vm := visited_invariant (Kept s.roots)
    (fun _ _ _ kept accepted => kept_preserved kept accepted) (boot_kept start idle)
  refine ⟨?_,?_,?_,?_⟩
  · intro vm member
    have locked := (all vm member).locked
    have counted := locked_value locked
    exact ⟨counted,counted ▸ Counter.nested_kept locked.nested⟩
  · intro row member next accepted object live reached
    exact step_spares (all row.1 (taken_visited member)) accepted live reached
  · intro vm member object
    have balanced := (all vm member).grounded.toBalanced
    have covered := balanced.covered object
    rw [held_count balanced.handles] at covered
    omega
  · apply gate_exact (Kept s.roots) (fun vm => Alive vm.state) (fun vm event => orphans vm event = false)
      (fun _ _ _ kept accepted => kept_preserved kept accepted)
      (fun _ _ _ kept alive accepted => step_alive kept alive accepted) (boot_kept start idle)
    intro handle _
    simp [boot,start.freed]

-- An idle callback allocates, is asked for a collection, and emits a signal meanwhile.
def nestedRun : List Event := [
  .base (.call .signalAdd true [signalCell,.function 0]),
  .base (.call .addIdle true [eventLoop,.function 0]),
  .base (.call .dispatchIdle true [eventLoop]),
  .base .idleCall,
  .base (.allocate false []),
  .notify 1,
  .checkpoint,
  .base .callbackReturn,
  .checkpoint,
  .base .idleReturn,
  .base .dispatchReturn,
  .checkpoint]

theorem nested_run_locked : (visited (step true) (boot (opening [.function []])) nestedRun).length = 13 ∧
    LockLaw (opening [.function []]) nestedRun :=
  ⟨by decide,collections_locked (opening_start (by decide)) rfl nestedRun⟩

-- Without the locks the object is gone while the callback still holds it.
theorem unlocked_callback_loses :
    ∃ vm ∈ visited (step false) (boot (opening [.function []])) nestedRun, ∃ object ∈ vm.state.script,
      object ∈ vm.state.freed := by
  decide

end Janetland.GcLocks
