import Janetland.RootBalance
import Janetland.DataPointers

namespace Janetland

-- A call of a listener's function by jwl_listener_notify_callback.
structure Notification where
  notifyFn : Addr
  argv : List Janet

-- The C memory that is read as Janet values; `none` where there is none.
abbrev Cells := Addr → Option Janet

def Cells.hold (cells : Cells) (cell : Addr) (value : Janet) : Cells :=
  fun other => if other = cell then some value else cells other

namespace State

def listeners (s : State) (signal : SignalRef) : List Addr :=
  (s.links.filter fun link => link.1 = signal).map Prod.snd

def notifyFn (s : State) (listener : Addr) : Option Addr := match s.heap listener with
  | some (.listener notifyFn) => some notifyFn
  | _ => none

end State

-- A listener function that raises an error only leaves a stack trace behind, so every
-- listener is called whatever the ones before it did.
def jwlListenerNotifyCallback (s : State) (data listener : Addr) : Res Notification := do
  let notifyFn ← readListener listener s
  return ⟨notifyFn,[wrapHandle listener .jwlAtListener,.pointer data]⟩

def wlSignalEmit (s : State) (data : Addr) : List Addr → Res (List Notification)
  | [] => .ok []
  | listener :: rest => do
    let call ← jwlListenerNotifyCallback s data listener
    let calls ← wlSignalEmit s data rest
    return call :: calls

-- What the listeners see: the memory during the calls, and the calls in their order.
structure Emission where
  cells : Cells
  calls : List Notification
  value : Janet

-- `data` is the address of the local variable that holds the value.
def cfunWlSignalEmit (s : State) (cells : Cells) (data : Addr) (argv : List Janet) : Res Emission := do
  janetFixarity argv 2
  let signal ← jlGetAbsObjPointer argv 0 .jwlAtWlSignal
  let calls ← wlSignalEmit s data (s.listeners (.signal signal))
  return ⟨cells.hold data (slot argv 1),calls,.nil⟩

def cfunGetListenerData (cells : Cells) (argv : List Janet) : Res Janet := do
  janetFixarity argv 1
  let dataP ← janetGetpointer argv 0
  if dataP = 0 then return .nil
  else match cells dataP with
    | some value => return value
    | none => .fault .badRead

-- What the two accessors that cfun_wl_signal_emit names have to make of the argument.
def RoundTrips (registry : Registry) (cells : Cells) (data value : Janet) : Prop :=
  cfunGetListenerData cells [data] = .ok value ∧
  ∀ self type ptr, value = .abstract ⟨self,.own type,.wrapper ptr⟩ → .own type ∈ registry.types → ∀ fresh,
    cfunGetAbstractListenerData registry fresh [data,.symbol type.name] =
      .ok (.abstract ⟨fresh,.own type,.wrapper ptr⟩)

def EmitLaw (registry : Registry) (s : State) (cells : Cells) (data : Addr) (self signal : Addr) (value : Janet) : Prop :=
  ∃ emission, cfunWlSignalEmit s cells data [.abstract ⟨self,.own .jwlAtWlSignal,.wrapper signal⟩,value] = .ok emission ∧
    emission.calls.map (fun call => some call.notifyFn) = (s.listeners (.signal signal)).map s.notifyFn ∧
    ∀ call ∈ emission.calls, RoundTrips registry emission.cells (slot call.argv 1) value

-- get-abstract-listener-data wraps the address it is given, which is the variable's.
def CellFits (data : Addr) : Janet → Prop
  | .abstract value => match value.type,value.payload with
    | .own type,.wrapper ptr => type ∈ unregistered ∨ ptr = data
    | _,_ => True
  | _ => True

variable {s t : State} {registry : Registry} {cells : Cells}

def ListenersLinked (s : State) : Prop := ∀ link ∈ s.links, ∃ notifyFn, s.heap link.2 = some (.listener notifyFn)

theorem linked_preserved (valid : HeapValid s) (linked : ListenersLinked s) (accepted : step s event = some t) :
    ListenersLinked t := by
  have effect := step_effect valid accepted
  intro link member
  rcases effect.linked link member with old | added
  · obtain ⟨notifyFn,found⟩ := linked link old
    obtain ⟨later,after,_,same⟩ := effect.grows.kept link.2 _ found
    cases same rfl
    exact ⟨notifyFn,after⟩
  · exact added

theorem run_linked (start : Start s) : ∀ t ∈ EventRuns.visited step s events, HeapValid t ∧ ListenersLinked t := by
  apply EventRuns.visited_invariant (fun t => HeapValid t ∧ ListenersLinked t)
  · rintro t event next ⟨valid,linked⟩ accepted
    exact ⟨(step_effect valid accepted).grows.valid,linked_preserved valid linked accepted⟩
  · refine ⟨(start_balanced start).heap,?_⟩
    intro link member
    rw [start.links] at member
    cases member

-- Every listener gets the same pointer, and none is left out.
theorem emit_calls (data : Addr) (linked : ∀ listener ∈ rows, ∃ notifyFn, s.heap listener = some (.listener notifyFn)) :
    ∃ calls, wlSignalEmit s data rows = .ok calls ∧
      calls.map (fun call => some call.notifyFn) = rows.map s.notifyFn ∧
      ∀ call ∈ calls, slot call.argv 1 = .pointer data := by
  induction rows with
  | nil => exact ⟨[],rfl,rfl,by simp⟩
  | cons listener rest ih =>
      obtain ⟨⟨notifyFn,found⟩,later⟩ := List.forall_mem_cons.mp linked
      obtain ⟨calls,ran,functions,pointers⟩ := ih later
      have read : readListener listener s = .ok notifyFn := readListener_exact.mpr found
      let call : Notification := ⟨notifyFn,[wrapHandle listener .jwlAtListener,.pointer data]⟩
      refine ⟨call :: calls,?_,?_,?_⟩
      · simp only [wlSignalEmit,jwlListenerNotifyCallback,read,ran,Res.bind_ok,Res.pure_ok,call]
      · simp only [List.map_cons,functions,State.notifyFn,found,call]
      · intro call member
        rcases List.mem_cons.mp member with rfl | earlier
        · rfl
        · exact pointers call earlier

theorem listener_data (set : data ≠ 0) (value : Janet) :
    cfunGetListenerData (cells.hold data value) [.pointer data] = .ok value := by
  simp [cfunGetListenerData,janetFixarity,janetGetpointer,slot,Cells.hold,set]

theorem round_trips_exact (loaded : Loaded registry) (set : data ≠ 0) (value : Janet) :
    RoundTrips registry (cells.hold data value) (.pointer data) value ↔ CellFits data value := by
  have resolved (type : AbsType) (fresh : Addr) (known : type ∉ unregistered) :
      cfunGetAbstractListenerData registry fresh [.pointer data,.symbol type.name] =
        .ok (.abstract ⟨fresh,.own type,.wrapper data⟩) := by
    have wrapped := converted registry fresh set type.name
    rw [loaded.resolves,if_neg known] at wrapped
    exact wrapped
  constructor
  · rintro ⟨_,recovered⟩
    cases value with
    | abstract value =>
        obtain ⟨self,type,payload⟩ := value
        cases type with
        | own type =>
            cases payload with
            | wrapper ptr =>
                by_cases absent : type ∈ unregistered
                · exact .inl absent
                · have wrapped := recovered self type ptr rfl ((loaded.member type).mpr absent) 0
                  rw [resolved type 0 absent] at wrapped
                  cases wrapped
                  exact .inr rfl
            | inlined word => trivial
        | foreign name => trivial
    | _ => trivial
  · intro fits
    refine ⟨listener_data set value,?_⟩
    rintro self type ptr rfl known fresh
    have known := (loaded.member type).mp known
    rw [resolved type fresh known]
    rcases fits with absent | rfl
    · exact absurd absent known
    · rfl

theorem emit_law_exact (linked : ListenersLinked s) (loaded : Loaded registry) (set : data ≠ 0) (self signal : Addr)
    (value : Janet) : EmitLaw registry s cells data self signal value ↔
      s.listeners (.signal signal) = [] ∨ CellFits data value := by
  have wired : ∀ listener ∈ s.listeners (.signal signal), ∃ notifyFn, s.heap listener = some (.listener notifyFn) := by
    intro listener member
    obtain ⟨link,kept,rfl⟩ := List.mem_map.mp member
    exact linked link (List.mem_of_mem_filter kept)
  obtain ⟨calls,ran,functions,pointers⟩ := emit_calls data wired
  have emitted : cfunWlSignalEmit s cells data [.abstract ⟨self,.own .jwlAtWlSignal,.wrapper signal⟩,value] =
      .ok ⟨cells.hold data value,calls,.nil⟩ := by
    simp [cfunWlSignalEmit,janetFixarity,jlGetAbsObjPointer,janetGetabstract,slot,Payload.firstWord,ran]
  have called : calls = [] ↔ s.listeners (.signal signal) = [] := by
    rw [← List.map_eq_nil_iff,functions,List.map_eq_nil_iff]
  constructor
  · rintro ⟨emission,same,_,each⟩
    cases emitted.symm.trans same
    cases delivered : calls with
    | nil => exact .inl (called.mp delivered)
    | cons call rest =>
        have member : call ∈ calls := by simp [delivered]
        have trip := each call member
        rw [pointers call member] at trip
        exact .inr ((round_trips_exact loaded set value).mp trip)
  · intro fits
    refine ⟨_,emitted,functions,?_⟩
    intro call member
    rw [pointers call member]
    apply (round_trips_exact loaded set value).mpr
    rcases fits with quiet | fits
    · rw [called.mpr quiet] at member
      cases member
    · exact fits

-- In every reachable state an emitted value comes back from each listener's argument
-- exactly when nobody listens or the value is no wrapper of a registered type.
theorem emit_round_trip_exact (start : Start s) (visited : t ∈ EventRuns.visited step s events)
    (loaded : Loaded registry) (set : data ≠ 0) (self signal : Addr) (value : Janet) :
    EmitLaw registry t cells data self signal value ↔
      t.listeners (.signal signal) = [] ∨ CellFits data value :=
  emit_law_exact (run_linked start t visited).2 loaded set self signal value

def listenedRun : List Event := [
  .call .signalAdd true [signalCell,.function 0],
  .call .signalAdd true [signalCell,.function 1]]

theorem number_emitted : (EventRuns.visited step (opening [.function [],.function []]) listenedRun).length = 3 ∧
    ∀ t ∈ EventRuns.visited step (opening [.function [],.function []]) listenedRun,
      EmitLaw loadedRegistry t (fun _ => none) 64 0 8192 (janetInteger 7) := by
  refine ⟨by decide,?_⟩
  intro t visited
  exact (emit_round_trip_exact (opening_start (by decide)) visited modules_load (by decide) 0 8192 _).mpr (.inr trivial)

-- A surface comes back as a wrapper of the variable's address 64, not of its own 16.
theorem surface_emitted_broken : ¬∀ t ∈ EventRuns.visited step (opening [.function [],.function []]) listenedRun,
    EmitLaw loadedRegistry t (fun _ => none) 64 0 8192 (.abstract ⟨2,.own .jwlrAtWlrSurface,.wrapper 16⟩) := by
  intro law
  have heard : ∃ t ∈ EventRuns.visited step (opening [.function [],.function []]) listenedRun,
      t.listeners (.signal 8192) ≠ [] := by decide
  obtain ⟨t,visited,some_⟩ := heard
  have linked := (run_linked (opening_start (by decide)) t visited).2
  have fits := (emit_law_exact linked modules_load (by decide) 0 8192 _).mp (law t visited)
  rcases fits with none_ | fits
  · exact some_ none_
  · rcases fits with absent | same
    · revert absent
      decide
    · cases same

end Janetland
