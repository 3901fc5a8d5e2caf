import Janetland.Actions
import Janetland.AbstractTypes
import Janetland.KeyDefs
import Janetland.Foundations.Marking

namespace Janetland

-- The Janet objects that registrations are about. A listener is a jwl_listener_t, an
-- event source a jwl_event_source_t; closures and other script data refer to anything.
inductive Obj where
  | function (captured : List Addr)
  | stream (handle : Int)
  | listener (notifyFn : Addr)
  | eventSource (stream cbFn : Option Addr)
  | other (refs : List Addr)
deriving DecidableEq

def Obj.isHandle : Obj → Bool
  | .listener _ | .eventSource _ _ => true
  | _ => false

-- What Janet's collector follows; for the two abstract types it is what
-- method_listener_gcmark and method_event_source_gcmark mark.
def Obj.edges : Obj → List Addr
  | .function captured => captured
  | .stream _ => []
  | .listener notifyFn => [notifyFn]
  | .eventSource input cbFn => input.toList ++ cbFn.toList
  | .other refs => refs

inductive SignalRef where
  | signal (address : Addr)
  | loopDestroy (loop : Addr)
deriving DecidableEq

inductive SourceKind where
  | fd (fd : Int) (mask : BitVec 32)
  | timer
  | signal (number : Int)
  | idle
deriving DecidableEq

-- A libwayland event source with the user data it was given.
structure Source where
  loop : Addr
  kind : SourceKind
  data : Addr
deriving DecidableEq

-- C code that is running between the script and the script it called back.
inductive Frame where
  | dispatch (loop : Addr) (onlyIdle : Bool)
  | idle (data : Addr)
  | callback
deriving DecidableEq

-- Addresses are handed out in order and never again, and a collected object keeps its
-- entry in `heap`, so that a dangling registration still tells what it was for.
structure State where
  heap : Addr → Option Obj
  next : Addr
  freed : List Addr
  roots : List Addr
  script : List Addr
  links : List (SignalRef × Addr)
  sources : List Source
  logFn : Option Addr
  logImportance : Int
  logHooked : Bool
  frames : List Frame

namespace State

def registered (s : State) : List Addr := s.links.map Prod.snd ++ s.sources.map Source.data

def live (s : State) (object : Addr) : Bool := (s.heap object).isSome && !s.freed.contains object

def edges (s : State) (object : Addr) : List Addr :=
  if s.live object then ((s.heap object).map Obj.edges).getD [] else []

def domain (s : State) : List Addr := (List.range s.next).filter s.live

def garbage (s : State) : List Addr :=
  s.domain.filter fun object => object ∉ Marking.marked s.edges s.domain (s.roots ++ s.script)

def setObj (s : State) (object : Addr) (value : Obj) : State :=
  { s with heap := fun other => if other = object then some value else s.heap other }

end State

def janetAbstract (value : Obj) : Act State Addr := fun s =>
  (.ok s.next,{ s.setObj s.next value with next := s.next+1 })

def janetGcroot (object : Addr) : Act State Unit := .modify fun s => { s with roots := s.roots ++ [object] }
def janetGcunroot (object : Addr) : Act State Unit := .modify fun s => { s with roots := s.roots.erase object }

def optional (act : Addr → Act State Unit) : Option Addr → Act State Unit
  | some object => act object
  | none => pure ()

def wlSignalAdd (signal : SignalRef) (listener : Addr) : Act State Unit :=
  .modify fun s => { s with links := s.links ++ [(signal,listener)] }

-- wl_list_remove on the link of a listener that is in no list is undefined, and so is
-- wl_event_source_remove on a source that is gone.
def wlListRemove (listener : Addr) : Act State Unit := do
  .look fun s => if listener ∈ s.links.map Prod.snd then .ok () else .fault .badRead
  .modify fun s => { s with links := s.links.eraseP (fun link => link.2 == listener) }

def wlEventSourceRemove (data : Addr) : Act State Int := do
  .look fun s => if data ∈ s.sources.map Source.data then .ok () else .fault .badRead
  .modify fun s => { s with sources := s.sources.eraseP (fun source => source.data == data) }
  return 0

-- libwayland answers NULL when it cannot add the source.
def wlEventLoopAdd (answer : Bool) (source : Source) : Act State Bool := fun s =>
  if answer then (.ok true,{ s with sources := s.sources ++ [source] }) else (.ok false,s)

def readListener (listener : Addr) (s : State) : Res Addr := match s.heap listener with
  | some (.listener notifyFn) => .ok notifyFn
  | _ => .fault .badRead

def readEventSource (source : Addr) (s : State) : Res (Option Addr × Option Addr) := match s.heap source with
  | some (.eventSource stream cbFn) => .ok (stream,cbFn)
  | _ => .fault .badRead

def readStream (stream : Addr) (s : State) : Res Int := match s.heap stream with
  | some (.stream handle) => .ok handle
  | _ => .fault .badRead

def wrapHandle (object : Addr) (type : AbsType) : Janet := .abstract ⟨object,.own type,.inlined 0⟩

def janetStreamType : TypeRef := .foreign "core/stream"

-- The two functions that add a listener: to a signal, and to a loop's destroy signal.
def addListener (argv : List Janet) (type : AbsType) (signal : Addr → SignalRef) : Act State Janet := do
  .lift (janetFixarity argv 2)
  let ptr ← .lift (jlGetAbsObjPointer argv 0 type)
  let notifyFn ← .lift (janetGetfunction argv 1)
  let listener ← janetAbstract (.listener notifyFn)
  janetGcroot notifyFn
  wlSignalAdd (signal ptr) listener
  return wrapHandle listener .jwlAtListener

def cfunWlSignalAdd (argv : List Janet) : Act State Janet := addListener argv .jwlAtWlSignal .signal
def cfunWlEventLoopAddDestroyListener (argv : List Janet) : Act State Janet :=
  addListener argv .jwlAtWlEventLoop .loopDestroy

def cfunWlSignalRemove (argv : List Janet) : Act State Janet := do
  .lift (janetFixarity argv 1)
  let listener ← .lift (janetGetabstract argv 0 (.own .jwlAtListener))
  wlListRemove listener.self
  let notifyFn ← .look (readListener listener.self)
  janetGcunroot notifyFn
  return .nil

def addEventSource (answer : Bool) (source : Source) (stream : Option Addr) (func : Addr)
    (message : String) : Act State Janet := do
  let added ← wlEventLoopAdd answer source
  if added then do
    .modify (fun s => s.setObj source.data (.eventSource stream (some func)))
    janetGcroot func
    optional janetGcroot stream
    return wrapHandle source.data .jwlAtEventSource
  else .lift (panicf message [])

-- The four functions that add an event source differ in what stands between the loop,
-- which is the first argument, and the function, which is the last.
def addSource (answer : Bool) (argv : List Janet) (arity : Nat) (kind : Addr → Act State (Option Addr × SourceKind))
    (message : String) : Act State Janet := do
  .lift (janetFixarity argv arity)
  let source ← janetAbstract (.eventSource none none)
  let loop ← .lift (jlGetAbsObjPointer argv 0 .jwlAtWlEventLoop)
  let (stream,kind) ← kind source
  let func ← .lift (janetGetfunction argv (arity-1))
  addEventSource answer ⟨loop,kind,source⟩ stream func message

-- The second argument of add-fd; a stream is stored in the source at once.
def fdArgument (argv : List Janet) (source : Addr) : Act State (Option Addr × Int) :=
  if janetCheckint (slot argv 1) then do
    let fd ← .lift (janetGetinteger argv 1)
    return (none,fd)
  else do
    let stream ← .lift (janetGetabstract argv 1 janetStreamType)
    .modify (fun s => s.setObj source (.eventSource (some stream.self) none))
    let fd ← .look (readStream stream.self)
    return (some stream.self,fd)

def fdKind (argv : List Janet) (source : Addr) : Act State (Option Addr × SourceKind) := do
  let (stream,fd) ← fdArgument argv source
  let mask ← .lift (jlGetKeyFlags argv 2 wlEventDefs)
  return (stream,.fd fd mask)

def signalKind (argv : List Janet) : Act State (Option Addr × SourceKind) := do
  let number ← .lift (if janetCheckint (slot argv 1) then janetGetinteger argv 1
    else jlGetKeyDef argv 1 posixSignalDefs)
  return (none,.signal number)

def cfunWlEventLoopAddFd (answer : Bool) (argv : List Janet) : Act State Janet :=
  addSource answer argv 4 (fdKind argv) "failed to add fd to wayland event loop"
def cfunWlEventLoopAddTimer (answer : Bool) (argv : List Janet) : Act State Janet :=
  addSource answer argv 2 (fun _ => pure (none,.timer)) "failed to add timer to wayland event loop"
def cfunWlEventLoopAddSignal (answer : Bool) (argv : List Janet) : Act State Janet :=
  addSource answer argv 3 (fun _ => signalKind argv) "failed to add signal handler to wayland event loop"
def cfunWlEventLoopAddIdle (answer : Bool) (argv : List Janet) : Act State Janet :=
  addSource answer argv 2 (fun _ => pure (none,.idle)) "failed to add idle source to wayland event loop"

def cfunWlEventSourceRemove (argv : List Janet) : Act State Janet := do
  .lift (janetFixarity argv 1)
  let source ← .lift (janetGetabstract argv 0 (.own .jwlAtEventSource))
  let ret ← wlEventSourceRemove source.self
  let (stream,cbFn) ← .look (readEventSource source.self)
  optional janetGcunroot stream
  optional janetGcunroot cbFn
  return janetInteger ret

-- wlroots ignores a verbosity that is no level, and keeps its callback for NULL.
def wlrLogInit (verbosity : Int) (callback : Bool) : Act State Unit := .modify fun s =>
  { s with
    logImportance := if verbosity < 4 then verbosity else s.logImportance
    logHooked := s.logHooked || callback }

def janetOptfunction (argv : List Janet) (n : Nat) : Res (Option Addr) :=
  if argv.length ≤ n then .ok none
  else match slot argv n with
    | .nil => .ok none
    | _ => do
      let function ← janetGetfunction argv n
      return some function

def setLogCallback (cb : Addr) : Act State Unit := do
  let old ← .look (fun s => .ok s.logFn)
  optional janetGcunroot old
  .modify (fun s => { s with logFn := some cb })
  janetGcroot cb

def cfunWlrLogInit (argv : List Janet) : Act State Janet := do
  .lift (janetArity argv 1 (some 2))
  let verbosity ← .lift (jlGetKeyDef argv 0 logDefs)
  let cb ← .lift (janetOptfunction argv 1)
  optional setLogCallback cb
  wlrLogInit verbosity cb.isSome
  return .nil

-- The two dispatch functions up to the point where libwayland takes over; what it
-- then calls back are events of their own.
def cfunWlEventLoopDispatch (argv : List Janet) : Act State Janet := do
  .lift (janetFixarity argv 2)
  let loop ← .lift (jlGetAbsObjPointer argv 0 .jwlAtWlEventLoop)
  let _ ← .lift (janetGetinteger argv 1)
  .modify (fun s => { s with frames := .dispatch loop false :: s.frames })
  return .nil

def cfunWlEventLoopDispatchIdle (argv : List Janet) : Act State Janet := do
  .lift (janetFixarity argv 1)
  let loop ← .lift (jlGetAbsObjPointer argv 0 .jwlAtWlEventLoop)
  .modify (fun s => { s with frames := .dispatch loop true :: s.frames })
  return .nil

inductive Operation where
  | signalAdd | addDestroyListener | signalRemove
  | addFd | addTimer | addSignal | addIdle | sourceRemove
  | logInit | dispatch | dispatchIdle
deriving DecidableEq

def Operation.run (answer : Bool) (argv : List Janet) : Operation → Act State Janet
  | .signalAdd => cfunWlSignalAdd argv
  | .addDestroyListener => cfunWlEventLoopAddDestroyListener argv
  | .signalRemove => cfunWlSignalRemove argv
  | .addFd => cfunWlEventLoopAddFd answer argv
  | .addTimer => cfunWlEventLoopAddTimer answer argv
  | .addSignal => cfunWlEventLoopAddSignal answer argv
  | .addIdle => cfunWlEventLoopAddIdle answer argv
  | .sourceRemove => cfunWlEventSourceRemove argv
  | .logInit => cfunWlrLogInit argv
  | .dispatch => cfunWlEventLoopDispatch argv
  | .dispatchIdle => cfunWlEventLoopDispatchIdle argv

inductive Event where
  | call (operation : Operation) (answer : Bool) (argv : List Janet)
  | allocate (callable : Bool) (refs : List Addr)
  | fetch (parent child : Addr)
  | drop (object : Addr)
  | link (parent child : Addr)
  | unlink (parent child : Addr)
  | idleCall
  | idleReturn
  | sourceCall (data : Addr)
  | callbackReturn
  | dispatchReturn
  | collect

-- A program whose script holds these objects and has called nothing yet.
def opening (objects : List Obj) : State where
  heap := fun object => objects[object]?
  next := objects.length
  freed := []
  roots := []
  script := List.range objects.length
  links := []
  sources := []
  logFn := none
  logImportance := 1
  logHooked := false
  frames := []

namespace State

-- Script code runs at the top level and in callbacks, not inside libwayland.
def scriptRuns (s : State) : Bool := match s.frames with
  | .dispatch _ _ :: _ => false
  | _ => true

-- The script holds every object it passes, and each is of the kind its value says.
def owns (s : State) : Janet → Bool
  | .function address => s.script.contains address && match s.heap address with
    | some (.function _) => true
    | _ => false
  | .abstract value => match value.type with
    | .own .jwlAtListener => s.script.contains value.self && match s.heap value.self with
      | some (.listener _) => true
      | _ => false
    | .own .jwlAtEventSource => s.script.contains value.self && match s.heap value.self with
      | some (.eventSource _ _) => true
      | _ => false
    | type => type != janetStreamType || s.script.contains value.self && match s.heap value.self with
      | some (.stream _) => true
      | _ => false
  | _ => true

def keep (s : State) : Janet → State
  | .abstract value => { s with script := s.script ++ [value.self] }
  | _ => s

-- The oldest idle source of the loop whose callback is not already running.
def nextIdle (s : State) (loop : Addr) : Option Addr :=
  (s.sources.find? fun source => source.loop == loop && source.kind == .idle &&
    !s.frames.contains (.idle source.data)).map Source.data

-- The object libwayland's user data names, if it is still there to be read.
def callee (s : State) (data : Addr) : Option (Option Addr × Addr) :=
  if s.live data then match s.heap data with
    | some (.eventSource stream (some cbFn)) => some (stream,cbFn)
    | _ => none
  else none

def setRefs (s : State) (object : Addr) (change : List Addr → List Addr) : Option State :=
  match s.heap object with
  | some (.function captured) => some (s.setObj object (.function (change captured)))
  | some (.other refs) => some (s.setObj object (.other (change refs)))
  | _ => none

end State

def step (s : State) : Event → Option State
  | .call operation answer argv =>
    if s.scriptRuns && argv.all s.owns then match operation.run answer argv s with
      | (.ok value,t) => some (t.keep value)
      | (.panic _,t) => some t
      | (.fault _,_) => none
    else none
  | .allocate callable refs =>
    if s.scriptRuns && refs.all s.script.contains then
      some { s.setObj s.next (if callable then .function refs else .other refs) with
        next := s.next+1
        script := s.script ++ [s.next] }
    else none
  | .fetch parent child =>
    if s.scriptRuns && s.script.contains parent && (s.edges parent).contains child then
      some { s with script := s.script ++ [child] }
    else none
  | .drop object => if s.scriptRuns then some { s with script := s.script.erase object } else none
  | .link parent child =>
    if s.scriptRuns && s.script.contains parent && s.script.contains child then
      s.setRefs parent (child :: ·)
    else none
  | .unlink parent child =>
    if s.scriptRuns && s.script.contains parent then s.setRefs parent (·.erase child) else none
  | .idleCall => match s.frames with
    | .dispatch loop _ :: _ => do
      let data ← s.nextIdle loop
      let (_,cbFn) ← s.callee data
      return { s with frames := .idle data :: s.frames,script := s.script ++ [cbFn] }
    | _ => none
  -- libwayland removes and frees an idle source after its callback returned
  | .idleReturn => match s.frames with
    | .idle data :: rest => some { s with
        sources := s.sources.eraseP (fun source => source.data == data)
        frames := rest }
    | _ => none
  | .sourceCall data => match s.frames with
    | .dispatch loop false :: _ =>
      if s.sources.any fun source => source.loop == loop && source.data == data && source.kind != .idle then do
        let (stream,cbFn) ← s.callee data
        return { s with frames := .callback :: s.frames,script := s.script ++ (cbFn :: stream.toList) }
      else none
    | _ => none
  | .callbackReturn => match s.frames with
    | .callback :: rest => some { s with frames := rest }
    | _ => none
  | .dispatchReturn => match s.frames with
    | .dispatch loop _ :: rest => if (s.nextIdle loop).isNone then some { s with frames := rest } else none
    | _ => none
  | .collect => if s.frames = [] then some { s with freed := s.freed ++ s.garbage } else none

end Janetland
