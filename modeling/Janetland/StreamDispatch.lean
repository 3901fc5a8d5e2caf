import Janetland.Values
import Janetland.Foundations.Runs

namespace Janetland

-- JanetAsyncEvent
inductive AsyncEvent where
  | init | mark | deinit | close | err | hup | read | write
deriving DecidableEq

-- The file descriptor is ready or failed, and the callback dispatches.
def AsyncEvent.ready : AsyncEvent → Bool
  | .err | .hup | .read | .write => true
  | _ => false

def AsyncEvent.ending (event : AsyncEvent) : Bool := event.ready || event = .close

-- Where a call of wl_event_loop_stream_dispatch_callback stands.
inductive Point where
  | entry | switch | logError | dispatching | logFailed (ret : Int) | schedule (ret : Int) | cancel | asyncEnd
  | ending | leave
deriving DecidableEq

-- A dispatch runs the script's callbacks, and wlr_log its log function.
def Point.calling : Point → Bool
  | .logError | .dispatching | .logFailed _ => true
  | _ => false

structure Activation where
  event : AsyncEvent
  point : Point
deriving DecidableEq

inductive Resume where
  | value (ret : Int)
  | error (message : String)
deriving DecidableEq

-- One async wait of a fiber. `stack` holds the calls of its callback, the innermost
-- first; `ended` tells that a call for an ending event has returned.
structure Wait where
  registered : Bool
  cancelled : Bool
  releases : Nat
  dispatches : Nat
  readReleased : Bool
  results : List Int
  resumes : List Resume
  ended : Bool
  stack : List Activation

-- janet_async_start: the state is allocated, and INIT is delivered at once.
def janetAsyncStart : Wait := ⟨true,false,0,0,false,[],[],false,[⟨.init,.entry⟩]⟩

structure Stream where
  closed : Bool
  handle : Int

-- The method returns an integer or starts a wait.
def methodWlEventLoopStreamDispatch (streams : Addr → Stream) (getFd : Addr → Int) (argv : List Janet) :
    Res (Int ⊕ Wait) := do
  janetFixarity argv 2
  let value ← janetGetabstract argv 0 (.foreign "core/stream")
  let eventLoop ← jlGetAbsObjPointer argv 1 .jwlAtWlEventLoop
  let stream := streams value.self
  if stream.closed ∨ stream.handle < 0 then return .inl (-1)
  else if getFd eventLoop ≠ stream.handle then
    panicf "inconsistent file descriptors, stream: %d, event loop: %d"
      [janetInteger stream.handle,janetInteger (getFd eventLoop)]
  else return .inr janetAsyncStart

namespace StreamWait

-- A fiber that was cancelled is not scheduled again.
def janetSchedule (s : Wait) (resume : Resume) : Wait :=
  if s.cancelled then s else { s with resumes := s.resumes ++ [resume] }

def janetCancel (s : Wait) (message : String) : Wait := { janetSchedule s (.error message) with cancelled := true }

inductive Action where
  -- an event of the event loop, or one from inside wl_event_loop_dispatch
  | deliver (event : AsyncEvent)
  -- the innermost call goes on
  | proceed
  -- wl_event_loop_dispatch returns
  | dispatched (ret : Int)

-- The event loop itself is not re-entered by what the script does there, but closing the
-- stream delivers CLOSE.
def deliverable (s : Wait) (event : AsyncEvent) : Bool := s.registered && match s.stack with
  | [] => true
  | call :: _ => call.point.calling && !event.ready

def proceed (s : Wait) : Option Wait := match s.stack with
  | [] => none
  | ⟨event,.entry⟩ :: outer => some { s with
      readReleased := s.readReleased || 0 < s.releases, stack := ⟨event,.switch⟩ :: outer }
  | ⟨event,.switch⟩ :: outer =>
    if event = .err then some { s with stack := ⟨event,.logError⟩ :: outer }
    else if event.ready then some { s with dispatches := s.dispatches + 1, stack := ⟨event,.dispatching⟩ :: outer }
    else if event = .close then some { s with stack := ⟨event,.cancel⟩ :: outer }
    else some { s with stack := ⟨event,.leave⟩ :: outer }
  | ⟨event,.logError⟩ :: outer =>
    some { s with dispatches := s.dispatches + 1, stack := ⟨event,.dispatching⟩ :: outer }
  | ⟨_,.dispatching⟩ :: _ => none
  | ⟨event,.logFailed ret⟩ :: outer => some { s with stack := ⟨event,.schedule ret⟩ :: outer }
  | ⟨event,.schedule ret⟩ :: outer =>
    some { janetSchedule s (.value ret) with stack := ⟨event,.asyncEnd⟩ :: outer }
  | ⟨event,.cancel⟩ :: outer =>
    some { janetCancel s "stream closed" with stack := ⟨event,.asyncEnd⟩ :: outer }
  -- janet_async_end delivers DEINIT before it releases the state
  | ⟨event,.asyncEnd⟩ :: outer =>
    if s.registered then some { s with stack := ⟨.deinit,.entry⟩ :: ⟨event,.ending⟩ :: outer }
    else some { s with stack := ⟨event,.leave⟩ :: outer }
  | ⟨event,.ending⟩ :: outer =>
    some { s with registered := false, releases := s.releases + 1, stack := ⟨event,.leave⟩ :: outer }
  | ⟨event,.leave⟩ :: outer => some { s with ended := s.ended || event.ending, stack := outer }

def step (s : Wait) : Action → Option Wait
  | .deliver event => if deliverable s event then some { s with stack := ⟨event,.entry⟩ :: s.stack } else none
  | .proceed => proceed s
  | .dispatched ret => match s.stack with
    | ⟨event,.dispatching⟩ :: outer => some { s with
        results := s.results ++ [ret]
        stack := ⟨event,if ret < 0 then .logFailed ret else .schedule ret⟩ :: outer }
    | _ => none

def closed : Resume := .error "stream closed"

-- Why a fiber is resumed.
def Justified (results : List Int) (resume : Resume) : Prop :=
  resume = closed ∨ ∃ ret ∈ results, resume = .value ret

-- A call that has had no effect yet.
inductive Quiet : Activation → Prop
  | entry (event : AsyncEvent) : Quiet ⟨event,.entry⟩
  | switch (event : AsyncEvent) : Quiet ⟨event,.switch⟩
  | cancel : Quiet ⟨.close,.cancel⟩
  | leave (harmless : event.ending = false) : Quiet ⟨event,.leave⟩

-- A call that has the script's functions run.
inductive Open : Nat → List Int → Activation → Prop
  | logError : Open 0 [] ⟨.err,.logError⟩
  | dispatching (ready : event.ready = true) : Open 1 [] ⟨event,.dispatching⟩
  | logFailed (ready : event.ready = true) : Open 1 [ret] ⟨event,.logFailed ret⟩

-- The calls below one that ends the wait: none, or the open one it came from.
inductive Outer : Bool → Nat → List Int → Resume → List Activation → Prop
  | alone (few : dispatches ≤ 1) (justified : Justified results resume) :
      Outer cancelled dispatches results resume []
  | inside (running : Open dispatches results call) : Outer true dispatches results closed [call]

-- The states of a wait, from its start to its end.
inductive Shape : Wait → Prop
  | idle : Shape ⟨true,false,0,0,false,[],[],false,[]⟩
  | called (quiet : Quiet call) : Shape ⟨true,false,0,0,false,[],[],false,[call]⟩
  | running (running : Open dispatches results call) :
      Shape ⟨true,false,0,dispatches,false,results,[],false,[call]⟩
  | nested (running : Open dispatches results outer) (quiet : Quiet call) (other : call.event.ready = false) :
      Shape ⟨true,false,0,dispatches,false,results,[],false,[call,outer]⟩
  | returned (ready : event.ready = true) : Shape ⟨true,false,0,1,false,[ret],[],false,[⟨event,.schedule ret⟩]⟩
  | resumed (last : event.ending = true) (outer : Outer cancelled dispatches results resume calls) :
      Shape ⟨true,cancelled,0,dispatches,false,results,[resume],false,⟨event,.asyncEnd⟩ :: calls⟩
  | deinit (last : event.ending = true) (outer : Outer cancelled dispatches results resume calls)
      (inner : point = .entry ∨ point = .switch ∨ point = .leave) :
      Shape ⟨true,cancelled,0,dispatches,false,results,[resume],false,
        ⟨.deinit,point⟩ :: ⟨event,.ending⟩ :: calls⟩
  | ending (last : event.ending = true) (outer : Outer cancelled dispatches results resume calls) :
      Shape ⟨true,cancelled,0,dispatches,false,results,[resume],false,⟨event,.ending⟩ :: calls⟩
  | left (outer : Outer cancelled dispatches results resume calls) :
      Shape ⟨false,cancelled,1,dispatches,false,results,[resume],ended,⟨event,.leave⟩ :: calls⟩
  | freed (outer : Outer cancelled dispatches results resume calls) :
      Shape ⟨false,cancelled,1,dispatches,false,results,[resume],ended,calls⟩
  -- the outer call goes on after a close from inside it
  | behind (late : point = .schedule ret ∨ point = .asyncEnd) :
      Shape ⟨false,true,1,1,false,[ret],[closed],ended,[⟨event,point⟩]⟩

theorem started_shape : Shape janetAsyncStart := .called (.entry .init)

theorem open_calling (running : Open dispatches results call) : call.point.calling = true := by
  cases running <;> rfl

theorem delivered_shape (shape : Shape s) (event : AsyncEvent) (allowed : deliverable s event = true) :
    Shape { s with stack := ⟨event,.entry⟩ :: s.stack } := by
  cases shape with
  | idle => exact .called (.entry event)
  | called quiet => cases quiet <;> simp [deliverable,Point.calling] at allowed
  | running running =>
      have other : event.ready = false := by simpa [deliverable,open_calling running] using allowed
      exact .nested running (.entry event) other
  | nested running quiet other => cases quiet <;> simp [deliverable,Point.calling] at allowed
  | deinit last outer inner => rcases inner with rfl | rfl | rfl <;> simp [deliverable,Point.calling] at allowed
  | _ => simp [deliverable,Point.calling] at allowed

-- A failed dispatch is logged first.
theorem dispatched_shape (shape : Shape s) (stepped : step s (.dispatched ret) = some t) : Shape t := by
  cases shape with
  | running running =>
      cases running with
      | dispatching ready =>
          cases stepped
          split
          · exact .running (.logFailed ready)
          · exact .returned ready
      | _ => cases stepped
  | called quiet => cases quiet <;> cases stepped
  | nested running quiet other => cases quiet <;> cases stepped
  | deinit last outer inner => rcases inner with rfl | rfl | rfl <;> cases stepped
  | freed outer =>
      cases outer with
      | alone few justified => cases stepped
      | inside running =>
          cases running with
          | dispatching ready =>
              cases stepped
              split
              · exact .freed (.inside (.logFailed ready))
              · exact .behind (.inl rfl)
          | _ => cases stepped
  | behind late => rcases late with rfl | rfl <;> cases stepped
  | _ => cases stepped

theorem ready_ending (ready : event.ready = true) : AsyncEvent.ending event = true := by
  simp [AsyncEvent.ending,ready]

theorem closed_justified (results : List Int) : Justified results closed := .inl rfl

theorem called_proceeds (quiet : Quiet call)
    (stepped : proceed ⟨true,false,0,0,false,[],[],false,[call]⟩ = some t) : Shape t := by
  cases quiet with
  | entry event =>
      cases stepped
      exact .called (.switch event)
  | switch event =>
      by_cases failed : event = .err
      · subst failed
        cases stepped
        exact .running .logError
      · by_cases ready : event.ready = true
        · simp only [proceed,failed,ready,if_true,if_false,Option.some.injEq] at stepped
          subst stepped
          exact .running (.dispatching ready)
        · by_cases close : event = .close
          · subst close
            cases stepped
            exact .called .cancel
          · have unready : event.ready = false := Bool.eq_false_iff.mpr ready
            have harmless : event.ending = false := by simp [AsyncEvent.ending,unready,close]
            simp only [proceed,failed,unready,close,Bool.false_eq_true,if_false,Option.some.injEq] at stepped
            subst stepped
            exact .called (.leave harmless)
  | cancel =>
      cases stepped
      exact .resumed rfl (.alone (Nat.zero_le 1) (closed_justified []))
  | leave harmless =>
      simp only [proceed,harmless,Bool.or_false,Option.some.injEq] at stepped
      subst stepped
      exact .idle

-- A close from inside the outer call ends the wait while that call still runs.
theorem nested_proceeds (running : Open dispatches results outer) (quiet : Quiet call)
    (other : call.event.ready = false)
    (stepped : proceed ⟨true,false,0,dispatches,false,results,[],false,[call,outer]⟩ = some t) : Shape t := by
  cases quiet with
  | entry inner =>
      cases stepped
      exact .nested running (.switch inner) other
  | switch inner =>
      have unready : inner.ready = false := other
      have harmed : inner ≠ .err := by
        rintro rfl
        cases unready
      by_cases close : inner = .close
      · subst close
        cases stepped
        exact .nested running .cancel other
      · have harmless : inner.ending = false := by simp [AsyncEvent.ending,unready,close]
        simp only [proceed,harmed,unready,close,Bool.false_eq_true,if_false,Option.some.injEq] at stepped
        subst stepped
        exact .nested running (.leave harmless) other
  | cancel =>
      cases stepped
      exact .resumed rfl (.inside running)
  | leave harmless =>
      simp only [proceed,harmless,Bool.or_false,Option.some.injEq] at stepped
      subst stepped
      exact .running running

theorem proceeded_shape (shape : Shape s) (stepped : proceed s = some t) : Shape t := by
  cases shape with
  | idle => cases stepped
  | called quiet => exact called_proceeds quiet stepped
  | running running =>
      cases running with
      | logError =>
          cases stepped
          exact .running (.dispatching rfl)
      | dispatching ready => cases stepped
      | logFailed ready =>
          cases stepped
          exact .returned ready
  | nested running quiet other => exact nested_proceeds running quiet other stepped
  | returned ready =>
      cases stepped
      exact .resumed (ready_ending ready) (.alone (Nat.le_refl 1) (.inr ⟨_,List.mem_singleton_self _,rfl⟩))
  | resumed last outer =>
      cases stepped
      exact .deinit last outer (.inl rfl)
  | deinit last outer inner =>
      rcases inner with rfl | rfl | rfl
      · cases stepped
        exact .deinit last outer (.inr (.inl rfl))
      · cases stepped
        exact .deinit last outer (.inr (.inr rfl))
      · cases stepped
        exact .ending last outer
  | ending last outer =>
      cases stepped
      exact .left outer
  | left outer =>
      cases stepped
      exact .freed outer
  | freed outer =>
      cases outer with
      | alone few justified => cases stepped
      | inside running =>
          cases running with
          | logError =>
              cases stepped
              exact .freed (.inside (.dispatching rfl))
          | dispatching ready => cases stepped
          | logFailed ready =>
              cases stepped
              exact .behind (.inl rfl)
  | behind late =>
      rcases late with rfl | rfl
      · cases stepped
        exact .behind (.inr rfl)
      · cases stepped
        exact .left (.alone (Nat.le_refl 1) (closed_justified _))

theorem step_shape (shape : Shape s) (action : Action) (stepped : step s action = some t) : Shape t := by
  cases action with
  | deliver event =>
      obtain ⟨allowed,made⟩ := Option.ite_none_right_eq_some.mp stepped
      cases made
      exact delivered_shape shape event allowed
  | proceed => exact proceeded_shape shape stepped
  | dispatched ret => exact dispatched_shape shape stepped

-- The calls on the stack go on to their ends when no event comes in between.
inductive Completes : Wait → Wait → Prop
  | rest : Completes s s
  | next (own : ∀ event, action ≠ .deliver event) (stepped : step s action = some t) (later : Completes t u) : Completes s u

def weight (call : Activation) : Nat := match call.point with
  | .entry => if call.event.ending then 12 else 3
  | .switch => if call.event.ending then 11 else 2
  | .logError => 10
  | .dispatching => 9
  | .logFailed _ => 8
  | .schedule _ | .cancel => 7
  | .asyncEnd => 6
  | .ending => 2
  | .leave => 1

def totalWeight (s : Wait) : Nat := s.stack.foldr (fun call rest => weight call + rest) 0

-- What an ending event that is being handled will have led to.
def EndingHeld (s : Wait) : Prop := s.ended = true ∨ ∃ call ∈ s.stack, call.event.ending = true

-- A call that is not done can always go on, and comes closer to its end.
theorem own_step (busy : s.stack ≠ []) : ∃ action t, (∀ event, action ≠ .deliver event) ∧
    step s action = some t ∧ totalWeight t < totalWeight s ∧ (EndingHeld s → EndingHeld t) := by
  obtain ⟨registered,cancelled,releases,dispatches,readReleased,results,resumes,ended,stack⟩ := s
  cases stack with
  | nil => exact absurd rfl busy
  | cons call outer =>
      obtain ⟨event,point⟩ := call
      cases point with
      | entry =>
          refine ⟨.proceed,_,nofun,rfl,?_,?_⟩
          · cases last : event.ending <;> simp [totalWeight,weight,last]
          · simp [EndingHeld]
      | switch =>
          by_cases failed : event = .err
          · subst failed
            refine ⟨.proceed,_,nofun,rfl,?_,?_⟩
            · simp [totalWeight,weight,AsyncEvent.ending,AsyncEvent.ready]
            · simp [EndingHeld]
          · by_cases ready : event.ready = true
            · have last : event.ending = true := ready_ending ready
              refine ⟨.proceed,_,nofun,by simp only [step,proceed,failed,ready,if_true,if_false]; rfl,?_,?_⟩
              · simp [totalWeight,weight,last]
              · simp [EndingHeld]
            · by_cases close : event = .close
              · subst close
                refine ⟨.proceed,_,nofun,rfl,?_,?_⟩
                · simp [totalWeight,weight,AsyncEvent.ending]
                · simp [EndingHeld]
              · refine ⟨.proceed,_,nofun,by simp only [step,proceed,failed,ready,close,if_false]; rfl,?_,?_⟩
                · cases last : event.ending <;> simp [totalWeight,weight,last]
                · simp [EndingHeld]
      | logError | logFailed ret =>
          refine ⟨.proceed,_,nofun,rfl,?_,?_⟩
          · simp [totalWeight,weight]
          · simp [EndingHeld]
      | dispatching =>
          refine ⟨.dispatched 0,_,nofun,rfl,?_,?_⟩
          · simp [totalWeight,weight]
          · simp [EndingHeld]
      | schedule ret =>
          refine ⟨.proceed,_,nofun,rfl,?_,?_⟩
          · simp [totalWeight,weight]
          · cases cancelled <;> simp [EndingHeld,janetSchedule]
      | cancel =>
          refine ⟨.proceed,_,nofun,rfl,?_,?_⟩
          · simp [totalWeight,weight]
          · cases cancelled <;> simp [EndingHeld,janetCancel,janetSchedule]
      | asyncEnd =>
          cases registered with
          | true =>
              refine ⟨.proceed,_,nofun,rfl,?_,?_⟩
              · simp [totalWeight,weight,AsyncEvent.ending,AsyncEvent.ready]
                omega
              · rintro (done | ⟨held,member,last⟩)
                · exact .inl done
                · rcases List.mem_cons.mp member with rfl | later
                  · exact .inr ⟨⟨event,.ending⟩,by simp,last⟩
                  · exact .inr ⟨held,by simp [later],last⟩
          | false =>
              refine ⟨.proceed,_,nofun,rfl,?_,?_⟩
              · simp [totalWeight,weight]
              · simp [EndingHeld]
      | ending =>
          refine ⟨.proceed,_,nofun,rfl,?_,?_⟩
          · simp [totalWeight,weight]
          · simp [EndingHeld]
      | leave =>
          refine ⟨.proceed,_,nofun,rfl,?_,?_⟩
          · simp [totalWeight,weight]
          · rintro (done | ⟨held,member,last⟩)
            · exact .inl (by simp [show ended = true from done])
            · rcases List.mem_cons.mp member with rfl | later
              · exact .inl (by simp [show event.ending = true from last])
              · exact .inr ⟨held,later,last⟩

-- Induction on the weight: every call returns once the dispatch does.
theorem calls_return (s : Wait) : ∃ t, Completes s t ∧ t.stack = [] ∧ (EndingHeld s → t.ended = true) := by
  induction bound : totalWeight s using Nat.strongRecOn generalizing s with
  | ind n ih =>
      by_cases idle : s.stack = []
      · refine ⟨s,.rest,idle,?_⟩
        rintro (done | ⟨call,member,_⟩)
        · exact done
        · simp [idle] at member
      · obtain ⟨action,t,own,stepped,lighter,held⟩ := own_step idle
        obtain ⟨u,completes,rest,last⟩ := ih _ (bound ▸ lighter) t rfl
        exact ⟨u,.next own stepped completes,rest,last ∘ held⟩

-- What holds at every moment of a wait.
structure Orderly (s : Wait) : Prop where
  dispatchedOnce : s.dispatches ≤ 1
  resumedOnce : s.resumes.length ≤ 1
  justified : ∀ resume ∈ s.resumes, Justified s.results resume
  prompt : s.ended = true → s.resumes.length = 1
  released : s.releases = if s.registered then 0 else 1
  finished : s.ended = true → s.releases = 1
  unread : s.readReleased = false
  returns : ∃ t, Completes s t ∧ t.stack = [] ∧ (EndingHeld s → t.ended = true)

theorem open_once (running : Open dispatches results call) : dispatches ≤ 1 := by
  cases running <;> simp

theorem outer_facts (outer : Outer cancelled dispatches results resume calls) :
    dispatches ≤ 1 ∧ Justified results resume := by
  cases outer with
  | alone few justified => exact ⟨few,justified⟩
  | inside running => exact ⟨open_once running,closed_justified _⟩

theorem shape_facts (shape : Shape s) :
    s.dispatches ≤ 1 ∧ ∀ resume ∈ s.resumes, Justified s.results resume := by
  cases shape with
  | idle | called quiet => exact ⟨Nat.zero_le 1,List.forall_mem_nil _⟩
  | running running | nested running quiet other => exact ⟨open_once running,List.forall_mem_nil _⟩
  | returned ready => exact ⟨Nat.le_refl 1,List.forall_mem_nil _⟩
  | resumed last outer | deinit last outer inner | ending last outer | left outer | freed outer =>
      obtain ⟨few,justified⟩ := outer_facts outer
      exact ⟨few,List.forall_mem_singleton.mpr justified⟩
  | behind late => exact ⟨Nat.le_refl 1,List.forall_mem_singleton.mpr (closed_justified _)⟩

theorem shape_orderly (shape : Shape s) : Orderly s where
  dispatchedOnce := (shape_facts shape).1
  resumedOnce := by cases shape <;> simp
  justified := (shape_facts shape).2
  prompt := by cases shape <;> simp
  released := by cases shape <;> simp
  finished := by cases shape <;> simp
  unread := by cases shape <;> rfl
  returns := calls_return s

theorem dispatch_starts
    (started : methodWlEventLoopStreamDispatch streams getFd argv = .ok (.inr s)) : s = janetAsyncStart := by
  unfold methodWlEventLoopStreamDispatch at started
  simp only [Res.bind_exact] at started
  obtain ⟨_,_,value,_,loop,_,chosen⟩ := started
  repeat' split at chosen
  all_goals cases chosen
  rfl

theorem dispatch_resumes_once (streams : Addr → Stream) (getFd : Addr → Int) (argv : List Janet)
    (started : methodWlEventLoopStreamDispatch streams getFd argv = .ok (.inr s)) (actions : List Action) :
    ∀ t ∈ EventRuns.visited step s actions, Orderly t := by
  intro t member
  apply shape_orderly
  refine EventRuns.visited_invariant Shape ?_ ?_ t member
  · intro u action next shape stepped
    exact step_shape shape action stepped
  · rw [dispatch_starts started]
    exact started_shape

-- The stream is closed by the log function that hears of the error, and then the dispatch
-- runs and fails.
def closedInside : List Action := List.replicate 3 .proceed ++ [.deliver .err] ++ List.replicate 2 .proceed ++
  [.deliver .close] ++ List.replicate 9 .proceed ++ [.proceed,.dispatched (-1)] ++ List.replicate 4 .proceed

theorem closed_inside_resumed : (∀ t ∈ EventRuns.visited step janetAsyncStart closedInside, Orderly t) ∧
    ∃ t ∈ EventRuns.visited step janetAsyncStart closedInside, t.results = [-1] ∧ t.resumes = [closed] ∧
      t.ended = true ∧ t.stack = [] :=
  ⟨dispatch_resumes_once (fun _ => ⟨false,3⟩) (fun _ => 3)
    [.abstract ⟨8,.foreign "core/stream",.wrapper 0⟩,.abstract ⟨16,.own .jwlAtWlEventLoop,.wrapper 24⟩] rfl _,
    by decide⟩

end StreamWait

end Janetland
