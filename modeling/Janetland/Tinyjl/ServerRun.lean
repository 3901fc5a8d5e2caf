import Janetland.Tinyjl.KeyRuns

namespace Janetland.Tinyjl.ServerRun
open EventRuns

inductive Call where
  | flushClients | dispatch
  | xwaylandDestroy | destroyClients | displayDestroy | closeRepl | removeSocket
deriving DecidableEq

-- What server-run does when its loop has ended.
def teardown : List Call := [.xwaylandDestroy,.destroyClients,.displayDestroy,.closeRepl,.removeSocket]

-- Where the fiber of server-run stands.
inductive Phase where
  | spawned
  | testing
  | dispatching
  | terminating (left : List Call)
  | failed
deriving DecidableEq

structure Fiber where
  phase : Phase
  session : Keys.Session
  calls : List Call

def spawn (sceneAttached : Bool) : Fiber := ⟨.spawned,Keys.start sceneAttached,[]⟩

inductive Turn where
  -- the fiber goes on
  | go
  -- the dispatch has a result for the fiber
  | resumed
  -- the call the fiber is in raises: a closed stream, a socket that is not there
  | raised
  -- libwayland and the signals call the server while the fiber waits or tears down
  | input (input : Keys.Input)

def serverRun (s : Fiber) : Option Fiber := match s.phase with
  | .spawned => some { s with phase := .testing, session := { s.session with running := true } }
  | .testing =>
    if s.session.running then some { s with phase := .dispatching, calls := s.calls ++ [.flushClients,.dispatch] }
    else some { s with phase := .terminating teardown }
  | .terminating (call :: left) => some { s with phase := .terminating left, calls := s.calls ++ [call] }
  | .dispatching | .terminating [] | .failed => none

def step (s : Fiber) : Turn → Option Fiber
  | .go => serverRun s
  | .resumed => if s.phase = .dispatching then some { s with phase := .testing } else none
  | .raised => match s.phase with
    | .dispatching | .terminating _ => some { s with phase := .failed }
    | _ => none
  | .input input => match s.phase with
    | .dispatching | .terminating _ =>
      (Keys.step s.session input).map fun session => { s with session := session }
    | _ => none

-- So many rounds of the loop.
def rounds : Nat → List Call
  | 0 => []
  | n + 1 => rounds n ++ [.flushClients,.dispatch]

-- What the fiber has called, from where it stands.
inductive Shape : Fiber → Prop
  | spawned : Shape ⟨.spawned,session,[]⟩
  | testing (n : Nat) : Shape ⟨.testing,session,rounds n⟩
  | dispatching (n : Nat) : Shape ⟨.dispatching,session,rounds (n + 1)⟩
  | terminating (n : Nat) (stopped : session.running = false) (split : made ++ left = teardown) :
      Shape ⟨.terminating left,session,rounds n ++ made⟩
  | failedLoop (n : Nat) : Shape ⟨.failed,session,rounds (n + 1)⟩
  | failedEnd (n : Nat) (stopped : session.running = false) (part : made <+: teardown) :
      Shape ⟨.failed,session,rounds n ++ made⟩

section
variable {s t : Fiber} {turn : Turn}

def Running (s : Fiber) : Prop := Keys.Composed s.session ∧ Shape s

theorem running_step (s : Fiber) (turn : Turn) (t : Fiber) (running : Running s) (accepted : step s turn = some t) :
    Running t := by
  obtain ⟨composed,shape⟩ := running
  cases shape with
  | spawned =>
      cases turn <;> simp [step,serverRun] at accepted
      subst accepted
      exact ⟨composed,.testing 0⟩
  | @testing session n =>
      cases turn <;> simp only [step,serverRun,reduceCtorEq,if_false] at accepted
      split at accepted
      · cases accepted
        exact ⟨composed,.dispatching n⟩
      · rename_i stopped
        cases accepted
        have whole : [] ++ teardown = teardown := rfl
        have shape := Shape.terminating n (Bool.eq_false_iff.mpr stopped) whole
        rw [List.append_nil] at shape
        exact ⟨composed,shape⟩
  | @dispatching session n =>
      cases turn with
      | go => cases accepted
      | resumed =>
          cases accepted
          exact ⟨composed,.testing (n + 1)⟩
      | raised =>
          cases accepted
          exact ⟨composed,.failedLoop n⟩
      | input input =>
          obtain ⟨next,stepped,rfl⟩ := Option.map_eq_some_iff.mp accepted
          exact ⟨Keys.step_composed _ _ _ composed stepped,.dispatching n⟩
  | @terminating made left session n stopped split =>
      cases turn with
      | go =>
          cases left with
          | nil => cases accepted
          | cons call left =>
              cases accepted
              have further : (made ++ [call]) ++ left = teardown := by simpa using split
              have shape := Shape.terminating n stopped further
              rw [← List.append_assoc] at shape
              exact ⟨composed,shape⟩
      | resumed => cases accepted
      | raised =>
          cases accepted
          exact ⟨composed,.failedEnd n stopped ⟨left,split⟩⟩
      | input input =>
          obtain ⟨next,stepped,rfl⟩ := Option.map_eq_some_iff.mp accepted
          have off := Keys.stays_stopped composed.1 stepped stopped
          exact ⟨Keys.step_composed _ _ _ composed stepped,.terminating n off split⟩
  | failedLoop n => cases turn <;> cases accepted
  | failedEnd n stopped part => cases turn <;> cases accepted

theorem run_running (sceneAttached : Bool) (turns : List Turn) :
    ∀ s ∈ visited step (spawn sceneAttached) turns, Running s :=
  visited_invariant Running running_step ⟨Keys.start_composed sceneAttached,.spawned⟩

theorem left_past (shape : Shape ⟨.terminating left,session,calls⟩) : left <:+ teardown := by
  cases shape with
  | terminating n stopped split => exact ⟨_,split⟩

theorem dispatch_past : ¬.dispatch :: left <:+ teardown := by
  intro past
  have inside : Call.dispatch ∈ teardown := past.subset List.mem_cons_self
  simp [teardown] at inside

-- Once the server is to stop, its fiber never dispatches again.
def Stopping (s : Fiber) : Prop := s.session.running = false ∧ s.phase ≠ .spawned

theorem stopping_step (running : Running s) (stopping : Stopping s) (accepted : step s turn = some t) :
    Stopping t ∧ t.calls.count .dispatch = s.calls.count .dispatch := by
  obtain ⟨stopped,unspawned⟩ := stopping
  obtain ⟨phase,session,calls⟩ := s
  cases turn with
  | go =>
      cases phase with
      | spawned => exact absurd rfl unspawned
      | testing =>
          have off : ¬session.running = true := by simp [show session.running = false from stopped]
          simp only [step,serverRun,if_neg off,Option.some.injEq] at accepted
          subst accepted
          exact ⟨⟨stopped,nofun⟩,rfl⟩
      | terminating left =>
          cases left with
          | nil => cases accepted
          | cons call left =>
              cases accepted
              refine ⟨⟨stopped,nofun⟩,?_⟩
              have last : call ≠ .dispatch := by
                rintro rfl
                exact dispatch_past (left_past running.2)
              simp [List.count_append,last]
      | dispatching | failed => cases accepted
  | resumed =>
      simp only [step,Option.ite_none_right_eq_some,Option.some.injEq] at accepted
      obtain ⟨_,rfl⟩ := accepted
      exact ⟨⟨stopped,nofun⟩,rfl⟩
  | raised =>
      cases phase with
      | dispatching | terminating left =>
          cases accepted
          exact ⟨⟨stopped,nofun⟩,rfl⟩
      | spawned | testing | failed => cases accepted
  | input input =>
      cases phase with
      | dispatching | terminating left =>
          obtain ⟨next,stepped,rfl⟩ := Option.map_eq_some_iff.mp accepted
          exact ⟨⟨Keys.stays_stopped running.1.1 stepped stopped,nofun⟩,rfl⟩
      | spawned | testing | failed => cases accepted

theorem stopping_run (running : Running s) (stopping : Stopping s) (turns : List Turn) :
    ∀ t ∈ visited step s turns, t.calls.count .dispatch = s.calls.count .dispatch := by
  intro t member
  refine (visited_invariant (fun u => Running u ∧ Stopping u ∧ u.calls.count .dispatch = s.calls.count .dispatch)
    ?_ ⟨running,stopping,rfl⟩ t member).2.2
  rintro u turn next ⟨valid,ending,same⟩ accepted
  obtain ⟨still,counted⟩ := stopping_step valid ending accepted
  exact ⟨running_step u turn next valid accepted,still,counted.trans same⟩

def done (s : Fiber) : Fiber := { s with phase := .terminating [], calls := s.calls ++ teardown }

theorem testing_finishes (stopped : s.session.running = false) (testing : s.phase = .testing) :
    done s ∈ visited step s (List.replicate 6 .go) := by
  obtain ⟨phase,session,calls⟩ := s
  obtain rfl : phase = .testing := testing
  have off : session.running = false := stopped
  simp [visited,step,serverRun,off,done,teardown]

theorem dispatching_finishes (stopped : s.session.running = false) (waiting : s.phase = .dispatching) :
    done s ∈ visited step s (.resumed :: List.replicate 6 .go) := by
  have back : step s .resumed = some { s with phase := .testing } := if_pos waiting
  have last : done s ∈ visited step { s with phase := .testing } (List.replicate 6 .go) :=
    testing_finishes (s := { s with phase := .testing }) stopped rfl
  rw [visited_accepted back]
  exact List.mem_cons_of_mem _ last

end

structure ServerRunLaw (sceneAttached : Bool) (turns : List Turn) : Prop where
  -- each dispatch follows a flush, and the teardown is begun once and only after a stop
  shape : ∀ s ∈ visited step (spawn sceneAttached) turns, Shape s
  prompt : ∀ s ∈ visited step (spawn sceneAttached) turns, Stopping s →
    ∀ later, ∀ t ∈ visited step s later, t.calls.count .dispatch = s.calls.count .dispatch
  -- a dispatch that returns is enough for the whole teardown
  finishes : ∀ s ∈ visited step (spawn sceneAttached) turns, s.session.running = false →
    s.phase = .dispatching → done s ∈ visited step s (.resumed :: List.replicate 6 .go)

theorem server_run_exact (sceneAttached : Bool) (turns : List Turn) : ServerRunLaw sceneAttached turns where
  shape s member := (run_running sceneAttached turns s member).2
  prompt s member stopping := stopping_run (run_running sceneAttached turns s member) stopping
  finishes _ _ := dispatching_finishes

end Janetland.Tinyjl.ServerRun
