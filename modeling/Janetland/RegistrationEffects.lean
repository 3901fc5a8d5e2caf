import Janetland.Registrations
import Janetland.Foundations.Ledger
import Mathlib.Data.List.Perm.Basic

namespace Janetland
open Act

def Plain (s : State) (object : Addr) : Prop := ∃ obj, s.heap object = some obj ∧ obj.isHandle = false

-- A handle as it stands in a registration, with its function set.
def Registrable (obj : Obj) : Prop :=
  (∃ notifyFn, obj = .listener notifyFn) ∨ ∃ stream cbFn, obj = .eventSource stream (some cbFn)

-- Every object has an address that was handed out, and handles mark plain objects only.
structure HeapValid (s : State) : Prop where
  bounded : ∀ object obj, s.heap object = some obj → object < s.next
  wired : ∀ object obj, s.heap object = some obj → obj.isHandle = true → ∀ child ∈ obj.edges, Plain s child

-- What happened to the heap since `s`: handles never change and plain objects stay plain.
structure Grows (s t : State) : Prop where
  next : s.next ≤ t.next
  kept : ∀ object obj, s.heap object = some obj → ∃ later, t.heap object = some later ∧
    later.isHandle = obj.isHandle ∧ (obj.isHandle = true → later = obj)
  valid : HeapValid t

-- What one step does to the registrations and the roots when it keeps its books.
inductive Settled (s t : State) : Prop where
  | quiet (registered : t.registered = s.registered) (roots : t.roots = s.roots) (logFn : t.logFn = s.logFn)
  | opened (handle : Addr) (obj : Obj) (taken : List Addr) (fresh : s.next ≤ handle)
      (registered : t.registered.Perm (handle :: s.registered)) (made : t.heap handle = some obj)
      (registrable : Registrable obj) (perm : taken.Perm obj.edges) (roots : t.roots = s.roots ++ taken)
      (logFn : t.logFn = s.logFn)
  | closed (handle : Addr) (obj : Obj) (registered : s.registered.Perm (handle :: t.registered))
      (found : s.heap handle = some obj) (roots : t.roots = s.roots.diff obj.edges) (logFn : t.logFn = s.logFn)
  | logged (cb : Addr) (registered : t.registered = s.registered) (plain : Plain t cb)
      (roots : t.roots = s.roots.diff s.logFn.toList ++ [cb]) (logFn : t.logFn = some cb)

-- The other way a registration ends: nobody touches the roots.
structure Lapsed (s t : State) (handle : Addr) : Prop where
  registered : s.registered.Perm (handle :: t.registered)
  roots : t.roots = s.roots
  logFn : t.logFn = s.logFn

-- The state inside a C function that was called in `s`.
structure Within (s t : State) : Prop where
  next : s.next ≤ t.next
  old : ∀ object, object < s.next → t.heap object = s.heap object
  valid : HeapValid t
  freed : t.freed = s.freed

structure Quiet (s t : State) : Prop extends Within s t where
  links : t.links = s.links
  sources : t.sources = s.sources
  roots : t.roots = s.roots
  logFn : t.logFn = s.logFn

-- Only objects of listeners are ever linked into a signal.
def Linked (s t : State) : Prop :=
  ∀ link ∈ t.links, link ∈ s.links ∨ ∃ notifyFn, t.heap link.2 = some (.listener notifyFn)

structure Called (s t : State) : Prop extends Within s t where
  settled : Settled s t
  linked : Linked s t

variable {s t u : State} {argv : List Janet}

theorem Quiet.registered (quiet : Quiet s t) : t.registered = s.registered := by
  rw [State.registered,State.registered,quiet.links,quiet.sources]

theorem linked_kept (links : t.links = s.links) : Linked s t := fun _ member => .inl (links ▸ member)

theorem Quiet.called (quiet : Quiet s t) : Called s t :=
  ⟨quiet.toWithin,.quiet quiet.registered quiet.roots quiet.logFn,linked_kept quiet.links⟩

-- Two states that differ at most in what the script holds, the frames and the log level.
structure SameBooks (t u : State) : Prop where
  heap : u.heap = t.heap
  next : u.next = t.next
  freed : u.freed = t.freed
  links : u.links = t.links
  sources : u.sources = t.sources
  roots : u.roots = t.roots
  logFn : u.logFn = t.logFn

theorem SameBooks.registered (same : SameBooks t u) : u.registered = t.registered := by
  rw [State.registered,State.registered,same.links,same.sources]

theorem Quiet.start (valid : HeapValid s) : Quiet s s :=
  ⟨⟨Nat.le_refl _,fun _ _ => rfl,valid,rfl⟩,rfl,rfl,rfl,rfl⟩

theorem Within.grows (valid : HeapValid s) (within : Within s t) : Grows s t := by
  refine ⟨within.next,?_,within.valid⟩
  intro object obj found
  have old := within.old object (valid.bounded object obj found)
  exact ⟨obj,old.trans found,rfl,fun _ => rfl⟩

theorem Within.move (within : Within s t) (heap : u.heap = t.heap) (next : u.next = t.next)
    (freed : u.freed = t.freed) : Within s u := by
  refine ⟨next ▸ within.next,heap ▸ within.old,⟨?_,?_⟩,freed.trans within.freed⟩
  · rw [heap,next]
    exact within.valid.bounded
  · unfold Plain
    rw [heap]
    exact within.valid.wired

theorem Settled.move (settled : Settled s t) (same : SameBooks t u) : Settled s u := by
  have plain : ∀ {object}, Plain t object → Plain u object := by
    intro object plain
    unfold Plain
    rwa [same.heap]
  cases settled with
  | quiet registered roots logFn =>
      exact .quiet (same.registered.trans registered) (same.roots.trans roots) (same.logFn.trans logFn)
  | opened handle obj taken fresh registered made registrable perm roots logFn =>
      exact .opened handle obj taken fresh (same.registered ▸ registered) (same.heap ▸ made) registrable perm
        (same.roots.trans roots) (same.logFn.trans logFn)
  | closed handle obj registered found roots logFn =>
      exact .closed handle obj (same.registered ▸ registered) found (same.roots.trans roots)
        (same.logFn.trans logFn)
  | logged cb registered held roots logFn =>
      exact .logged cb (same.registered.trans registered) (plain held) (same.roots.trans roots)
        (same.logFn.trans logFn)

theorem Called.move (called : Called s t) (same : SameBooks t u) : Called s u := by
  refine ⟨called.toWithin.move same.heap same.next same.freed,called.settled.move same,?_⟩
  unfold Linked
  rw [same.links,same.heap]
  exact called.linked

theorem Within.plain (valid : HeapValid s) (within : Within s t) (plain : Plain s object) : Plain t object := by
  obtain ⟨obj,found,kind⟩ := plain
  exact ⟨obj,(within.old object (valid.bounded object obj found)).trans found,kind⟩

theorem setObj_heap (s : State) (object other : Addr) (value : Obj) :
    (s.setObj object value).heap other = if other = object then some value else s.heap other := rfl

-- Storing a handle above the old heap, wired to plain objects, keeps the heap valid.
theorem Quiet.setObj (quiet : Quiet s t) (high : s.next ≤ object) (low : object < t.next)
    (handle : ∀ obj, t.heap object = some obj → obj.isHandle = true)
    (wired : ∀ child ∈ value.edges, Plain t child) : Quiet s (t.setObj object value) := by
  have plainLater : ∀ child, Plain t child → Plain (t.setObj object value) child := by
    rintro child ⟨obj,found,plain⟩
    refine ⟨obj,?_,plain⟩
    rw [setObj_heap,if_neg]
    · exact found
    · rintro rfl
      rw [handle obj found] at plain
      cases plain
  refine ⟨⟨quiet.next,?_,⟨?_,?_⟩,quiet.freed⟩,quiet.links,quiet.sources,quiet.roots,quiet.logFn⟩
  · intro other below
    rw [setObj_heap,if_neg (Nat.ne_of_lt (Nat.lt_of_lt_of_le below high))]
    exact quiet.old other below
  · intro other obj found
    rw [setObj_heap] at found
    split at found
    · rename_i same
      exact same ▸ low
    · exact quiet.valid.bounded other obj found
  · intro other obj found isHandle child member
    rw [setObj_heap] at found
    split at found
    · cases found
      exact plainLater child (wired child member)
    · exact plainLater child (quiet.valid.wired other obj found isHandle child member)

theorem Quiet.allocate (quiet : Quiet s t) (value : Obj)
    (wired : value.isHandle = true → ∀ child ∈ value.edges, Plain t child) :
    Quiet s { t.setObj t.next value with next := t.next+1 } := by
  have plainLater : ∀ child, Plain t child → Plain (t.setObj t.next value) child := by
    rintro child ⟨obj,found,plain⟩
    have low := quiet.valid.bounded child obj found
    exact ⟨obj,by rw [setObj_heap,if_neg (Nat.ne_of_lt low)]; exact found,plain⟩
  refine ⟨⟨Nat.le_succ_of_le quiet.next,?_,⟨?_,?_⟩,quiet.freed⟩,quiet.links,quiet.sources,quiet.roots,quiet.logFn⟩
  · intro other below
    change (t.setObj t.next value).heap other = _
    rw [setObj_heap,if_neg (Nat.ne_of_lt (Nat.lt_of_lt_of_le below quiet.next))]
    exact quiet.old other below
  · intro other obj found
    change (t.setObj t.next value).heap other = some obj at found
    rw [setObj_heap] at found
    split at found
    · rename_i same
      exact same ▸ Nat.lt_succ_self _
    · exact Nat.lt_succ_of_lt (quiet.valid.bounded other obj found)
  · intro other obj found isHandle child member
    change (t.setObj t.next value).heap other = some obj at found
    rw [setObj_heap] at found
    split at found
    · cases found
      exact plainLater child (wired isHandle child member)
    · exact plainLater child (quiet.valid.wired other obj found isHandle child member)

theorem owned_slot (owned : argv.all s.owns = true) (value : slot argv n = item) (set : item ≠ .nil) :
    s.owns item = true := by
  have member : item ∈ argv := by
    unfold slot at value
    rw [List.getD_eq_getElem?_getD] at value
    cases found : argv[n]? with
    | none => simp [found] at value; exact absurd value.symm set
    | some other =>
        rw [found] at value
        exact value ▸ List.mem_of_getElem? found
  exact List.all_eq_true.mp owned item member

theorem owned_function (owned : argv.all s.owns = true) (got : janetGetfunction argv n = .ok function) :
    Plain s function := by
  unfold janetGetfunction badSlot panicf at got
  split at got
  · rename_i address value
    cases got
    have held := owned_slot owned value (by simp)
    simp only [State.owns,Bool.and_eq_true] at held
    have kind := held.2
    split at kind
    · rename_i captured found
      exact ⟨_,found,rfl⟩
    · cases kind
  · cases got

theorem owned_stream (owned : argv.all s.owns = true)
    (got : janetGetabstract argv n janetStreamType = .ok stream) : Plain s stream.self := by
  unfold janetGetabstract badSlot panicf at got
  split at got
  · rename_i value selected
    split at got
    · rename_i type
      cases got
      have held := owned_slot owned selected (by simp)
      simp only [State.owns,type,janetStreamType,bne_self_eq_false,Bool.false_or,Bool.and_eq_true] at held
      have kind := held.2
      split at kind
      · rename_i handle found
        exact ⟨_,found,rfl⟩
      · cases kind
    · cases got
  · cases got

-- The half-built event source of a call in `s`: new, and still a handle.
structure Pending (s t : State) (source : Addr) : Prop extends Quiet s t where
  high : s.next ≤ source
  low : source < t.next
  handle : ∀ obj, t.heap source = some obj → obj.isHandle = true

theorem pending_allocated (valid : HeapValid s) : Ensures (janetAbstract (.eventSource none none)) s
    (fun source t => Pending s t source) (Called s) := by
  refine ⟨(Quiet.start valid).allocate _ (by simp [Obj.edges]),Nat.le_refl _,Nat.lt_succ_self _,?_⟩
  intro obj found
  change (s.setObj s.next _).heap s.next = some obj at found
  rw [setObj_heap,if_pos rfl] at found
  cases found
  rfl

theorem Pending.store (pending : Pending s t source) (stream cbFn : Option Addr)
    (wired : ∀ child ∈ stream.toList ++ cbFn.toList, Plain t child) :
    Pending s (t.setObj source (.eventSource stream cbFn)) source := by
  refine ⟨pending.toQuiet.setObj pending.high pending.low pending.handle wired,pending.high,pending.low,?_⟩
  intro obj found
  rw [setObj_heap,if_pos rfl] at found
  cases found
  rfl

theorem addEventSource_called (pending : Pending s t source.data) (func_ : Plain t func)
    (stream_ : ∀ object ∈ stream.toList, Plain t object) :
    Ensures (addEventSource answer source stream func message) t (fun _ => Called s) (Called s) := by
  cases answer with
  | false => exact pending.called
  | true =>
      have stored := pending.store stream (some func) (by
        intro child member
        rcases List.mem_append.mp member with input | callback
        · exact stream_ child input
        · cases List.mem_singleton.mp callback
          exact func_)
      have opened (u : State) (heap : u.heap = (t.setObj source.data (.eventSource stream (some func))).heap)
          (next : u.next = t.next) (freed : u.freed = t.freed) (links : u.links = t.links)
          (sources : u.sources = t.sources ++ [source]) (roots : u.roots = t.roots ++ func :: stream.toList)
          (logFn : u.logFn = t.logFn) : Called s u := by
        refine ⟨stored.toWithin.move heap next freed,?_,linked_kept (links.trans pending.links)⟩
        refine .opened source.data (.eventSource stream (some func)) (func :: stream.toList) pending.high ?_ ?_
          (.inr ⟨stream,func,rfl⟩) (List.perm_append_singleton _ _).symm ?_ ?_
        · rw [← pending.registered]
          simp only [State.registered,links,sources,List.map_append,← List.append_assoc]
          exact List.perm_append_singleton _ _
        · rw [heap]
          exact if_pos rfl
        · rw [roots,pending.roots]
        · rw [logFn,pending.logFn]
      cases stream with
      | none => exact opened _ rfl rfl rfl rfl rfl rfl rfl
      | some object => exact opened _ rfl rfl rfl rfl rfl (List.append_assoc _ _ _) rfl

theorem readListener_exact : readListener object s = .ok notifyFn ↔ s.heap object = some (.listener notifyFn) := by
  unfold readListener
  split <;> simp_all

theorem readListener_raises : readListener object s ≠ .panic error := by
  unfold readListener
  split <;> simp

theorem readEventSource_exact : readEventSource object s = .ok (stream,cbFn) ↔
    s.heap object = some (.eventSource stream cbFn) := by
  unfold readEventSource
  split <;> simp_all

theorem readEventSource_raises : readEventSource object s ≠ .panic error := by
  unfold readEventSource
  split <;> simp

theorem setLogCallback_run (cb : Addr) (s : State) : setLogCallback cb s =
    (.ok (),{ s with roots := s.roots.diff s.logFn.toList ++ [cb],logFn := some cb }) := by
  unfold setLogCallback
  simp only [bind_run,look]
  cases s.logFn with
  | none => rfl
  | some old => simp [optional,janetGcunroot,janetGcroot,Act.modify]

theorem erased_perm {rows : List β} (project : β → Addr) (member : handle ∈ rows.map project) :
    (rows.map project).Perm (handle :: (rows.eraseP fun row => project row == handle).map project) := by
  obtain ⟨row,inside,same⟩ := List.mem_map.mp member
  obtain ⟨found,before,after,_,hit,split,erased⟩ := List.exists_of_eraseP
    (p := fun row => project row == handle) inside (by simpa using same)
  rw [erased,split,List.map_append,List.map_append,List.map_cons,beq_iff_eq.mp hit]
  exact List.perm_middle

theorem closed_called (valid : HeapValid s) (found : s.heap handle = some obj) (heap : u.heap = s.heap)
    (next : u.next = s.next) (freed : u.freed = s.freed) (registered : s.registered.Perm (handle :: u.registered))
    (roots : u.roots = s.roots.diff obj.edges) (logFn : u.logFn = s.logFn) (links : ∀ link ∈ u.links, link ∈ s.links) :
    Called s u := ⟨(Quiet.start valid).toWithin.move heap next freed,.closed handle obj registered found roots logFn,
  fun link member => .inl (links link member)⟩

section
variable (valid : HeapValid s)
include valid

theorem signalRemove_called : Ensures (cfunWlSignalRemove argv) s (fun _ => Called s) (Called s) := by
  have quiet := Quiet.start valid
  refine ensures_bind (ensures_lift (fun _ _ => ?_) quiet.called)
  refine ensures_bind (ensures_lift (fun listener _ => ?_) quiet.called)
  refine ensures_bind (ensures_bind (ensures_look (fun _ passed => ?_) fun _ _ => quiet.called))
  have member : listener.self ∈ s.links.map Prod.snd := by
    by_contra absent
    simp [absent] at passed
  refine ensures_modify (ensures_bind (ensures_look (fun notifyFn got => ?_) ?_))
  · refine closed_called valid (readListener_exact.mp got) rfl rfl rfl ?_ ?_ rfl
      fun link => List.mem_of_mem_eraseP
    · exact (erased_perm Prod.snd member).append_right _
    · simp [Obj.edges]
  · intro error failed
    exact absurd failed readListener_raises

theorem sourceRemove_called : Ensures (cfunWlEventSourceRemove argv) s (fun _ => Called s) (Called s) := by
  have quiet := Quiet.start valid
  refine ensures_bind (ensures_lift (fun _ _ => ?_) quiet.called)
  refine ensures_bind (ensures_lift (fun source _ => ?_) quiet.called)
  refine ensures_bind (ensures_bind (ensures_look (fun _ passed => ?_) fun _ _ => quiet.called))
  have member : source.self ∈ s.sources.map Source.data := by
    by_contra absent
    simp [absent] at passed
  refine ensures_bind (ensures_modify (ensures_pure 0 (ensures_bind (ensures_look (fun objects got => ?_) ?_))))
  · obtain ⟨stream,cbFn⟩ := objects
    have found := readEventSource_exact.mp got
    have perm : s.registered.Perm (source.self :: (s.links.map Prod.snd ++
        (s.sources.eraseP fun row => row.data == source.self).map Source.data)) :=
      ((erased_perm Source.data member).append_left _).trans List.perm_middle
    cases stream <;> cases cbFn <;>
      exact closed_called valid found rfl rfl rfl perm (by simp [Obj.edges]) rfl fun _ member => member
  · intro error failed
    exact absurd failed readEventSource_raises

theorem dispatch_called : Ensures (cfunWlEventLoopDispatch argv) s (fun _ => Called s) (Called s) := by
  have quiet := Quiet.start valid
  refine ensures_bind (ensures_lift (fun _ _ => ?_) quiet.called)
  refine ensures_bind (ensures_lift (fun loop _ => ?_) quiet.called)
  refine ensures_bind (ensures_lift (fun timeout _ => ?_) quiet.called)
  exact quiet.called.move ⟨rfl,rfl,rfl,rfl,rfl,rfl,rfl⟩

theorem dispatchIdle_called : Ensures (cfunWlEventLoopDispatchIdle argv) s (fun _ => Called s) (Called s) := by
  have quiet := Quiet.start valid
  refine ensures_bind (ensures_lift (fun _ _ => ?_) quiet.called)
  refine ensures_bind (ensures_lift (fun loop _ => ?_) quiet.called)
  exact quiet.called.move ⟨rfl,rfl,rfl,rfl,rfl,rfl,rfl⟩

end

-- What the four functions that add an event source may do to find out its kind.
def KeepsPending (s : State) (kind : Addr → Act State (Option Addr × SourceKind)) : Prop := ∀ t source,
  Pending s t source → Ensures (kind source) t
    (fun made u => Pending s u source ∧ ∀ object ∈ made.1.toList, Plain s object) (Called s)

theorem constant_pending (kind : SourceKind) : KeepsPending s fun _ => pure (none,kind) :=
  fun _ _ pending => ⟨pending,by simp⟩

theorem signalKind_pending : KeepsPending s fun _ => signalKind argv := by
  intro t source pending
  exact ensures_bind (ensures_lift (fun number _ => ⟨pending,by simp⟩) pending.called)

section
variable (valid : HeapValid s) (owned : argv.all s.owns = true)
include valid owned

theorem addListener_called : Ensures (addListener argv type signal) s (fun _ => Called s) (Called s) := by
  have quiet := Quiet.start valid
  refine ensures_bind (ensures_lift (fun _ _ => ?_) quiet.called)
  refine ensures_bind (ensures_lift (fun ptr _ => ?_) quiet.called)
  refine ensures_bind (ensures_lift (fun notifyFn got => ?_) quiet.called)
  have allocated := quiet.allocate (.listener notifyFn) (by
    intro _ child member
    cases List.mem_singleton.mp member
    exact owned_function owned got)
  refine ⟨allocated.toWithin.move rfl rfl rfl,?_,?_⟩
  · refine .opened s.next (.listener notifyFn) [notifyFn] (Nat.le_refl _) ?_ (if_pos rfl) (.inl ⟨notifyFn,rfl⟩)
      (.refl _) rfl rfl
    simp only [State.registered,State.setObj,List.map_append,List.map_cons,List.map_nil,List.append_assoc,
      List.singleton_append]
    exact List.perm_middle
  · intro link member
    rcases List.mem_append.mp member with old | added
    · exact .inl old
    · cases List.mem_singleton.mp added
      exact .inr ⟨notifyFn,if_pos rfl⟩

theorem addSource_called (keeps : KeepsPending s kind) :
    Ensures (addSource answer argv arity kind message) s (fun _ => Called s) (Called s) := by
  refine ensures_bind (ensures_lift (fun _ _ => ?_) (Quiet.start valid).called)
  refine ensures_bind (ensures_mono (pending_allocated valid) fun source t pending => ?_)
  refine ensures_bind (ensures_lift (fun loop _ => ?_) pending.called)
  refine ensures_bind (ensures_mono (keeps t source pending) fun made u facts => ?_)
  obtain ⟨pending,plain⟩ := facts
  refine ensures_bind (ensures_lift (fun func got => ?_) pending.called)
  exact addEventSource_called pending (pending.plain valid (owned_function owned got))
    fun object member => pending.plain valid (plain object member)

theorem fdArgument_pending (pending : Pending s t source) : Ensures (fdArgument argv source) t
    (fun input u => Pending s u source ∧ ∀ object ∈ input.1.toList, Plain s object) (Called s) := by
  unfold fdArgument
  split
  · refine ensures_bind (ensures_lift (fun fd _ => ?_) pending.called)
    exact ⟨pending,by simp⟩
  · refine ensures_bind (ensures_lift (fun stream got => ?_) pending.called)
    have plain := owned_stream owned got
    have stored := pending.store (some stream.self) none (by
      intro child member
      cases List.mem_singleton.mp member
      exact pending.plain valid plain)
    refine ensures_bind (ensures_modify ?_)
    exact ensures_bind (ensures_look (fun fd _ => ⟨stored,by simpa using plain⟩) fun _ _ => stored.called)

theorem fdKind_pending : KeepsPending s (fdKind argv) := by
  intro t source pending
  refine ensures_bind (ensures_mono (fdArgument_pending valid owned pending) fun input u facts => ?_)
  exact ensures_bind (ensures_lift (fun mask _ => facts) facts.1.called)

theorem logInit_called : Ensures (cfunWlrLogInit argv) s (fun _ => Called s) (Called s) := by
  have quiet := Quiet.start valid
  refine ensures_bind (ensures_lift (fun _ _ => ?_) quiet.called)
  refine ensures_bind (ensures_lift (fun verbosity _ => ?_) quiet.called)
  refine ensures_bind (ensures_lift (fun cb got => ?_) quiet.called)
  cases cb with
  | none => exact quiet.called.move ⟨rfl,rfl,rfl,rfl,rfl,rfl,rfl⟩
  | some cb =>
      have plain : Plain s cb := by
        unfold janetOptfunction at got
        split at got
        · cases got
        · split at got
          · cases got
          · obtain ⟨function,got,same⟩ := Res.bind_exact.mp got
            cases same
            exact owned_function owned got
      have ran := setLogCallback_run cb s
      refine ensures_bind ?_
      change Ensures (setLogCallback cb) s _ _
      unfold Ensures
      rw [ran]
      exact ⟨quiet.toWithin.move rfl rfl rfl,.logged cb rfl plain rfl rfl,linked_kept rfl⟩

theorem operation_called (answer : Bool) (operation : Operation) :
    Ensures (operation.run answer argv) s (fun _ => Called s) (Called s) := by
  cases operation with
  | signalAdd => exact addListener_called valid owned
  | addDestroyListener => exact addListener_called valid owned
  | signalRemove => exact signalRemove_called valid
  | addFd => exact addSource_called valid owned (fdKind_pending valid owned)
  | addTimer => exact addSource_called valid owned (constant_pending .timer)
  | addSignal => exact addSource_called valid owned signalKind_pending
  | addIdle => exact addSource_called valid owned (constant_pending .idle)
  | sourceRemove => exact sourceRemove_called valid
  | logInit => exact logInit_called valid owned
  | dispatch => exact dispatch_called valid
  | dispatchIdle => exact dispatchIdle_called valid

end

-- libwayland ends the registration of an idle source whose callback returns.
def State.lapses (s : State) : Event → Bool
  | .idleReturn => match s.frames with
    | .idle data :: _ => (s.sources.map Source.data).contains data
    | _ => false
  | _ => false

theorem lapses_idle (lapses : s.lapses event = true) : event = .idleReturn := by
  cases event <;> simp_all [State.lapses]

theorem lapses_exact (frames : s.frames = .idle data :: rest) :
    s.lapses .idleReturn = true ↔ data ∈ s.sources.map Source.data := by
  simp only [State.lapses,frames]
  exact List.contains_iff_mem

-- The parts of a step that all invariants are derived from.
structure Effect (s : State) (event : Event) (t : State) : Prop where
  grows : Grows s t
  settled : s.lapses event = false → Settled s t
  lapsed : s.lapses event = true → ∃ handle, Lapsed s t handle
  freed : t.freed = s.freed ∨ event = .collect ∧ s.frames = [] ∧ t.freed = s.freed ++ s.garbage
  linked : Linked s t

theorem Called.effect (valid : HeapValid s) (called : Called s t) (ordinary : event ≠ .idleReturn) :
    Effect s event t :=
  ⟨called.grows valid,fun _ => called.settled,fun lapses => absurd (lapses_idle lapses) ordinary,
    .inl called.freed,called.linked⟩

theorem SameBooks.effect (valid : HeapValid s) (same : SameBooks s t) (ordinary : event ≠ .idleReturn) :
    Effect s event t :=
  ((Quiet.start valid).called.move same).effect valid ordinary

theorem call_effect (valid : HeapValid s) (accepted : step s (.call operation answer argv) = some t) :
    Effect s (.call operation answer argv) t := by
  simp only [step,Bool.and_eq_true] at accepted
  split at accepted
  · rename_i guard
    have ensured := operation_called valid guard.2 answer operation
    unfold Ensures at ensured
    split at accepted
    · rename_i value u ran
      rw [ran] at ensured
      cases accepted
      refine (ensured.move ?_).effect valid (by simp)
      unfold State.keep
      split <;> exact ⟨rfl,rfl,rfl,rfl,rfl,rfl,rfl⟩
    · rename_i error u ran
      rw [ran] at ensured
      cases accepted
      exact ensured.effect valid (by simp)
    · cases accepted
  · cases accepted

-- Script data may be rewired, and stays plain.
theorem setRefs_effect (valid : HeapValid s) (found : s.heap object = some old) (plain : old.isHandle = false)
    (kind : value.isHandle = false) (ordinary : event ≠ .idleReturn) :
    Effect s event (s.setObj object value) := by
  have plainLater : ∀ child, Plain s child → Plain (s.setObj object value) child := by
    rintro child ⟨obj,there,isPlain⟩
    by_cases same : child = object
    · exact ⟨value,by rw [setObj_heap,if_pos same],kind⟩
    · exact ⟨obj,by rw [setObj_heap,if_neg same]; exact there,isPlain⟩
  refine ⟨⟨Nat.le_refl _,?_,⟨?_,?_⟩⟩,fun _ => .quiet rfl rfl rfl,
    fun lapses => absurd (lapses_idle lapses) ordinary,.inl rfl,linked_kept rfl⟩
  · intro other obj there
    by_cases same : other = object
    · subst same
      cases found.symm.trans there
      exact ⟨value,if_pos rfl,kind.trans plain.symm,fun handle => by rw [plain] at handle; cases handle⟩
    · exact ⟨obj,by rw [setObj_heap,if_neg same]; exact there,rfl,fun _ => rfl⟩
  · intro other obj there
    rw [setObj_heap] at there
    split at there
    · rename_i same
      exact same ▸ valid.bounded object old found
    · exact valid.bounded other obj there
  · intro other obj there handle child member
    rw [setObj_heap] at there
    split at there
    · cases there
      rw [kind] at handle
      cases handle
    · exact plainLater child (valid.wired other obj there handle child member)

theorem rewired_effect (valid : HeapValid s) (accepted : s.setRefs object change = some t)
    (ordinary : event ≠ .idleReturn) : Effect s event t := by
  unfold State.setRefs at accepted
  split at accepted
  · rename_i captured found
    cases accepted
    exact setRefs_effect valid found rfl rfl ordinary
  · rename_i refs found
    cases accepted
    exact setRefs_effect valid found rfl rfl ordinary
  · cases accepted

theorem allocate_effect (valid : HeapValid s) (accepted : step s (.allocate callable refs) = some t) :
    Effect s (.allocate callable refs) t := by
  simp only [step] at accepted
  split at accepted
  · have plain : (if callable then Obj.function refs else .other refs).isHandle = false := by
      cases callable <;> rfl
    cases accepted
    generalize (if callable then Obj.function refs else .other refs) = value at plain ⊢
    have allocated : Quiet s { s.setObj s.next value with next := s.next+1 } :=
      (Quiet.start valid).allocate value fun handle => by rw [plain] at handle; cases handle
    refine Called.effect valid ?_ (by simp)
    exact allocated.called.move ⟨rfl,rfl,rfl,rfl,rfl,rfl,rfl⟩
  · cases accepted

theorem idleReturn_effect (valid : HeapValid s) (accepted : step s .idleReturn = some t) : Effect s .idleReturn t := by
  simp only [step] at accepted
  split at accepted
  · rename_i data rest frames
    cases accepted
    have grown := Within.grows valid ((Quiet.start valid).toWithin.move (u := { s with
      sources := s.sources.eraseP (fun source => source.data == data)
      frames := rest }) rfl rfl rfl)
    refine ⟨grown,fun kept => ?_,fun lapses => ?_,.inl rfl,linked_kept rfl⟩
    · have absent : data ∉ s.sources.map Source.data := by
        rw [← lapses_exact frames,kept]
        exact Bool.false_ne_true
      refine .quiet ?_ rfl rfl
      have same : s.sources.eraseP (fun source => source.data == data) = s.sources := by
        apply List.eraseP_of_forall_not
        intro source member hit
        exact absent (List.mem_map.mpr ⟨source,member,beq_iff_eq.mp hit⟩)
      simp only [State.registered,same]
    · have member := (lapses_exact frames).mp lapses
      refine ⟨data,⟨?_,rfl,rfl⟩⟩
      exact ((erased_perm Source.data member).append_left _).trans List.perm_middle
  · cases accepted

theorem collect_effect (valid : HeapValid s) (accepted : step s .collect = some t) : Effect s .collect t := by
  simp only [step] at accepted
  split at accepted
  · rename_i idle
    cases accepted
    refine ⟨⟨Nat.le_refl _,fun object obj found => ⟨obj,found,rfl,fun _ => rfl⟩,⟨valid.bounded,valid.wired⟩⟩,
      fun _ => .quiet rfl rfl rfl,fun lapses => ?_,.inr ⟨rfl,idle,rfl⟩,linked_kept rfl⟩
    cases lapses_idle lapses
  · cases accepted

theorem step_effect (valid : HeapValid s) (accepted : step s event = some t) : Effect s event t := by
  cases event with
  | call operation answer argv => exact call_effect valid accepted
  | allocate callable refs => exact allocate_effect valid accepted
  | idleReturn => exact idleReturn_effect valid accepted
  | collect => exact collect_effect valid accepted
  | fetch parent child =>
      simp only [step] at accepted
      split at accepted <;> cases accepted
      exact SameBooks.effect valid ⟨rfl,rfl,rfl,rfl,rfl,rfl,rfl⟩ (by simp)
  | drop object =>
      simp only [step] at accepted
      split at accepted <;> cases accepted
      exact SameBooks.effect valid ⟨rfl,rfl,rfl,rfl,rfl,rfl,rfl⟩ (by simp)
  | link parent child =>
      simp only [step] at accepted
      split at accepted
      · exact rewired_effect valid accepted (by simp)
      · cases accepted
  | unlink parent child =>
      simp only [step] at accepted
      split at accepted
      · exact rewired_effect valid accepted (by simp)
      · cases accepted
  | idleCall =>
      simp only [step] at accepted
      split at accepted
      · obtain ⟨data,_,called⟩ := Option.bind_eq_some_iff.mp accepted
        obtain ⟨callee,_,moved⟩ := Option.bind_eq_some_iff.mp called
        cases moved
        exact SameBooks.effect valid ⟨rfl,rfl,rfl,rfl,rfl,rfl,rfl⟩ (by simp)
      · cases accepted
  | sourceCall data =>
      simp only [step] at accepted
      split at accepted
      · split at accepted
        · obtain ⟨callee,_,moved⟩ := Option.bind_eq_some_iff.mp accepted
          cases moved
          exact SameBooks.effect valid ⟨rfl,rfl,rfl,rfl,rfl,rfl,rfl⟩ (by simp)
        · cases accepted
      · cases accepted
  | callbackReturn =>
      simp only [step] at accepted
      split at accepted <;> cases accepted
      exact SameBooks.effect valid ⟨rfl,rfl,rfl,rfl,rfl,rfl,rfl⟩ (by simp)
  | dispatchReturn =>
      simp only [step] at accepted
      split at accepted
      · split at accepted <;> cases accepted
        exact SameBooks.effect valid ⟨rfl,rfl,rfl,rfl,rfl,rfl,rfl⟩ (by simp)
      · cases accepted

end Janetland
