import Janetland.RegistrationEffects
import Janetland.Foundations.Runs

namespace Janetland
open Ledger

def Obj.notifies (function : Addr) : Obj → Bool
  | .listener notifyFn => notifyFn == function
  | _ => false

def Obj.calls (function : Addr) : Obj → Bool
  | .eventSource _ cbFn => cbFn == some function
  | _ => false

def Obj.reads (object : Addr) : Obj → Bool
  | .eventSource input _ => input == some object
  | _ => false

namespace State

-- What a handle refers to, whether or not Janet still has the object.
def references (s : State) (handle : Addr) : List Addr := ((s.heap handle).map Obj.edges).getD []

-- With multiplicity, what the live registrations and the log callback count on.
def held (s : State) : List Addr := s.registered.flatMap s.references ++ s.logFn.toList

def amount (s : State) (accepts : Obj → Bool) (handles : List Addr) : Nat :=
  handles.countP fun handle => (s.heap handle).any accepts

def listenersOf (s : State) (function : Addr) : Nat := s.amount (Obj.notifies function) s.registered
def sourcesOf (s : State) (function : Addr) : Nat := s.amount (Obj.calls function) s.registered
def streamsOf (s : State) (object : Addr) : Nat := s.amount (Obj.reads object) s.registered
def loggersOf (s : State) (function : Addr) : Nat := if s.logFn = some function then 1 else 0

end State

-- Before the script's first call: the modules are loaded, and nothing is registered.
structure Start (s : State) : Prop where
  bounded : ∀ object obj, s.heap object = some obj → object < s.next
  plain : ∀ object obj, s.heap object = some obj → obj.isHandle = false
  rooted : ∀ root ∈ s.roots, Plain s root
  freed : s.freed = []
  links : s.links = []
  sources : s.sources = []
  logFn : s.logFn = none

theorem opening_start (plain : ∀ obj ∈ objects, obj.isHandle = false) : Start (opening objects) := by
  refine ⟨?_,?_,by simp [opening],rfl,rfl,rfl,rfl⟩
  · intro object obj found
    exact (List.getElem?_eq_some_iff.mp found).choose
  · intro object obj found
    exact plain obj (List.mem_of_getElem? found)

def RegistrableAll (s : State) : Prop :=
  ∀ handle ∈ s.registered, ∃ obj, s.heap handle = some obj ∧ Registrable obj

-- The books: everything a registration counts on has its own entry among the roots,
-- on top of the entries that were there before this library added any.
structure Balanced (base : List Addr) (s : State) : Prop where
  heap : HeapValid s
  handles : RegistrableAll s
  covered : Covered base s.held s.roots

variable {s t : State} {base rows : List Addr}

theorem registrable_handle (registrable : Registrable obj) : obj.isHandle = true := by
  rcases registrable with ⟨notifyFn,rfl⟩ | ⟨stream,cbFn,rfl⟩ <;> rfl

theorem registrable_edges (registrable : Registrable obj) : obj.edges ≠ [] := by
  rcases registrable with ⟨notifyFn,rfl⟩ | ⟨stream,cbFn,rfl⟩ <;> simp [Obj.edges]

theorem references_found (found : s.heap handle = some obj) : s.references handle = obj.edges := by
  simp [State.references,found]

theorem edges_count (registrable : Registrable obj) (object : Addr) : obj.edges.count object =
    (obj.notifies object).toNat + (obj.calls object).toNat + (obj.reads object).toNat := by
  have one (other : Addr) : [other].count object = (other == object).toNat := by
    cases same : other == object <;> simp_all
  rcases registrable with ⟨notifyFn,rfl⟩ | ⟨stream,cbFn,rfl⟩
  · simpa [Obj.edges,Obj.notifies,Obj.calls,Obj.reads] using one notifyFn
  · have callback := one cbFn
    cases stream with
    | none => simpa [Obj.edges,Obj.notifies,Obj.calls,Obj.reads] using callback
    | some input =>
        have first := one input
        simp only [Obj.edges,Obj.notifies,Obj.calls,Obj.reads,Option.toList_some,List.count_append,
          Option.some_beq_some,first,callback,Bool.toNat_false]
        omega

-- Counting what registrations hold is counting the registrations, kind by kind.
theorem registrations_count (handles : ∀ handle ∈ rows, ∃ obj, s.heap handle = some obj ∧ Registrable obj)
    (object : Addr) : (rows.flatMap s.references).count object =
    s.amount (Obj.notifies object) rows + s.amount (Obj.calls object) rows + s.amount (Obj.reads object) rows := by
  induction rows with
  | nil => rfl
  | cons handle rest ih =>
      obtain ⟨⟨obj,found,registrable⟩,later⟩ := List.forall_mem_cons.mp handles
      have tail := ih later
      have head := edges_count registrable object
      simp only [State.amount] at tail
      simp only [State.amount,List.flatMap_cons,List.count_append,List.countP_cons,references_found found,found,
        Option.any_some,tail,head]
      cases obj.notifies object <;> cases obj.calls object <;> cases obj.reads object <;> simp <;> omega

theorem held_count (handles : RegistrableAll s) (object : Addr) : s.held.count object =
    s.listenersOf object + s.sourcesOf object + s.streamsOf object + s.loggersOf object := by
  have logged : s.logFn.toList.count object = s.loggersOf object := by
    unfold State.loggersOf
    cases s.logFn with
    | none => rfl
    | some other => simp [List.count_singleton]
  rw [State.held,List.count_append,registrations_count handles,logged]
  rfl

theorem start_balanced (start : Start s) : Balanced s.roots s := by
  have none_ : s.registered = [] := by simp [State.registered,start.links,start.sources]
  refine ⟨⟨start.bounded,?_⟩,?_,?_⟩
  · intro object obj found handle
    rw [start.plain object obj found] at handle
    cases handle
  · intro handle member
    rw [none_] at member
    cases member
  · intro object
    simp [State.held,none_,start.logFn]

-- A handle that was registered before a step refers to the same objects after it.
theorem references_kept (grows : Grows s t) (found : s.heap handle = some obj) (registrable : Registrable obj) :
    t.heap handle = some obj ∧ t.references handle = s.references handle := by
  obtain ⟨later,after,_,same⟩ := grows.kept handle obj found
  cases same (registrable_handle registrable)
  exact ⟨after,by rw [references_found after,references_found found]⟩

theorem flatMap_kept (grows : Grows s t) (handles : ∀ handle ∈ rows, ∃ obj, s.heap handle = some obj ∧ Registrable obj) :
    rows.flatMap t.references = rows.flatMap s.references := by
  apply List.flatMap_congr
  intro handle member
  obtain ⟨obj,found,registrable⟩ := handles handle member
  exact (references_kept grows found registrable).2

theorem handles_kept (grows : Grows s t) (handles : RegistrableAll s) (member : handle ∈ s.registered) :
    ∃ obj, t.heap handle = some obj ∧ Registrable obj := by
  obtain ⟨obj,found,registrable⟩ := handles handle member
  exact ⟨obj,(references_kept grows found registrable).1,registrable⟩

-- What the four kinds of settled step do to what is held.
inductive Turnover (s t : State) : Prop where
  | same (held : t.held = s.held) (roots : t.roots = s.roots)
  | acquired (taken : List Addr) (held : t.held.Perm (taken ++ s.held)) (roots : t.roots = s.roots ++ taken)
  | released (given : List Addr) (held : s.held.Perm (given ++ t.held)) (roots : t.roots = s.roots.diff given)
  | replaced (given taken between : List Addr) (before : s.held.Perm (given ++ between))
      (after : t.held.Perm (taken ++ between)) (roots : t.roots = s.roots.diff given ++ taken)

theorem settled_handles (grows : Grows s t) (settled : Settled s t) (handles : RegistrableAll s) :
    RegistrableAll t := by
  intro handle member
  cases settled with
  | quiet registered _ _ => exact handles_kept grows handles (registered ▸ member)
  | logged _ registered _ _ _ => exact handles_kept grows handles (registered ▸ member)
  | opened added obj taken fresh registered made registrable _ _ _ =>
      rcases List.mem_cons.mp (registered.mem_iff.mp member) with rfl | old
      · exact ⟨obj,made,registrable⟩
      · exact handles_kept grows handles old
  | closed removed obj registered _ _ _ =>
      exact handles_kept grows handles (registered.mem_iff.mpr (List.mem_cons_of_mem _ member))

theorem settled_turnover (grows : Grows s t) (settled : Settled s t) (handles : RegistrableAll s) : Turnover s t := by
  have before : s.registered.flatMap t.references = s.registered.flatMap s.references :=
    flatMap_kept grows handles
  cases settled with
  | quiet registered roots logFn =>
      exact .same (by rw [State.held,registered,logFn,before,State.held]) roots
  | opened handle obj taken fresh registered made registrable perm roots logFn =>
      refine .acquired taken ?_ roots
      have rows := registered.flatMap_right t.references
      rw [List.flatMap_cons,references_found made,before] at rows
      rw [State.held,State.held,logFn,← List.append_assoc]
      exact (rows.trans (perm.symm.append_right _)).append_right _
  | closed handle obj registered found roots logFn =>
      refine .released obj.edges ?_ roots
      have rows := registered.flatMap_right t.references
      rw [List.flatMap_cons,before] at rows
      have kept : t.references handle = obj.edges := by
        obtain ⟨other,there,registrable⟩ := handles handle (registered.mem_iff.mpr List.mem_cons_self)
        cases found.symm.trans there
        rw [(references_kept grows found registrable).2,references_found found]
      rw [State.held,State.held,logFn,← List.append_assoc,← kept]
      exact rows.append_right _
  | logged cb registered _ roots logFn =>
      refine .replaced s.logFn.toList [cb] (s.registered.flatMap s.references) List.perm_append_comm ?_ roots
      rw [State.held,registered,before,logFn]
      exact List.perm_append_comm

theorem turnover_covered (covered : Covered base s.held s.roots) (turnover : Turnover s t) :
    Covered base t.held t.roots := by
  cases turnover with
  | same held roots => rwa [held,roots]
  | acquired taken held roots =>
      rw [roots]
      exact acquire_covered covered held
  | released given held roots =>
      rw [roots]
      exact release_covered covered held
  | replaced given taken between before after roots =>
      rw [roots]
      exact acquire_covered (release_covered covered before) after

theorem turnover_exceeds (covered : Covered base s.held s.roots) (turnover : Turnover s t) :
    Exceeds base t.held t.roots ↔ Exceeds base s.held s.roots := by
  cases turnover with
  | same held roots => rw [held,roots]
  | acquired taken held roots =>
      rw [roots]
      exact acquire_exceeds held
  | released given held roots =>
      rw [roots]
      exact release_exceeds covered held
  | replaced given taken between before after roots =>
      rw [roots,acquire_exceeds after]
      exact release_exceeds covered before

-- A lapsed registration is gone, but what it held has kept its roots.
theorem lapsed_held (grows : Grows s t) (handles : RegistrableAll s) (lapsed : Lapsed s t handle) :
    ∃ obj, Registrable obj ∧ s.held.Perm (obj.edges ++ t.held) := by
  obtain ⟨obj,found,registrable⟩ := handles handle (lapsed.registered.mem_iff.mpr List.mem_cons_self)
  refine ⟨obj,registrable,?_⟩
  have rows := lapsed.registered.flatMap_right t.references
  rw [List.flatMap_cons,flatMap_kept grows handles,(references_kept grows found registrable).2,
    references_found found] at rows
  rw [State.held,State.held,lapsed.logFn,← List.append_assoc]
  exact rows.append_right _

theorem balanced_preserved (balanced : Balanced base s) (accepted : step s event = some t) : Balanced base t := by
  have effect := step_effect balanced.heap accepted
  have grows := effect.grows
  cases lapses : s.lapses event with
  | true =>
      obtain ⟨handle,lapsed⟩ := effect.lapsed lapses
      obtain ⟨obj,_,held⟩ := lapsed_held grows balanced.handles lapsed
      refine ⟨grows.valid,?_,?_⟩
      · intro other member
        exact handles_kept grows balanced.handles (lapsed.registered.mem_iff.mpr (List.mem_cons_of_mem _ member))
      · rw [lapsed.roots]
        exact abandon_covered balanced.covered held
  | false =>
      have settled := effect.settled lapses
      exact ⟨grows.valid,settled_handles grows settled balanced.handles,
        turnover_covered balanced.covered (settled_turnover grows settled balanced.handles)⟩

theorem run_balanced (start : Start s) : ∀ t ∈ EventRuns.visited step s events, Balanced s.roots t :=
  EventRuns.visited_invariant (Balanced s.roots) (fun _ _ _ balanced accepted => balanced_preserved balanced accepted)
    (start_balanced start)

-- Every registration's function and stream stays rooted once for each registration.
theorem registrations_rooted (start : Start s) : ∀ t ∈ EventRuns.visited step s events, ∀ object,
    t.listenersOf object + t.sourcesOf object + t.loggersOf object ≤ t.roots.count object ∧
    t.streamsOf object ≤ t.roots.count object := by
  intro t visited object
  have balanced := run_balanced start t visited
  have covered := balanced.covered object
  rw [held_count balanced.handles] at covered
  omega

def eventLoop : Janet := .abstract ⟨0,.own .jwlAtWlEventLoop,.wrapper 4096⟩
def signalCell : Janet := .abstract ⟨0,.own .jwlAtWlSignal,.wrapper 8192⟩

def sharedFunctionRun : List Event := [
  .call .signalAdd true [signalCell,.function 0],
  .call .addTimer true [eventLoop,.function 0],
  .call .addTimer false [eventLoop,.function 0],
  .call .logInit true [.keyword "debug",.function 0],
  .call .signalRemove true [wrapHandle 1 .jwlAtListener],
  .call .logInit true [.keyword "debug",.function 0]]

theorem shared_function_rooted : (EventRuns.visited step (opening [.function []]) sharedFunctionRun).length = 7 ∧
    ∀ t ∈ EventRuns.visited step (opening [.function []]) sharedFunctionRun, ∀ object,
      t.listenersOf object + t.sourcesOf object + t.loggersOf object ≤ t.roots.count object ∧
      t.streamsOf object ≤ t.roots.count object :=
  ⟨by decide,registrations_rooted (opening_start (by decide))⟩

-- No root entry is left over: beyond those of `base` each stands for one registration.
def Unleaked (base : List Addr) (s : State) : Prop := ∀ object, s.roots.count object ≤ base.count object +
  (s.listenersOf object + s.sourcesOf object + s.streamsOf object + s.loggersOf object)

theorem unleaked_exact (handles : RegistrableAll s) : Unleaked base s ↔ ¬Exceeds base s.held s.roots := by
  simp only [Unleaked,Exceeds,held_count handles,not_exists,Nat.not_lt]

theorem unleaked_step (balanced : Balanced base s) (tight : Unleaked base s) (accepted : step s event = some t) :
    Unleaked base t ↔ s.lapses event = false := by
  have effect := step_effect balanced.heap accepted
  have grows := effect.grows
  rw [unleaked_exact (balanced_preserved balanced accepted).handles]
  rw [unleaked_exact balanced.handles] at tight
  cases lapses : s.lapses event with
  | true =>
      obtain ⟨handle,lapsed⟩ := effect.lapsed lapses
      obtain ⟨obj,registrable,held⟩ := lapsed_held grows balanced.handles lapsed
      have leaked : Exceeds base t.held t.roots := by
        rw [lapsed.roots]
        exact abandon_exceeds balanced.covered held (registrable_edges registrable)
      exact ⟨fun none_ => absurd leaked none_,fun none_ => by cases none_⟩
  | false =>
      rw [turnover_exceeds balanced.covered (settled_turnover grows (effect.settled lapses) balanced.handles)]
      exact ⟨fun _ => rfl,fun _ => tight⟩

-- A run leaks no root exactly when no idle callback returns while its source is still
-- registered, for then libwayland ends the registration and nobody unroots.
theorem unleaked_run_exact (start : Start s) : (∀ t ∈ EventRuns.visited step s events, Unleaked s.roots t) ↔
    ∀ row ∈ EventRuns.taken step s events, row.1.lapses row.2 = false := by
  have balanced := start_balanced start
  apply EventRuns.gate_exact (Balanced s.roots) (Unleaked s.roots) (fun t event => t.lapses event = false)
    (fun _ _ _ balanced accepted => balanced_preserved balanced accepted)
    (fun _ _ _ balanced tight accepted => unleaked_step balanced tight accepted) balanced
  exact fun object => Nat.le_add_right _ _

def removedIdleRun : List Event := [
  .call .addIdle true [eventLoop,.function 0],
  .call .sourceRemove true [wrapHandle 1 .jwlAtEventSource],
  .call .dispatchIdle true [eventLoop],
  .dispatchReturn]

theorem removed_idle_unleaked : (EventRuns.visited step (opening [.function []]) removedIdleRun).length = 5 ∧
    ∀ t ∈ EventRuns.visited step (opening [.function []]) removedIdleRun, Unleaked [] t :=
  ⟨by decide,(unleaked_run_exact (opening_start (by decide))).mpr (by decide)⟩

def dispatchedIdleRun : List Event := [
  .call .addIdle true [eventLoop,.function 0],
  .call .dispatchIdle true [eventLoop],
  .idleCall,
  .idleReturn]

theorem dispatched_idle_leaks :
    ¬∀ t ∈ EventRuns.visited step (opening [.function []]) dispatchedIdleRun, Unleaked [] t := by
  intro unleaked
  have leaked : ∃ t ∈ EventRuns.visited step (opening [.function []]) dispatchedIdleRun, ([] : List Addr).count 0 +
      (t.listenersOf 0 + t.sourcesOf 0 + t.streamsOf 0 + t.loggersOf 0) < t.roots.count 0 := by decide
  obtain ⟨t,visited,more⟩ := leaked
  exact absurd (unleaked t visited 0) (Nat.not_le.mpr more)

end Janetland
