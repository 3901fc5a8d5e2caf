import Janetland.GetMethods
import Janetland.FlagCodec
import Janetland.Foundations.Runs

namespace Janetland

-- The members of struct wlr_surface_state that a client sets.
inductive StateMember where
  | dx | dy | scale | width | height | bufferWidth | bufferHeight
deriving DecidableEq

def StateMember.name : StateMember → String
  | .dx => "dx"
  | .dy => "dy"
  | .scale => "scale"
  | .width => "width"
  | .height => "height"
  | .bufferWidth => "buffer_width"
  | .bufferHeight => "buffer_height"

structure SurfaceState where
  committed : BitVec 32
  seq : BitVec 32
  values : StateMember → BitVec 32

-- What a surface is for its reader: a state in preparation and one in effect.
structure Buffered where
  pending : SurfaceState
  current : SurfaceState

inductive SurfaceEvent where
  | write (member : StateMember) (value : BitVec 32)
  | commit

namespace SurfaceState

-- `flag` gives each member the bit that a write to it sets.
def write (flag : StateMember → BitVec 32) (state : SurfaceState) (member : StateMember) (value : BitVec 32) :
    SurfaceState :=
  ⟨state.committed ||| flag member,state.seq,fun other => if other = member then value else state.values other⟩

def load (mem : CMem) (at_ : Addr) : SurfaceState :=
  ⟨BitVec.ofNat 32 (mem.bits at_ "wlr_surface_state" "committed"),
    BitVec.ofNat 32 (mem.bits at_ "wlr_surface_state" "seq"),
    fun member => BitVec.ofNat 32 (mem.bits at_ "wlr_surface_state" member.name)⟩

end SurfaceState

def Buffered.step (flag : StateMember → BitVec 32) (surface : Buffered) : SurfaceEvent → Buffered
  | .write member value => ⟨surface.pending.write flag member value,surface.current⟩
  | .commit => ⟨surface.pending,surface.pending⟩

-- The same on the struct: its two states lie at different offsets.
def currentAddr (env : Env) (p : Addr) : Addr := env.memberAddr p "wlr_surface" "current"
def pendingAddr (env : Env) (p : Addr) : Addr := env.memberAddr p "wlr_surface" "pending"

namespace CMem

def setState (mem : CMem) (obj : Addr) (member : String) (value : BitVec 32) : CMem :=
  { mem with bits := fun o s m =>
      if o = obj ∧ s = "wlr_surface_state" ∧ m = member then value.toNat else mem.bits o s m }

def copyState (mem : CMem) (source target : Addr) : CMem :=
  { mem with bits := fun o s m => if o = target ∧ s = "wlr_surface_state" then mem.bits source s m else mem.bits o s m }

end CMem

def surfaceStep (env : Env) (flag : StateMember → BitVec 32) (p : Addr) (mem : CMem) : SurfaceEvent → Option CMem
  | .write member value =>
    some ((mem.setState (pendingAddr env p) member.name value).setState (pendingAddr env p) "committed"
      (BitVec.ofNat 32 (mem.bits (pendingAddr env p) "wlr_surface_state" "committed") ||| flag member))
  | .commit => some (mem.copyState (pendingAddr env p) (currentAddr env p))

-- The keys of the surface state get method.
inductive StateKey where
  | committed | seq | value (member : StateMember)
deriving DecidableEq

def StateKey.name : StateKey → String
  | .committed => "committed"
  | .seq => "seq"
  | .value .bufferWidth => "buffer-width"
  | .value .bufferHeight => "buffer-height"
  | .value member => member.name

def stateFlagRows : List (String × BitVec 32) := flagRows wlrSurfaceStateFieldDefs

-- What a script is to be told about a state.
def SurfaceState.report (env : Env) (state : SurfaceState) : StateKey → Janet
  | .committed => .array ((FlagTables.decode state.committed stateFlagRows).map .keyword)
  | .seq => env.janetWrapU64 0 state.seq.toNat
  | .value member => janetInteger (state.values member).toInt

-- `((surface :which) key)`
def surfaceView (env : Env) (mem : CMem) (self p : Addr) (which : String) (key : StateKey) : Res (Option Janet) :=
  follow { env with mem := mem } (.abstract (jlPointerToAbsObj self p .jwlrAtWlrSurface))
    [.keyword which,.keyword key.name]

def Observed (env : Env) (self p : Addr) (pair : CMem × Buffered) : Prop :=
  ∀ key, surfaceView env pair.1 self p "current" key = .ok (some (pair.2.current.report env key)) ∧
    surfaceView env pair.1 self p "pending" key = .ok (some (pair.2.pending.report env key))

theorem state_branch {env : Env} (key : StateKey) (found : methodWlrSurfaceStateGet.branch key.name = some access) :
    janetGet env (.abstract (jlPointerToAbsObj self obj .jwlrAtWlrSurfaceState)) (.keyword key.name) =
      (access.read env "wlr_surface_state" obj >>= fun value => .ok (some value)) := by
  rw [janetGet_wrapped (rfl : AbsType.jwlrAtWlrSurfaceState.getMethod = some methodWlrSurfaceStateGet),
    GetMethod.run_unscanned _ rfl rfl,found]
  rfl

theorem state_get {env : Env} (live : obj ≠ 0) (key : StateKey) :
    janetGet env (.abstract (jlPointerToAbsObj self obj .jwlrAtWlrSurfaceState)) (.keyword key.name) =
      .ok (some ((SurfaceState.load env.mem obj).report env key)) := by
  cases key with
  | committed =>
      have table : wlrSurfaceStateFieldDefs = stateFlagRows.map (fun row => keyDef row.1 row.2.toInt) ++ [.null] := by
        decide
      rw [state_branch .committed rfl]
      simp only [Access.read,Env.readBits_live _ live,Res.bind_ok,table,FlagDefs.flagKeys_rows]
      rfl
  | seq =>
      rw [state_branch .seq rfl]
      simp [Access.read,live,SurfaceState.report,SurfaceState.load,uint32]
  | value member =>
      cases member <;> rw [state_branch (.value _) rfl] <;>
        simp [Access.read,live,SurfaceState.report,SurfaceState.load,CType.toInt32,StateMember.name]

theorem surface_branch {env : Env} (found : methodWlrSurfaceGet.branch which = some (.inner member type))
    (noSignal : scanOutcome which methodWlrSurfaceGet.signals = .stopped) :
    janetGet env (.abstract (jlPointerToAbsObj self p .jwlrAtWlrSurface)) (.keyword which) =
      .ok (some (.abstract (jlPointerToAbsObj (env.alloc 0) (env.memberAddr p "wlr_surface" member) type))) := by
  rw [janetGet_wrapped (rfl : AbsType.jwlrAtWlrSurface.getMethod = some methodWlrSurfaceGet),
    GetMethod.run_unscanned _ noSignal rfl,found]
  rfl

-- Both keys of the surface lead to its current state.
theorem view_current {env : Env} (live : p ≠ 0) (which : String) (known : which ∈ ["current","pending"])
    (mem : CMem) (key : StateKey) : surfaceView env mem self p which key =
      .ok (some ((SurfaceState.load mem (currentAddr env p)).report env key)) := by
  have there : currentAddr env p ≠ 0 := Nat.ne_of_gt (Nat.add_pos_left (Nat.pos_of_ne_zero live) _)
  have branch : methodWlrSurfaceGet.branch which = some (.inner "current" .jwlrAtWlrSurfaceState) ∧
      scanOutcome which methodWlrSurfaceGet.signals = .stopped := by
    simp only [List.mem_cons,List.not_mem_nil,or_false] at known
    rcases known with rfl | rfl <;> decide
  unfold surfaceView follow
  rw [surface_branch branch.1 branch.2]
  simp only [Res.bind_ok,follow]
  change Res.bind (janetGet { env with mem := mem } (.abstract (jlPointerToAbsObj (env.alloc 0) (currentAddr env p)
    .jwlrAtWlrSurfaceState)) (.keyword key.name)) _ = _
  rw [state_get there]
  rfl

theorem integer_exact {left right : BitVec 32} : janetInteger left.toInt = janetInteger right.toInt ↔ left = right := by
  simp [janetInteger,BitVec.toInt_inj]

-- Two states that no key tells apart.
def SurfaceState.Alike (left right : SurfaceState) : Prop :=
  FlagTables.decode left.committed stateFlagRows = FlagTables.decode right.committed stateFlagRows ∧
    left.seq = right.seq ∧ left.values = right.values

theorem SurfaceState.alike_exact {env : Env} {left right : SurfaceState} :
    (∀ key, left.report env key = right.report env key) ↔ left.Alike right := by
  constructor
  · intro same
    refine ⟨?_,?_,?_⟩
    · have committed := same .committed
      simpa [report,List.map_inj_right] using committed
    · have seq := same .seq
      simpa [report,Env.janetWrapU64,BitVec.toNat_inj] using seq
    · funext member
      exact integer_exact.mp (same (.value member))
  · rintro ⟨committed,seq,values⟩ key
    cases key <;> simp [report,committed,seq,values]

theorem load_setState {mem : CMem} (member : StateMember) (value committed : BitVec 32) :
    SurfaceState.load ((mem.setState obj member.name value).setState obj "committed" committed) obj =
      ⟨committed,(SurfaceState.load mem obj).seq,
        fun other => if other = member then value else (SurfaceState.load mem obj).values other⟩ := by
  simp only [SurfaceState.load,CMem.setState,SurfaceState.mk.injEq]
  refine ⟨by simp,?_,?_⟩
  · cases member <;> simp [StateMember.name]
  · funext other
    cases member <;> cases other <;> simp [StateMember.name]

theorem load_elsewhere {mem : CMem} (apart : at_ ≠ obj) :
    SurfaceState.load (mem.setState obj member value) at_ = SurfaceState.load mem at_ := by
  simp [SurfaceState.load,CMem.setState,apart]

theorem load_copied {mem : CMem} : SurfaceState.load (mem.copyState source target) target =
    SurfaceState.load mem source := by
  simp [SurfaceState.load,CMem.copyState]

theorem load_uncopied {mem : CMem} (apart : at_ ≠ target) :
    SurfaceState.load (mem.copyState source target) at_ = SurfaceState.load mem at_ := by
  simp [SurfaceState.load,CMem.copyState,apart]

-- The surface that the memory holds at `p`.
def Buffered.load (env : Env) (p : Addr) (mem : CMem) : Buffered :=
  ⟨SurfaceState.load mem (pendingAddr env p),SurfaceState.load mem (currentAddr env p)⟩

section
variable {env : Env} {flag : StateMember → BitVec 32} {self p : Addr} {mem next : CMem} {event : SurfaceEvent}

theorem surface_refines (apart : pendingAddr env p ≠ currentAddr env p)
    (accepted : surfaceStep env flag p mem event = some next) :
    Buffered.load env p next = (Buffered.load env p mem).step flag event := by
  cases event with
  | write member value =>
      cases accepted
      simp only [Buffered.load,Buffered.step,load_setState,load_elsewhere apart.symm,SurfaceState.write]
      rfl
  | commit =>
      cases accepted
      simp only [Buffered.load,Buffered.step,load_copied,load_uncopied apart]

theorem observed_exact (live : p ≠ 0) {surface : Buffered} (loaded : surface = Buffered.load env p mem) :
    Observed env self p (mem,surface) ↔ surface.pending.Alike surface.current := by
  subst loaded
  have reports : (∀ key, (Buffered.load env p mem).pending.report env key =
      (Buffered.load env p mem).current.report env key) ↔ _ := SurfaceState.alike_exact
  rw [← reports]
  constructor
  · intro observed key
    have seen := (observed key).2
    rw [view_current live "pending" (by simp)] at seen
    simpa [Buffered.load] using seen.symm
  · intro alike key
    refine ⟨view_current live "current" (by simp) mem key,?_⟩
    rw [view_current live "pending" (by simp)]
    exact congrArg (fun value => Res.ok (some value)) (alike key).symm

-- A write that no reader of the pending state could notice once the state is in effect.
def Redundant (flag : StateMember → BitVec 32) (surface : Buffered) : SurfaceEvent → Prop
  | .write member value => value = surface.current.values member ∧
      FlagTables.decode (surface.pending.committed ||| flag member) stateFlagRows =
        FlagTables.decode surface.current.committed stateFlagRows
  | .commit => True

theorem step_alike {surface : Buffered} (alike : surface.pending.Alike surface.current) :
    (surface.step flag event).pending.Alike (surface.step flag event).current ↔ Redundant flag surface event := by
  obtain ⟨committed,seq,values⟩ := alike
  cases event with
  | commit => simp [Buffered.step,Redundant,SurfaceState.Alike]
  | write member value =>
      simp only [Buffered.step,Redundant,SurfaceState.Alike,SurfaceState.write,seq,true_and,values]
      constructor
      · rintro ⟨flags,same⟩
        exact ⟨by simpa using congrFun same member,flags⟩
      · rintro ⟨same,flags⟩
        refine ⟨flags,?_⟩
        funext other
        split
        · rename_i equal; rw [same,equal]
        · rfl

theorem surface_views_exact (self p : Addr) (live : p ≠ 0)
    (apart : pendingAddr env p ≠ currentAddr env p) (mem : CMem) (events : List SurfaceEvent) :
    (∀ pair ∈ EventRuns.visited (EventRuns.followed (surfaceStep env flag p) fun _ surface => surface.step flag)
        (mem,Buffered.load env p mem) events, Observed env self p pair) ↔
      (Buffered.load env p mem).pending.Alike (Buffered.load env p mem).current ∧
        ∀ row ∈ EventRuns.taken (EventRuns.followed (surfaceStep env flag p) fun _ surface => surface.step flag)
          (mem,Buffered.load env p mem) events, Redundant flag row.1.2 row.2 := by
  have followed : ∀ (t : CMem × Buffered) event next, t.2 = Buffered.load env p t.1 →
      EventRuns.followed (surfaceStep env flag p) (fun _ surface => surface.step flag) t event = some next →
        surfaceStep env flag p t.1 event = some next.1 ∧ next.2 = t.2.step flag event := by
    intro t event next loaded accepted
    obtain ⟨stepped,ghost⟩ := EventRuns.followed_exact.mp accepted
    exact ⟨stepped,ghost.symm⟩
  have preserved : ∀ (t : CMem × Buffered) event next, t.2 = Buffered.load env p t.1 →
      EventRuns.followed (surfaceStep env flag p) (fun _ surface => surface.step flag) t event = some next →
        next.2 = Buffered.load env p next.1 := by
    intro t event next loaded accepted
    obtain ⟨stepped,ghost⟩ := followed t event next loaded accepted
    rw [ghost,loaded,surface_refines apart stepped]
  have kept : ∀ (t : CMem × Buffered) event next, t.2 = Buffered.load env p t.1 → Observed env self p t →
      EventRuns.followed (surfaceStep env flag p) (fun _ surface => surface.step flag) t event = some next →
        (Observed env self p next ↔ Redundant flag t.2 event) := by
    intro t event next loaded observed accepted
    obtain ⟨_,ghost⟩ := followed t event next loaded accepted
    have alike := (observed_exact live loaded).mp observed
    rw [observed_exact live (preserved t event next loaded accepted),ghost]
    exact step_alike alike
  have start : Observed env self p (mem,Buffered.load env p mem) ↔ _ := observed_exact live rfl
  constructor
  · intro observed
    have first := observed _ (EventRuns.visited_start events)
    exact ⟨start.mp first,(EventRuns.gate_exact _ _ _ preserved kept rfl first).mp observed⟩
  · rintro ⟨alike,redundant⟩
    exact (EventRuns.gate_exact _ _ _ preserved kept rfl (start.mpr alike)).mpr redundant

end

def twinEnv : Env := { blankEnv with offsetof := fun _ member => if member = "pending" then 400 else 200 }

-- A client writes what the surface has already, commits, and then writes a new dx.
def attaching : List SurfaceEvent := [.write .dx 0,.commit,.write .dx 5]

theorem surface_views_twin : pendingAddr twinEnv 64 ≠ currentAddr twinEnv 64 ∧
    ((∀ pair ∈ EventRuns.visited (EventRuns.followed (surfaceStep twinEnv (fun _ => 512) 64) fun _ surface =>
        surface.step fun _ => 512) (blankMem,Buffered.load twinEnv 64 blankMem) attaching, Observed twinEnv 8 64 pair) ↔
      (Buffered.load twinEnv 64 blankMem).pending.Alike (Buffered.load twinEnv 64 blankMem).current ∧
        ∀ row ∈ EventRuns.taken (EventRuns.followed (surfaceStep twinEnv (fun _ => 512) 64) fun _ surface =>
          surface.step fun _ => 512) (blankMem,Buffered.load twinEnv 64 blankMem) attaching,
          Redundant (fun _ => 512) row.1.2 row.2) :=
  ⟨by decide,surface_views_exact 8 64 (by decide) (by decide) blankMem attaching⟩

-- A client attaches with dx = 5 and has not committed yet: the pending state still reads 0.
theorem pending_view_stale : ¬∀ env flag self p mem events, p ≠ 0 → pendingAddr env p ≠ currentAddr env p →
    ∀ pair ∈ EventRuns.visited (EventRuns.followed (surfaceStep env flag p) fun _ surface => surface.step flag)
      (mem,Buffered.load env p mem) events, Observed env self p pair := by
  intro complete
  have observed := complete twinEnv (fun _ => 512) 8 64 blankMem [.write .dx 5] (by decide) (by decide) _
    (List.mem_cons_of_mem _ List.mem_cons_self)
  have seen := (observed (.value .dx)).2
  rw [view_current (by decide) "pending" (by simp)] at seen
  have same : janetInteger 0 = janetInteger 5 := Option.some.inj (Res.ok.inj seen)
  simp [janetInteger] at same

end Janetland
