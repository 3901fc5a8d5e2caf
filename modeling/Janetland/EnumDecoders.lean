import Janetland.Logging
import Janetland.ScanBounds

namespace Janetland

-- The two decoders outside the get methods; the log callback is in Logging.
def cfunWlrLogGetVerbosity (s : State) (argv : List Janet) : Res Janet := do
  janetFixarity argv 0
  let verb := BitVec.ofInt 32 s.logImportance
  if 4 < verb.toNat then panicf "unknown log level: %d" [janetInteger verb.toInt]
  else keyAt logDefs verb.toNat

-- `hasError` is what xcb_connection_has_error returns for a connection.
def cfunXcbConnectionHasError (hasError : Addr → BitVec 32) (argv : List Janet) : Res Janet := do
  janetFixarity argv 1
  let conn ← jlGetAbsObjPointer argv 0 .jxcbAtXcbConnectionT
  let err := (hasError conn).toInt
  if err < 0 ∨ 7 < err then panicf "unknown error code from xcb connection: %d" [janetInteger err]
  else keyAt xcbConnErrorDefs err.toNat

-- A panic comes before the table is read, and a keyword names an entry with the raw key.
def KeyGuarded (table : List KeyDef) (raw : BitVec 32) : Res (List Janet) → Prop
  | .panic _ => True
  | .ok values => ∀ value ∈ values, ∃ entry ∈ table, ∃ name ∈ entry.name,
      BitVec.ofInt 32 entry.key = raw ∧ value = .keyword name
  | .fault kind => kind ≠ .keyTable ∧ kind ≠ .nullDeref

-- The places that turn an enum into a keyword by indexing a table.
inductive EnumPlace where
  | logCallback | logGetVerbosity | connectionHasError
  | xdgSurfaceRole | sceneNodeType | inputDeviceType | outputModeAspectRatio | buttonState
  | axisSource | axisOrientation | keyboardKeyState
deriving DecidableEq

namespace EnumPlace

def table : EnumPlace → List KeyDef
  | .logCallback | .logGetVerbosity => logDefs
  | .connectionHasError => xcbConnErrorDefs
  | .xdgSurfaceRole => wlrXdgSurfaceRoleDefs
  | .sceneNodeType => wlrSceneNodeTypeDefs
  | .inputDeviceType => wlrInputDeviceDefs
  | .outputModeAspectRatio => wlrOutputModeAspectRatioDefs
  | .buttonState => wlrButtonStateDefs
  | .axisSource => wlrAxisSourceDefs
  | .axisOrientation => wlrAxisOrientationDefs
  | .keyboardKeyState => wlKeyboardKeyStateDefs

-- The type and keyword of a place that is a branch of a get method.
def owner : EnumPlace → Option (AbsType × String)
  | .xdgSurfaceRole => some (.jwlrAtWlrXdgSurface,"role")
  | .sceneNodeType => some (.jwlrAtWlrSceneNode,"type")
  | .inputDeviceType => some (.jwlrAtWlrInputDevice,"type")
  | .outputModeAspectRatio => some (.jwlrAtWlrOutputMode,"picture-aspect-ratio")
  | .buttonState => some (.jwlrAtWlrPointerButtonEvent,"state")
  | .axisSource => some (.jwlrAtWlrPointerAxisEvent,"source")
  | .axisOrientation => some (.jwlrAtWlrPointerAxisEvent,"orientation")
  | .keyboardKeyState => some (.jwlrAtWlrKeyboardKeyEvent,"state")
  | _ => none

def all : List EnumPlace := [.logCallback,.logGetVerbosity,.connectionHasError,.xdgSurfaceRole,
  .sceneNodeType,.inputDeviceType,.outputModeAspectRatio,.buttonState,.axisSource,.axisOrientation,
  .keyboardKeyState]

-- The runs of a place on a raw value, each with the keywords it made of the value.
inductive Runs (raw : BitVec 32) : EnumPlace → Res (List Janet) → Prop
  | callback {α : Type} (convert : List UInt8 → α → List UInt8) (fn : Option Addr) (fmt : List UInt8)
      (args : List α) : Runs raw .logCallback
        (jwlrLogCallback convert fn raw.toNat fmt args >>= fun calls => .ok (calls.filterMap (·.argv.head?)))
  | verbosity (s : State) (argv : List Janet) (importance : BitVec.ofInt 32 s.logImportance = raw) :
      Runs raw .logGetVerbosity (cfunWlrLogGetVerbosity s argv >>= fun value => .ok [value])
  | connection (hasError : Addr → BitVec 32) (argv : List Janet) (error : ∀ conn, hasError conn = raw) :
      Runs raw .connectionHasError (cfunXcbConnectionHasError hasError argv >>= fun value => .ok [value])
  | member (place : EnumPlace) (env : Env) (owned : place.owner = some (type,kw))
      (method : type.getMethod = some getMethod) (access : getMethod.branch kw = some branch) (live : obj ≠ 0)
      (value : uint32 (env.mem.bits obj getMethod.struct branch.member) = raw.toNat) :
      Runs raw place (branch.read env getMethod.struct obj >>= fun value => .ok [value])

end EnumPlace

def Access.decodesEnum : Access → Bool
  | .enumKey _ _ _ => true
  | .nilOr access => access.decodesEnum
  | _ => false

-- The places above are all that the get methods have.
theorem enum_branches_listed : ∀ type ∈ AbsType.all, ∀ method ∈ type.getMethod, ∀ row ∈ method.members,
    row.2.decodesEnum = true → ∃ place ∈ EnumPlace.all, place.owner = some (type,row.1) := by decide

-- An entry's index is its key, and a search by its name finds it.
def Indexed (table : List KeyDef) : Prop := ∀ i < keyDefCount table, ∃ entry ∈ table[i]?, ∃ name ∈ entry.name,
  entry.key = i ∧ SentinelScan.scan KeyDef.name (janetCstrcmp name) table = .hit entry

instance (table : List KeyDef) : Decidable (Indexed table) := by
  unfold Indexed
  infer_instance

theorem enum_tables_indexed (place : EnumPlace) : Indexed place.table := by
  cases place <;> decide

theorem keyAt_indexed (indexed : Indexed table) (inside : i < keyDefCount table) : ∃ entry ∈ table,
    ∃ name ∈ entry.name, entry.key = i ∧ keyAt table i = .ok (.keyword name) := by
  obtain ⟨entry,found,name,named,key,_⟩ := indexed i inside
  refine ⟨entry,List.mem_of_getElem? found,name,named,key,?_⟩
  rw [keyAt,Option.mem_def.mp found]
  exact congrArg janetCkeywordv (Option.mem_def.mp named)

theorem printAll_faults {α : Type} {convert : List UInt8 → α → List UInt8} {args : List α}
    (faulted : printAll convert fmt args = .fault kind) : kind = .missingArgument ∨ kind = .overflow := by
  unfold printAll vsnprintf at faulted
  cases rendered : Directives.format convert fmt args with
  | none =>
      rw [rendered] at faulted
      cases faulted
      exact .inl rfl
  | some text =>
      simp only [rendered,Res.bind_fault_exact] at faulted
      rcases faulted with first | ⟨printed,_,again⟩
      · split at first <;> cases first
      · repeat' split at again
        all_goals cases again
        exact .inr rfl

theorem EnumPlace.branch_exact (place : EnumPlace) (owned : place.owner = some (type,kw))
    (method : type.getMethod = some getMethod) (access : getMethod.branch kw = some branch) :
    ∃ field guarded, branch = .enumKey field place.table guarded ∧ (guarded = none ↔ place = .keyboardKeyState) := by
  cases place <;> cases owned <;> cases method <;> cases access <;> exact ⟨_,_,rfl,by simp⟩

theorem ofNat_toNat_word (raw : BitVec 32) : BitVec.ofNat 32 raw.toNat = raw := by simp

theorem key_made (indexed : Indexed table) (inside : i < keyDefCount table) (index : BitVec.ofNat 32 i = raw) :
    ∃ value, keyAt table i = .ok value ∧ KeyGuarded table raw (.ok [value]) := by
  obtain ⟨entry,member,name,named,key,read⟩ := keyAt_indexed indexed inside
  refine ⟨_,read,?_⟩
  intro value single
  rw [List.mem_singleton.mp single]
  exact ⟨entry,member,name,named,by rw [key,← index,BitVec.ofInt_natCast],rfl⟩

theorem key_guarded (indexed : Indexed table) (inside : i < keyDefCount table) (index : BitVec.ofNat 32 i = raw) :
    KeyGuarded table raw (keyAt table i >>= fun value => .ok [value]) := by
  obtain ⟨value,read,guarded⟩ := key_made indexed inside index
  rw [read]
  exact guarded

theorem callback_guarded {α : Type} (convert : List UInt8 → α → List UInt8) (args : List α) (raw : BitVec 32) :
    KeyGuarded logDefs raw
      (jwlrLogCallback convert fn raw.toNat fmt args >>= fun calls => .ok (calls.filterMap (·.argv.head?))) := by
  cases fn with
  | none => exact List.forall_mem_nil _
  | some callback =>
      change KeyGuarded logDefs raw ((if (4 : Int) < raw.toNat then _ else _) >>= _)
      by_cases high : (4 : Int) < raw.toNat
      · rw [if_pos high]
        trivial
      · have inside : raw.toNat < keyDefCount logDefs := by
          change raw.toNat < 5
          omega
        obtain ⟨level,read,guarded⟩ := key_made (enum_tables_indexed .logCallback) inside (ofNat_toNat_word raw)
        have selected : keyAt logDefs (raw.toNat : Int).toNat = .ok level := read
        rw [if_neg high]
        cases printed : printAll convert fmt args with
        | panic error => trivial
        | fault kind => rcases printAll_faults printed with rfl | rfl <;> exact ⟨nofun,nofun⟩
        | ok text =>
            rw [Res.bind_ok]
            by_cases failed : text.strLen < 0
            · rw [if_pos failed]
              exact List.forall_mem_nil _
            · rw [if_neg failed,selected]
              exact guarded

theorem read_guarded (indexed : Indexed table) (live : obj ≠ 0)
    (value : uint32 (env.mem.bits obj struct field) = raw.toNat)
    (inside : guarded = none → raw.toNat < keyDefCount table) : KeyGuarded table raw
      ((Access.enumKey field table guarded).read env struct obj >>= fun value => .ok [value]) := by
  have index : BitVec.ofNat 32 raw.toNat = raw := ofNat_toNat_word raw
  simp only [Access.read,Env.readBits_live _ live,Res.bind_ok,value]
  cases guarded with
  | none => exact key_guarded indexed (inside rfl) index
  | some message =>
      by_cases beyond : keyDefCount table ≤ raw.toNat
      · simp only [beyond,if_true]
        trivial
      · simp only [beyond,if_false]
        exact key_guarded indexed (Nat.lt_of_not_le beyond) index

theorem verbosity_guarded (s : State) (argv : List Janet) : KeyGuarded logDefs (BitVec.ofInt 32 s.logImportance)
    (cfunWlrLogGetVerbosity s argv >>= fun value => .ok [value]) := by
  unfold cfunWlrLogGetVerbosity janetFixarity
  split
  · simp only [Res.bind_ok]
    split
    · trivial
    · rename_i low
      have inside : (BitVec.ofInt 32 s.logImportance).toNat < keyDefCount logDefs := by
        change _ < 5
        omega
      exact key_guarded (enum_tables_indexed .logGetVerbosity) inside (ofNat_toNat_word _)
  · trivial

theorem connection_guarded (argv : List Janet) (error : ∀ conn, hasError conn = raw) :
    KeyGuarded xcbConnErrorDefs raw (cfunXcbConnectionHasError hasError argv >>= fun value => .ok [value]) := by
  unfold cfunXcbConnectionHasError janetFixarity jlGetAbsObjPointer janetGetabstract badSlot
  repeat' split
  all_goals simp only [Res.bind_ok,error]
  all_goals try trivial
  split
  · trivial
  · rename_i known
    have inside : raw.toInt.toNat < keyDefCount xcbConnErrorDefs := by
      change _ < 8
      omega
    refine key_guarded (enum_tables_indexed .connectionHasError) inside ?_
    have same : (raw.toInt.toNat : Int) = raw.toInt := by omega
    rw [← BitVec.ofInt_natCast,same,BitVec.ofInt_toInt]

theorem key_state_read (read : keyAt wlKeyboardKeyStateDefs i = .ok value) : i < 2 := by
  match i with
  | 0 | 1 => decide
  | 2 | i+3 => cases read

-- Without a guard, a run on a raw value behind the table reads the sentinel or beyond.
theorem key_state_unguarded (raw : BitVec 32)
    (guarded : ∀ result, EnumPlace.Runs raw .keyboardKeyState result →
      KeyGuarded wlKeyboardKeyStateDefs raw result) : raw.toNat < 2 := by
  let env := { blankEnv with mem := { blankMem with bits := fun _ _ _ => raw.toNat } }
  have stored : uint32 (env.mem.bits 16 methodWlrKeyboardKeyEventGet.struct "state") = raw.toNat :=
    Nat.mod_eq_of_lt raw.isLt
  have kept := guarded _ (.member .keyboardKeyState env rfl rfl rfl (by decide) stored)
  simp only [Access.read,Env.readBits_live _ (show (16 : Addr) ≠ 0 by decide),Res.bind_ok] at kept
  rw [show uint32 (env.mem.bits 16 _ _) = raw.toNat from stored] at kept
  cases read : keyAt wlKeyboardKeyStateDefs raw.toNat with
  | ok value => exact key_state_read read
  | panic error =>
      unfold keyAt janetCkeywordv at read
      repeat' split at read
      all_goals cases read
  | fault kind =>
      rw [read] at kept
      rcases keyAt_faults read with rfl | ⟨rfl,_⟩
      · exact absurd rfl kept.1
      · exact absurd rfl kept.2

theorem enum_decoding_exact (place : EnumPlace) (raw : BitVec 32) :
    (∀ result, EnumPlace.Runs raw place result → KeyGuarded place.table raw result) ↔
      (place = .keyboardKeyState → raw.toNat < 2) := by
  constructor
  · rintro guarded rfl
    exact key_state_unguarded raw guarded
  · intro inside result ran
    cases ran with
    | callback convert fn fmt args => exact callback_guarded convert args raw
    | verbosity s argv importance =>
        rw [← importance]
        exact verbosity_guarded s argv
    | connection hasError argv error => exact connection_guarded argv error
    | member _ env owned method access live value =>
        obtain ⟨field,guarded,rfl,unguarded⟩ := place.branch_exact owned method access
        refine read_guarded (enum_tables_indexed place) live value ?_
        intro none
        rw [unguarded.mp none]
        exact inside (unguarded.mp none)

-- The value 2 selects the entry that ends the table.
theorem key_state_sentinel : ¬∀ place raw result, EnumPlace.Runs raw place result →
    KeyGuarded place.table raw result := by
  intro guarded
  have small := key_state_unguarded 2 (guarded .keyboardKeyState 2)
  exact absurd small (by decide)

end Janetland
