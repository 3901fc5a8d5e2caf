import Janetland.Actions
import Janetland.DataSlots
import Janetland.ScanBounds
import Janetland.Foundations.Registers

namespace Janetland
open Act

-- The put methods statement by statement: a value is converted before it is assigned.
def Store.assign (struct : String) (obj : Addr) (value : Janet) : Store → Act CMem Unit
  | .int32 member => do
    let bits ← lift (expectInt32 value)
    if obj = 0 then lift (.fault .nullDeref) else modify fun mem => mem.setBits obj struct member bits.toNat
  | .data member => do
    let ptr ← lift (jlValueToDataPointer value)
    if obj = 0 then lift (.fault .nullDeref) else modify fun mem => mem.setPtr obj struct member ptr

def PutMethod.exec (method : PutMethod) (p : Abstract) (value : Janet) : Janet → Act CMem Unit
  | .keyword kw => match method.members.find? (fun row => janetCstrcmp kw row.1) with
    | some row => row.2.assign method.struct p.payload.firstWord value
    | none => lift (panicf "unknown key: %v" [.keyword kw])
  | key => lift (panicf "expected keyword, got %v" [key])

def methodBoxExec (p : Abstract) (value : Janet) : Janet → Act CMem Unit
  | .keyword kw => do
    let bits ← lift (expectInt32 value)
    match ["x","y","width","height"].find? (janetCstrcmp kw) with
    | some member => modify fun mem => mem.setBits p.self "wlr_box" member bits.toNat
    | none => lift (panicf "unknown key: %v" [.keyword kw])
  | key => lift (panicf "expected keyword, got %v" [key])

-- `(put abstract key value)`
def janetPut (type : AbsType) (p : Abstract) (key value : Janet) : Act CMem Unit :=
  match type with
  | .jwlrAtBox => methodBoxExec p value key
  | type => match type.putMethod with
    | some method => method.exec p value key
    | none => lift (panicf "no setter for %v " [.abstract p])

-- An action that returns a new state or fails before it changed anything.
def settled (result : CMem → Res CMem) : Act CMem Unit := fun mem => match result mem with
  | .ok next => (.ok (),next)
  | .panic error => (.panic error,mem)
  | .fault kind => (.fault kind,mem)

theorem assign_settled (store : Store) :
    store.assign struct obj value = settled fun mem => store.write mem struct obj value := by
  funext mem
  cases store with
  | int32 member =>
      simp only [Store.assign,bind_run,lift,settled,Store.write]
      cases expectInt32 value with
      | ok bits => by_cases unset : obj = 0 <;> simp [unset,Act.modify,lift]
      | panic error => rfl
      | fault kind => rfl
  | data member =>
      simp only [Store.assign,bind_run,lift,settled,Store.write]
      cases jlValueToDataPointer value with
      | ok ptr => by_cases unset : obj = 0 <;> simp [unset,Act.modify,lift]
      | panic error => rfl
      | fault kind => rfl

theorem exec_settled (method : PutMethod) :
    method.exec p value key = settled fun mem => method.run mem p value key := by
  cases key with
  | keyword kw =>
      simp only [PutMethod.exec,PutMethod.run]
      cases method.members.find? fun row => janetCstrcmp kw row.1 with
      | some row => exact assign_settled row.2
      | none => rfl
  | _ => rfl

theorem box_settled : methodBoxExec p value key = settled fun mem => methodBoxPut mem p value key := by
  funext mem
  cases key with
  | keyword kw =>
      simp only [methodBoxExec,bind_run,lift,settled,methodBoxPut]
      cases expectInt32 value with
      | ok bits =>
          simp only [Res.bind_ok]
          cases ["x","y","width","height"].find? (janetCstrcmp kw) <;> rfl
      | panic error => rfl
      | fault kind => rfl
  | _ => rfl

-- The members that a type's put method assigns, and the struct they are in.
def AbsType.putRows : AbsType → List (String × Store)
  | .jwlrAtBox => ["x","y","width","height"].map fun member => (member,.int32 member)
  | type => (type.putMethod.map PutMethod.members).getD []

def AbsType.putStruct : AbsType → String
  | .jwlrAtBox => "wlr_box"
  | type => (type.putMethod.map PutMethod.struct).getD ""

def AbsType.object (type : AbsType) (p : Abstract) : Addr :=
  if type = .jwlrAtBox then p.self else p.payload.firstWord

def Store.member : Store → String
  | .int32 member | .data member => member

-- What a get of the member returns once the value is stored, if it can be.
def Store.shown (value : Janet) : Store → Option Janet
  | .int32 _ => if janetCheckint value then some value else none
  | .data _ => match jlValueToDataPointer value with
    | .ok ptr => some (dataSlot ptr)
    | _ => none

def Store.access : Store → Access
  | .int32 member => .integer .int32 member
  | .data member => .nilOr (.pointer member)

-- The cells that a branch of a get method reads.
def Access.cells : Access → List String
  | .integer _ member | .unsigned member | .boolean member | .flags member _ | .enumKey member _ _
  | .cstring member | .pointer member | .wrap member _ | .wrapNamed member _ => [member]
  | .number _ | .inner _ _ => []
  | .bytes member size => [member,size]
  | .words member count | .wrapElements member count _ => [member,count]
  | .embeddedWords _ count => [count]
  | .pixels member width height => [member,width,height]
  | .nilOr access => access.member :: access.cells

-- The get method with its scans ended by a sentinel.
def GetMethod.ended (method : GetMethod) : GetMethod := { method with
  signals := method.signals.map (· ++ [.null])
  lists := method.lists.map (· ++ [.null]) }

def endedGet (env : Env) (type : AbsType) (p : Abstract) (key : Janet) : Res (Option Janet) :=
  match type.getMethod with
  | some method => method.ended.run env p key
  | none => .ok none

theorem ended_outcome (within : scanOutcome kw table ≠ .overrun) :
    scanOutcome kw (table.map (· ++ [.null])) = scanOutcome kw table := by
  cases table with
  | none => rfl
  | some entries =>
      change SentinelScan.scan _ _ (entries ++ [OffsetDef.null]) = scanOffsets kw entries
      rw [SentinelScan.scan_append]
      change scanOffsets kw entries ≠ .overrun at within
      cases outcome : scanOffsets kw entries with
      | overrun => exact absurd outcome within
      | hit entry | stopped =>
          unfold scanOffsets at outcome
          rw [outcome]

-- Where the scans of a get stay inside their tables, the added sentinel changes nothing.
theorem ended_run (method : GetMethod) (within : method.run env p key ≠ .fault .offsetTable) :
    method.ended.run env p key = method.run env p key := by
  cases key with
  | keyword kw =>
      have signals : scanOutcome kw method.signals ≠ .overrun := fun overran =>
        within ((run_overrun_exact method env p kw).mpr (.inl overran))
      have first : scanOutcome kw method.ended.signals = scanOutcome kw method.signals := ended_outcome signals
      cases outcome : scanOutcome kw method.signals with
      | overrun => exact absurd outcome signals
      | hit entry => rw [method.run_signal outcome,method.ended.run_signal (first.trans outcome)]; rfl
      | stopped =>
          have lists : scanOutcome kw method.lists ≠ .overrun := fun overran =>
            within ((run_overrun_exact method env p kw).mpr (.inr ⟨outcome,overran⟩))
          have second : scanOutcome kw method.ended.lists = scanOutcome kw method.lists := ended_outcome lists
          cases listed : scanOutcome kw method.lists with
          | overrun => exact absurd listed lists
          | hit entry =>
              rw [method.run_list outcome listed,method.ended.run_list (first.trans outcome) (second.trans listed)]
              rfl
          | stopped =>
              rw [method.run_unscanned outcome listed,
                method.ended.run_unscanned (first.trans outcome) (second.trans listed)]
              rfl
  | _ => rfl

-- The layout that the put methods rely on, checked over all types.
theorem put_rows_read : ∀ type ∈ AbsType.all, ∀ row ∈ type.putRows, ∃ method ∈ type.getMethod,
    scanOutcome row.1 method.ended.signals = .stopped ∧ scanOutcome row.1 method.ended.lists = .stopped ∧
    method.branch row.1 = some row.2.access ∧ method.struct = type.putStruct ∧
    method.inPlace = decide (type = .jwlrAtBox) ∧
    ∀ other ∈ method.members, other.1 ≠ row.1 → row.2.member ∉ other.2.cells := by decide

theorem put_structs_owned : ∀ type ∈ AbsType.all, type.putRows ≠ [] → ∀ other ∈ AbsType.all,
    ∀ method ∈ other.getMethod, method.struct = type.putStruct → other = type := by decide +kernel

-- An environment whose pointer and integer members have been assigned.
def Env.assigned (env : Env) (ptr : Addr → String → String → Addr) (bits : Addr → String → String → Nat) : Env :=
  { env with mem := { env.mem with ptr, bits } }

theorem read_frame {env : Env} (access : Access)
    (same : ∀ member ∈ access.cells, ptr obj struct member = env.mem.ptr obj struct member ∧
      bits obj struct member = env.mem.bits obj struct member) :
    access.read (env.assigned ptr bits) struct obj = access.read env struct obj := by
  have ptrs (member : String) (read : member ∈ access.cells) : (env.assigned ptr bits).readPtr obj struct member =
      env.readPtr obj struct member := by simp [Env.readPtr,Env.assigned,(same member read).1]
  have words (member : String) (read : member ∈ access.cells) : (env.assigned ptr bits).readBits obj struct member =
      env.readBits obj struct member := by simp [Env.readBits,Env.assigned,(same member read).2]
  induction access with
  | nilOr access ih =>
      rw [Access.read,Access.read,ptrs _ List.mem_cons_self]
      rw [ih (fun member inside => same member (List.mem_cons_of_mem _ inside))
        (fun member inside => ptrs member (List.mem_cons_of_mem _ inside))
        (fun member inside => words member (List.mem_cons_of_mem _ inside))]
  | number member | inner member type => rfl
  | pointer member => rw [Access.read,Access.read,ptrs _ List.mem_cons_self]
  | cstring member | wrap member type | wrapNamed member name =>
      rw [Access.read,Access.read,ptrs _ List.mem_cons_self]
      rfl
  | integer _ member | boolean member | flags member _ | enumKey member _ _ =>
      rw [Access.read,Access.read,words _ List.mem_cons_self]
  | unsigned member =>
      rw [Access.read,Access.read,words _ List.mem_cons_self]
      rfl
  | bytes member size | words member count | wrapElements member count type =>
      rw [Access.read,Access.read,ptrs _ List.mem_cons_self,words _ (List.mem_cons_of_mem _ List.mem_cons_self)]
      rfl
  | embeddedWords member count =>
      rw [Access.read,Access.read,words _ List.mem_cons_self]
      rfl
  | pixels member width height =>
      rw [Access.read,Access.read,ptrs _ List.mem_cons_self,words _ (List.mem_cons_of_mem _ List.mem_cons_self),
        words _ (List.mem_cons_of_mem _ (List.mem_cons_of_mem _ List.mem_cons_self))]
      rfl

-- A get method depends on its abstract only through the object it stands for.
theorem run_object (method : GetMethod) (same : method.object p = method.object q) (key : Janet) :
    method.run env p key = method.run env q key := by
  cases key with
  | keyword kw => simp only [GetMethod.run,same]
  | _ => rfl

theorem run_frame {env : Env} (method : GetMethod) (p : Abstract) (key : Janet)
    (same : ∀ kw access, key = .keyword kw → method.branch kw = some access → ∀ member ∈ access.cells,
      ptr (method.object p) method.struct member = env.mem.ptr (method.object p) method.struct member ∧
      bits (method.object p) method.struct member = env.mem.bits (method.object p) method.struct member) :
    method.run (env.assigned ptr bits) p key = method.run env p key := by
  cases key with
  | keyword kw =>
      have scans (find : AbsType) (table : Option (List OffsetDef)) :
          scanTable (getAbstractStructMember find) (env.assigned ptr bits) (method.object p) kw table =
            scanTable (getAbstractStructMember find) env (method.object p) kw table := by
        cases table <;> rfl
      simp only [GetMethod.run,getAbstractStructSignalMember,getAbstractStructListMember,scans]
      cases found : method.branch kw with
      | none => rfl
      | some access => simp only [read_frame access (same kw access rfl found)]
  | _ => rfl

theorem expectInt32_exact (accepted : expectInt32 value = .ok bits) :
    janetCheckint value = true ∧ value = janetInteger bits.toInt := by
  unfold expectInt32 panicf at accepted
  repeat' split at accepted
  all_goals cases accepted
  rename_i number integer fits
  refine ⟨by simp [janetCheckint,fits],?_⟩
  unfold Number.int32? at fits
  repeat' split at fits
  all_goals cases fits
  rename_i rational inside
  have whole : rational = rational.num := (Rat.den_eq_one_iff rational).mp inside.1 |>.symm
  have held : (BitVec.ofInt 32 rational.num).toInt = rational.num := by
    have least := inside.2.1
    have most := inside.2.2
    unfold int32Min at least
    unfold int32Max at most
    exact BitVec.toInt_ofInt_eq_self (by decide) (by omega) (by omega)
  rw [held,janetInteger,← whole]

-- A member that was stored is shown by the get, and no other cell has changed.
theorem store_written {env : Env} {store : Store} (live : obj ≠ 0)
    (written : store.write env.mem struct obj value = .ok next) : ∃ v ptr bits,
    store.shown value = some v ∧ next = { env.mem with ptr, bits } ∧
    store.access.read (env.assigned ptr bits) struct obj = .ok v ∧
    ∀ o s m, ¬(o = obj ∧ s = struct ∧ m = store.member) →
      ptr o s m = env.mem.ptr o s m ∧ bits o s m = env.mem.bits o s m := by
  cases store with
  | int32 member =>
      obtain ⟨word,converted,assigned⟩ := Res.bind_exact.mp written
      obtain ⟨checked,rfl⟩ := expectInt32_exact converted
      rw [if_neg live] at assigned
      cases assigned
      refine ⟨_,_,_,if_pos checked,rfl,?_,?_⟩
      · simp only [Store.access,Access.read,Env.readBits_live _ live,Res.bind_ok,Env.assigned,true_and,if_true]
        change Res.ok (janetInteger (BitVec.ofNat 32 word.toNat).toInt) = _
        rw [BitVec.ofNat_toNat,BitVec.setWidth_eq]
      · intro o s m elsewhere
        exact ⟨rfl,if_neg elsewhere⟩
  | data member =>
      obtain ⟨address,converted,assigned⟩ := Res.bind_exact.mp written
      rw [if_neg live] at assigned
      cases assigned
      refine ⟨dataSlot address,_,_,by rw [Store.shown,converted],rfl,?_,?_⟩
      · simp only [Store.access,Access.read,Access.member,Env.readPtr_live _ live,Res.bind_ok,Env.assigned,
          true_and,if_true,dataSlot]
        by_cases unset : address = 0 <;> simp [unset]
      · intro o s m elsewhere
        exact ⟨if_neg elsewhere,rfl⟩

theorem expectInt32_defined : expectInt32 value ≠ .fault kind := by
  unfold expectInt32 panicf
  repeat' split
  all_goals simp

theorem write_defined (store : Store) (live : obj ≠ 0) : store.write mem struct obj value ≠ .fault kind := by
  intro faulted
  cases store with
  | int32 member =>
      rcases Res.bind_fault_exact.mp faulted with early | ⟨_,_,late⟩
      · exact expectInt32_defined early
      · rw [if_neg live] at late
        cases late
  | data member =>
      rcases Res.bind_fault_exact.mp faulted with early | ⟨_,_,late⟩
      · unfold jlValueToDataPointer panicf at early
        repeat' split at early
        all_goals cases early
      · rw [if_neg live] at late
        cases late

theorem expectInt32_refused (refused : expectInt32 value = .panic error) : janetCheckint value = false := by
  unfold expectInt32 panicf at refused
  repeat' split at refused
  all_goals cases refused
  · rename_i unfit
    simp [janetCheckint,unfit]
  · rename_i other
    unfold janetCheckint
    split
    · rename_i number
      exact absurd rfl (other number)
    · rfl

theorem write_refused {store : Store} (live : obj ≠ 0) (refused : store.write mem struct obj value = .panic error) :
    store.shown value = none := by
  cases store with
  | int32 member =>
      rcases Res.bind_panic_exact.mp refused with early | ⟨_,_,late⟩
      · exact if_neg (by simp [expectInt32_refused early])
      · rw [if_neg live] at late
        cases late
  | data member =>
      rcases Res.bind_panic_exact.mp refused with early | ⟨_,_,late⟩
      · rw [Store.shown,early]
      · rw [if_neg live] at late
        cases late

-- A member of an object, by the keyword that a get names it with. Keywords that differ
-- behind a NUL name the same member.
structure Register where
  type : AbsType
  obj : Addr
  name : String
  clean : cString name = name
deriving DecidableEq

def Register.named (type : AbsType) (p : Abstract) (kw : String) : Register :=
  ⟨type,type.object p,cString kw,cString_idem kw⟩

theorem put_names_nodup : ∀ type ∈ AbsType.all, (type.putRows.map Prod.fst).Nodup := by decide

-- A call of put on a live object of a type that has a put method.
structure Put where
  type : AbsType
  p : Abstract
  key : Janet
  value : Janet
  putable : type.putRows ≠ []
  live : type.object p ≠ 0

namespace Put

def run (put : Put) : Act CMem Unit := janetPut put.type put.p put.key put.value

-- The key names a member that the put method assigns, and the value is one of its values.
def Storable (put : Put) : Prop :=
  ∃ kw store, put.key = .keyword kw ∧ (cString kw,store) ∈ put.type.putRows ∧ store.shown put.value ≠ none

-- How a put ends: it fails and has changed nothing, or it has stored one member.
inductive Outcome (put : Put) (mem : CMem) : Res Unit × CMem → Prop
  | refused (error : Panic) (unfit : ¬put.Storable) : Outcome put mem (.panic error,mem)
  | stored (named : put.key = .keyword kw) (row : (cString kw,store) ∈ put.type.putRows)
      (written : store.write mem put.type.putStruct (put.type.object put.p) put.value = .ok next) :
      Outcome put mem (.ok (),next)

theorem unkeyed (put : Put) (other : ∀ kw, put.key ≠ .keyword kw) : ¬put.Storable := by
  rintro ⟨kw,_,named,_⟩
  exact other kw named

theorem settled_outcome (put : Put) {result : CMem → Res CMem} (defined : ∀ kind, result mem ≠ .fault kind)
    (stored : ∀ next, result mem = .ok next → put.Outcome mem (.ok (),next))
    (refused : ∀ error, result mem = .panic error → ¬put.Storable) : put.Outcome mem (settled result mem) := by
  unfold settled
  cases ran : result mem with
  | ok next => exact stored next ran
  | panic error => exact .refused error (refused error ran)
  | fault kind => exact absurd ran (defined kind)

theorem box_outcome (put : Put) (box : put.type = .jwlrAtBox) (mem : CMem) :
    put.Outcome mem (methodBoxExec put.p put.value put.key mem) := by
  rw [box_settled]
  cases key : put.key with
  | keyword kw =>
      have member (name : String) (found : ["x","y","width","height"].find? (janetCstrcmp kw) = some name) :
          (cString kw,Store.int32 name) ∈ put.type.putRows ∧ cString kw = name := by
        have same : cString kw = name := by simpa [janetCstrcmp] using List.find?_some found
        rw [same,box]
        exact ⟨List.mem_map.mpr ⟨name,List.mem_of_find?_eq_some found,rfl⟩,rfl⟩
      have live : put.p.self ≠ 0 := by simpa [AbsType.object,box] using put.live
      apply put.settled_outcome
      · intro kind faulted
        rcases Res.bind_fault_exact.mp faulted with early | ⟨_,_,late⟩
        · exact expectInt32_defined early
        · unfold panicf at late
          split at late <;> cases late
      · intro next ran
        obtain ⟨word,converted,assigned⟩ := Res.bind_exact.mp ran
        cases found : ["x","y","width","height"].find? (janetCstrcmp kw) with
        | none => simp [found,panicf] at assigned
        | some name =>
            simp only [found] at assigned
            refine .stored key (member name found).1 ?_
            simp only [Store.write,converted,Res.bind_ok,box,AbsType.object,if_true,if_neg live]
            exact assigned
      · rintro error ran ⟨other,store,same,row,fit⟩
        rw [key] at same
        cases same
        rw [box] at row
        obtain ⟨name,listed,made⟩ := List.mem_map.mp row
        obtain ⟨named,rfl⟩ := Prod.mk.inj made
        rcases Res.bind_panic_exact.mp ran with early | ⟨_,_,late⟩
        · exact fit (if_neg (by simp [expectInt32_refused early]))
        · have found : ["x","y","width","height"].find? (janetCstrcmp kw) ≠ none := by
            intro missing
            exact List.find?_eq_none.mp missing name listed (by simp [janetCstrcmp,named])
          split at late
          · cases late
          · contradiction
  | _ => exact .refused _ (put.unkeyed (by simp [key]))

theorem method_outcome (put : Put) (other : put.type ≠ .jwlrAtBox) (found : put.type.putMethod = some method)
    (mem : CMem) : put.Outcome mem (method.exec put.p put.value put.key mem) := by
  have rows : put.type.putRows = method.members := by
    unfold AbsType.putRows
    split
    · rename_i box
      exact absurd box other
    · simp [found]
  have struct : put.type.putStruct = method.struct := by
    unfold AbsType.putStruct
    split
    · rename_i box
      exact absurd box other
    · simp [found]
  have object : put.type.object put.p = put.p.payload.firstWord := if_neg other
  rw [exec_settled]
  cases key : put.key with
  | keyword kw =>
      apply put.settled_outcome
      · intro kind faulted
        simp only [PutMethod.run] at faulted
        split at faulted
        · exact write_defined _ (object ▸ put.live) faulted
        · cases faulted
      · intro next ran
        simp only [PutMethod.run] at ran
        split at ran
        · rename_i row hit
          have same : cString kw = row.1 := by simpa [janetCstrcmp] using List.find?_some hit
          have listed : (cString kw,row.2) ∈ put.type.putRows := by
            rw [rows,same]
            exact List.mem_of_find?_eq_some hit
          refine .stored key listed ?_
          rw [struct,object]
          exact ran
        · cases ran
      · rintro error ran ⟨other,store,same,row,fit⟩
        rw [key] at same
        cases same
        simp only [PutMethod.run] at ran
        split at ran
        · rename_i hit found
          have equal : cString kw = hit.1 := by simpa [janetCstrcmp] using List.find?_some found
          have listed : hit ∈ put.type.putRows := rows ▸ List.mem_of_find?_eq_some found
          obtain rfl := List.inj_on_of_nodup_map (put_names_nodup put.type put.type.mem_all) listed row equal.symm
          exact fit (write_refused (object ▸ put.live) ran)
        · rename_i missing
          rw [rows] at row
          exact List.find?_eq_none.mp missing _ row (by simp [janetCstrcmp])
  | _ => exact .refused _ (put.unkeyed (by simp [key]))

theorem outcome (put : Put) (mem : CMem) : put.Outcome mem (put.run mem) := by
  by_cases box : put.type = .jwlrAtBox
  · have exec : put.run = methodBoxExec put.p put.value put.key := by rw [run,box]; rfl
    rw [exec]
    exact put.box_outcome box mem
  · cases found : put.type.putMethod with
    | some method =>
        have exec : put.run = method.exec put.p put.value put.key := by
          unfold run janetPut
          split
          · contradiction
          · simp [found]
        rw [exec]
        exact put.method_outcome box found mem
    | none =>
        refine absurd ?_ put.putable
        unfold AbsType.putRows
        split
        · contradiction
        · simp [found]

-- The register a put names, and what it shows once the put has succeeded.
def register (put : Put) : Register :=
  .named put.type put.p (match put.key with | .keyword kw => kw | _ => "")

def shown (put : Put) : Janet :=
  ((put.type.putRows.find? fun row => row.1 = put.register.name).bind fun row => row.2.shown put.value).getD .nil

def after (mem : CMem) (put : Put) : CMem := (put.run mem).2

-- A put that returns has written its register.
def effect (mem : CMem) (put : Put) : Option (Register × Res (Option Janet)) :=
  match (put.run mem).1 with
  | .ok _ => some (put.register,.ok (some put.shown))
  | _ => none

end Put

theorem run_cString (method : GetMethod) (env : Env) (p : Abstract) (kw : String) :
    method.run env p (.keyword (cString kw)) = method.run env p (.keyword kw) := by
  have scans (type : AbsType) (table : Option (List OffsetDef)) :
      scanTable (getAbstractStructMember type) env (method.object p) (cString kw) table =
        scanTable (getAbstractStructMember type) env (method.object p) kw table := by
    cases table with
    | none => rfl
    | some entries => simp only [scanTable,getAbstractStructMember,scanOffsets,janetCstrcmp_cString]
  simp only [GetMethod.run,GetMethod.branch,getAbstractStructSignalMember,getAbstractStructListMember,scans,
    janetCstrcmp_cString]

-- The value a get answers for a register, whichever abstract stands for the object.
def Env.register (env : Env) (mem : CMem) (register : Register) : Res (Option Janet) :=
  endedGet { env with mem } register.type ⟨register.obj,.own register.type,.wrapper register.obj⟩
    (.keyword register.name)

theorem get_inPlace : ∀ type ∈ AbsType.all, ∀ method ∈ type.getMethod,
    method.inPlace = decide (type = .jwlrAtBox) := by decide

theorem get_object (found : AbsType.getMethod type = some method) (p : Abstract) :
    method.ended.object p = type.object p := by
  unfold GetMethod.object AbsType.object
  change (if method.inPlace = true then _ else _) = _
  rw [get_inPlace type type.mem_all method found]
  simp

theorem register_get (env : Env) (mem : CMem) (type : AbsType) (p : Abstract) (kw : String) :
    endedGet { env with mem } type p (.keyword kw) = env.register mem (.named type p kw) := by
  change _ = endedGet { env with mem } type ⟨type.object p,.own type,.wrapper (type.object p)⟩
    (.keyword (cString kw))
  unfold endedGet
  cases found : type.getMethod with
  | none => rfl
  | some method =>
      have same : method.ended.object p =
          method.ended.object ⟨type.object p,.own type,.wrapper (type.object p)⟩ := by
        rw [get_object found,get_object found,AbsType.object]
        split
        · rename_i box
          simp [AbsType.object,box]
        · rename_i other
          simp [AbsType.object,other,Payload.firstWord]
      change method.ended.run _ p _ = method.ended.run _ _ _
      rw [run_object _ same,run_cString]

namespace Put

theorem shown_exact (put : Put) (named : put.key = .keyword kw) (row : (cString kw,store) ∈ put.type.putRows) :
    put.shown = (store.shown put.value).getD .nil := by
  have name : put.register.name = cString kw := by rw [Put.register,named]; rfl
  unfold shown
  rw [name]
  cases found : put.type.putRows.find? fun row => row.1 = cString kw with
  | none => simpa using List.find?_eq_none.mp found _ row
  | some other =>
      have same : other.1 = cString kw := by simpa using List.find?_some found
      have equal := List.inj_on_of_nodup_map (put_names_nodup put.type put.type.mem_all)
        (List.mem_of_find?_eq_some found) row same
      rw [equal]
      rfl

theorem stored_register (put : Put) (env : Env) (named : put.key = .keyword kw)
    (row : (cString kw,store) ∈ put.type.putRows)
    (written : store.write env.mem put.type.putStruct (put.type.object put.p) put.value = .ok next) :
    store.shown put.value = some put.shown ∧ env.register next put.register = .ok (some put.shown) := by
  obtain ⟨v,ptr,bits,visible,rfl,read,_⟩ := store_written put.live written
  obtain ⟨method,found,signals,lists,branch,struct,_,_⟩ := put_rows_read put.type put.type.mem_all _ row
  have value : put.shown = v := by rw [put.shown_exact named row,visible]; rfl
  rw [value]
  refine ⟨visible,?_⟩
  have get := register_get env { env.mem with ptr, bits } put.type put.p kw
  rw [Put.register,named,← get,endedGet,Option.mem_def.mp found]
  change method.ended.run (env.assigned ptr bits) put.p _ = _
  rw [← run_cString,method.ended.run_unscanned signals lists]
  have same : method.ended.branch (cString kw) = some store.access := branch
  rw [same,get_object (Option.mem_def.mp found)]
  change (store.access.read (env.assigned ptr bits) method.struct _ >>= _) = _
  rw [struct,read]
  rfl

-- Every other member of this object, and every member of any other, keeps its value.
theorem kept_register (put : Put) (env : Env) (named : put.key = .keyword kw)
    (row : (cString kw,store) ∈ put.type.putRows)
    (written : store.write env.mem put.type.putStruct (put.type.object put.p) put.value = .ok next)
    (elsewhere : other ≠ put.register) : env.register next other = env.register env.mem other := by
  obtain ⟨_,ptr,bits,_,rfl,_,apart⟩ := store_written put.live written
  obtain ⟨type,obj,name,clean⟩ := other
  unfold Env.register endedGet
  cases found : type.getMethod with
  | none => rfl
  | some method =>
      change method.ended.run (env.assigned ptr bits) _ _ = _
      apply run_frame
      intro kept access same branch member reads
      cases same
      apply apart
      rintro ⟨object,struct,stored⟩
      have owner : type = put.type :=
        put_structs_owned put.type put.type.mem_all put.putable type type.mem_all method found struct
      subst owner
      obtain ⟨method',found',_,_,_,_,_,separate⟩ := put_rows_read put.type put.type.mem_all _ row
      rw [Option.mem_def,found] at found'
      cases found'
      by_cases equal : name = cString kw
      · apply elsewhere
        subst equal
        rw [get_object found] at object
        simp only [Put.register,Register.named,named,Register.mk.injEq,true_and,and_true]
        rw [← object,AbsType.object]
        simp [Payload.firstWord]
      · have entry : (name,access) ∈ method.members := clean ▸ GetMethod.branch_row branch
        exact separate _ entry equal (stored ▸ reads)

theorem framed (env : Env) : Registers.Framed after effect env.register where
  refused := by
    intro mem put refused other
    have outcome := put.outcome mem
    unfold after
    unfold effect at refused
    generalize put.run mem = ran at outcome refused ⊢
    cases outcome with
    | refused error unfit => rfl
    | stored named row written => cases refused
  written := by
    intro mem put target value wrote
    have outcome := put.outcome mem
    unfold after
    unfold effect at wrote
    generalize put.run mem = ran at outcome wrote ⊢
    cases outcome with
    | refused error unfit => cases wrote
    | stored named row written =>
        cases wrote
        exact (put.stored_register { env with mem } named row written).2
  kept := by
    intro mem put target value wrote other elsewhere
    have outcome := put.outcome mem
    unfold after
    unfold effect at wrote
    generalize put.run mem = ran at outcome wrote ⊢
    cases outcome with
    | refused error unfit => cases wrote
    | stored named row written =>
        cases wrote
        exact put.kept_register { env with mem } named row written elsewhere

end Put

structure PutLaw (env : Env) : Prop where
  defined : ∀ (put : Put) kind, (put.run env.mem).1 ≠ .fault kind
  accepted : ∀ put : Put, (put.run env.mem).1 = .ok () ↔ put.Storable
  atomic : ∀ (put : Put) error mem, put.run env.mem = (.panic error,mem) → mem = env.mem
  stored : ∀ (put : Put) mem, put.run env.mem = (.ok (),mem) → ∃ kw store v, put.key = .keyword kw ∧
    (cString kw,store) ∈ put.type.putRows ∧ store.shown put.value = some v ∧
    endedGet { env with mem } put.type put.p put.key = .ok (some v)
  framed : ∀ (put : Put) mem, put.run env.mem = (.ok (),mem) → ∀ type p kw,
    .named type p kw ≠ put.register →
      endedGet { env with mem } type p (.keyword kw) = endedGet env type p (.keyword kw)
  sequence : ∀ (puts : List Put) type p kw,
    endedGet { env with mem := puts.foldl Put.after env.mem } type p (.keyword kw) =
      Registers.last Put.after Put.effect (.named type p kw) (endedGet env type p (.keyword kw)) env.mem puts

theorem puts_atomic (env : Env) : PutLaw env where
  defined := by
    intro put kind faulted
    have outcome := put.outcome env.mem
    generalize put.run env.mem = ran at outcome faulted
    cases outcome <;> cases faulted
  accepted := by
    intro put
    have outcome := put.outcome env.mem
    generalize put.run env.mem = ran at outcome
    cases outcome with
    | refused error unfit => exact iff_of_false nofun unfit
    | stored named row written =>
        obtain ⟨v,_,_,visible,_⟩ := store_written put.live written
        exact iff_of_true rfl ⟨_,_,named,row,by simp [visible]⟩
  atomic := by
    intro put error mem raised
    have outcome := put.outcome env.mem
    rw [raised] at outcome
    cases outcome
    rfl
  stored := by
    intro put mem returned
    have outcome := put.outcome env.mem
    rw [returned] at outcome
    cases outcome with
    | stored named row written =>
        obtain ⟨visible,shown⟩ := put.stored_register env named row written
        refine ⟨_,_,_,named,row,visible,?_⟩
        rw [named,register_get]
        rw [Put.register,named] at shown
        exact shown
  framed := by
    intro put mem returned type p kw elsewhere
    have outcome := put.outcome env.mem
    rw [returned] at outcome
    cases outcome with
    | stored named row written =>
        have kept := put.kept_register env named row written elsewhere
        rw [← register_get,← register_get] at kept
        exact kept
  sequence := by
    intro puts type p kw
    rw [register_get,Registers.read_last (Put.framed env),← register_get]

-- (put surface :sx value)
def putSx (value : Janet) : Put where
  type := .jwlrAtWlrSurface
  p := ⟨8,.own .jwlrAtWlrSurface,.wrapper 16⟩
  key := .keyword "sx"
  value := value
  putable := by decide
  live := by decide

-- 7 is stored, and nil is refused.
theorem surface_put_stored : ((putSx (janetInteger 7)).run blankEnv.mem).1 = .ok () ∧
    ∃ error, (putSx .nil).run blankEnv.mem = (.panic error,blankEnv.mem) := by
  refine ⟨((puts_atomic blankEnv).accepted _).mpr ?_,_,rfl⟩
  exact ⟨"sx",.int32 "sx",rfl,List.mem_cons_self,by decide⟩

end Janetland
