import Janetland.ScanBounds
import Janetland.GetResults

namespace Janetland

-- What the C library promises about a live object: the structs its members lead to
-- are live, unless the member that would lead there is NULL.
def Leads (env : Env) (live : AbsType → Addr → Prop) (struct : String) (obj : Addr) : Access → Prop
  | .wrap member type => env.mem.ptr obj struct member ≠ 0 → live type (env.mem.ptr obj struct member)
  | .inner member type => live type (env.memberAddr obj struct member)
  | .wrapElements member count type => ∀ i < uint32 (env.mem.bits obj struct count),
      env.mem.ptrElem (env.mem.ptr obj struct member) i ≠ 0 →
        live type (env.mem.ptrElem (env.mem.ptr obj struct member) i)
  | .nilOr access => Leads env live struct obj access
  | _ => True

def Closed (env : Env) (live : AbsType → Addr → Prop) : Prop := ∀ type obj, live type obj → obj ≠ 0 ∧
  ∀ method ∈ type.getMethod, ∀ row ∈ method.members, Leads env live method.struct obj row.2

def AroundLive (live : AbsType → Addr → Prop) (p : Abstract) (type : AbsType) (method : GetMethod) : Prop :=
  p.type = .own type ∧ type.getMethod = some method ∧ live type (method.object p)

-- The two halves of the convention: a NULL member reads as nil, and a chain of keys
-- from a live object has a value, nil or a Janet error as its outcome.
def NilOnNull (env : Env) (live : AbsType → Addr → Prop) : Prop := ∀ p type method,
  AroundLive live p type method → ∀ kw access, method.branch kw = some access →
    access.pointerValued = true → env.mem.ptr (method.object p) method.struct access.member = 0 →
      method.run env p (.keyword kw) = .ok (some .nil)

def PathsSafe (env : Env) (live : AbsType → Addr → Prop) : Prop := ∀ p type method,
  AroundLive live p type method → ∀ keys kind, follow env (.abstract p) keys ≠ .fault kind

-- The types whose get methods scan a list table without sentinel.
def unscannableTypes : List AbsType := [.jwlrAtWlrScene,.jwlrAtWlrXdgSurface]

-- The members that are used unchecked.
def unshieldedMembers : List (AbsType × String × String) :=
  [(.jwlrAtWlrSceneOutput,"wlr_scene_output","output"),(.jwlrAtWlrSceneOutput,"wlr_scene_output","scene"),
    (.jwlrAtWlrXdgToplevel,"wlr_xdg_toplevel","base"),
    (.jwlrAtWlrXcursorImage,"wlr_xcursor_image","buffer"),(.jwlrAtWlrPointer,"wlr_pointer","output_name"),
    (.jwlrAtWlrKeyboard,"wlr_keyboard","xkb_state"),
    (.jwlrAtWlrSeatPointerRequestSetCursorEvent,"wlr_seat_pointer_request_set_cursor_event","seat_client"),
    (.jwlrAtWlrSeatPointerRequestSetCursorEvent,"wlr_seat_pointer_request_set_cursor_event","surface"),
    (.jwlrAtWlrSeatRequestSetSelectionEvent,"wlr_seat_request_set_selection_event","source")]

structure Shielded (env : Env) (live : AbsType → Addr → Prop) : Prop where
  scans : ∀ type ∈ unscannableTypes, ∀ obj, ¬live type obj
  members : ∀ row ∈ unshieldedMembers, ∀ obj, live row.1 obj → env.mem.ptr obj row.2.1 row.2.2 ≠ 0
  keyStates : ∀ obj, live .jwlrAtWlrKeyboardKeyEvent obj →
    uint32 (env.mem.bits obj "wlr_keyboard_key_event" "state") < 2
  images : ∀ obj, live .jwlrAtWlrXcursor obj → env.mem.ptr obj "wlr_xcursor" "images" ≠ 0 →
    uint32 (env.mem.bits obj "wlr_xcursor" "image_count") ≤ int32Max →
      ∀ i < uint32 (env.mem.bits obj "wlr_xcursor" "image_count"),
        env.mem.ptrElem (env.mem.ptr obj "wlr_xcursor" "images") i ≠ 0
  buffers : ∀ obj, live .jwlrAtWlrXcursorImage obj → 0 ≤ pixelBytes
    (env.mem.bits obj "wlr_xcursor_image" "width") (env.mem.bits obj "wlr_xcursor_image" "height")
  keymaps : ∀ obj, live .jwlrAtWlrKeyboard obj → env.mem.ptr obj "wlr_keyboard" "keymap_string" ≠ 0 →
    0 ≤ CType.toInt32 .size (env.mem.bits obj "wlr_keyboard" "keymap_size")
  keycodes : ∀ obj, live .jwlrAtWlrKeyboard obj →
    env.mem.bits obj "wlr_keyboard" "num_keycodes" ≤ keycodesCap

def Access.checked : Access → Bool
  | .nilOr _ => true
  | _ => false

-- What every branch of every get method has in common: a check guards an address, flags
-- are looked up in terminated tables, a guarded enum stays in front of the sentinel, and
-- no wrapper is made of the one type whose get method reads the abstract itself.
def Access.regular : Access → Bool
  | .nilOr access => access.exposed && access.regular
  | .flags _ table => decide (KeyDef.null ∈ table)
  | .wrap _ type | .inner _ type | .wrapElements _ _ type => type.getMethod.all (fun method => !method.inPlace)
  | .wrapNamed _ name => AbsType.all.all (fun type => type.name ≠ name || type.getMethod.isNone)
  | .enumKey _ table guarded => guarded.isNone || table.dropLast.all (fun entry => entry.name.isSome)
  | _ => true

-- The branches that a number in the struct can lead astray, without their NULL checks.
def Access.counted : Access → Bool
  | .enumKey _ _ none | .bytes _ _ | .embeddedWords _ _ | .wrapElements _ _ _ | .pixels _ _ _ => true
  | _ => false

def Access.core : Access → Access
  | .nilOr access => access
  | access => access

def countedBranches : List (AbsType × String × Access) :=
  [(.jwlrAtWlrKeyboardKeyEvent,"wlr_keyboard_key_event",.enumKey "state" wlKeyboardKeyStateDefs none),
    (.jwlrAtWlrXcursor,"wlr_xcursor",.wrapElements "images" "image_count" .jwlrAtWlrXcursorImage),
    (.jwlrAtWlrXcursorImage,"wlr_xcursor_image",.pixels "buffer" "width" "height"),
    (.jwlrAtWlrKeyboard,"wlr_keyboard",.bytes "keymap_string" "keymap_size"),
    (.jwlrAtWlrKeyboard,"wlr_keyboard",.embeddedWords "keycodes" "num_keycodes")]

theorem regular_rows : ∀ type ∈ AbsType.all, ∀ method ∈ type.getMethod, ∀ row ∈ method.members,
    row.2.regular = true := by decide

theorem exposed_rows : ∀ type ∈ AbsType.all, ∀ method ∈ type.getMethod, ∀ row ∈ method.members,
    row.2.exposed = true → (type,method.struct,row.2.member) ∈ unshieldedMembers := by decide

theorem unscanned_rows : ∀ type ∈ AbsType.all, type ∈ unscannableTypes ∨ ∀ method ∈ type.getMethod,
    ∀ row ∈ method.members, row.2.pointerValued = true →
      scanOutcome row.1 method.signals = .stopped ∧ scanOutcome row.1 method.lists = .stopped := by
  decide

theorem counted_rows : ∀ type ∈ AbsType.all, ∀ method ∈ type.getMethod, ∀ row ∈ method.members,
    row.2.core.counted = true → (type,method.struct,row.2.core) ∈ countedBranches := by decide

theorem nil_on_null (closed : Closed env live) (shielded : Shielded env live) : NilOnNull env live := by
  intro p type method around kw access branch pointer unset
  obtain ⟨_,found,alive⟩ := around
  have row := GetMethod.branch_row branch
  cases access with
  | nilOr inner =>
      have scans := (unscanned_rows type type.mem_all).resolve_left fun listed =>
        shielded.scans type listed _ alive
      obtain ⟨signals,lists⟩ := scans method found _ row pointer
      rw [scanOutcome_cString] at signals lists
      simp only [Access.member] at unset
      simp [GetMethod.run_unscanned method signals lists,branch,Access.read,(closed _ _ alive).1,unset]
  | _ =>
      exact absurd unset
        (shielded.members _ (exposed_rows type type.mem_all method found _ row pointer) _ alive)

-- The condition under which one branch is defined and hands on no NULL.
def Sheltered (env : Env) (struct : String) (obj : Addr) : Access → Prop
  | .nilOr access => env.mem.ptr obj struct access.member = 0 ∨ Sheltered env struct obj access
  | .flags _ table => Terminated table
  | .enumKey member table guarded =>
    (guarded = none ∨ uint32 (env.mem.bits obj struct member) < keyDefCount table) →
      ∃ name, keyAt table (uint32 (env.mem.bits obj struct member)) = .ok name
  | .wrapElements member count _ => env.mem.ptr obj struct member ≠ 0 ∧
      (uint32 (env.mem.bits obj struct count) ≤ int32Max → ∀ i < uint32 (env.mem.bits obj struct count),
        env.mem.ptrElem (env.mem.ptr obj struct member) i ≠ 0)
  | .bytes member size => env.mem.ptr obj struct member ≠ 0 ∧
      0 ≤ CType.toInt32 .size (env.mem.bits obj struct size)
  | .pixels member width height => env.mem.ptr obj struct member ≠ 0 ∧
      0 ≤ pixelBytes (env.mem.bits obj struct width) (env.mem.bits obj struct height)
  | .embeddedWords _ count => env.mem.bits obj struct count ≤ keycodesCap
  | access => access.exposed = true → env.mem.ptr obj struct access.member ≠ 0

theorem guarded_named (named : (Access.enumKey member table (some message)).regular = true)
    (inside : index < keyDefCount table) : ∃ name, keyAt table index = .ok name := by
  have short : index < table.dropLast.length := by simpa [keyDefCount] using inside
  have facts : ∀ entry ∈ table.dropLast, entry.name.isSome = true := by simpa [Access.regular] using named
  obtain ⟨name,same⟩ := Option.isSome_iff_exists.mp (facts _ (List.getElem_mem short))
  have within : index < table.length := by simp at short; omega
  refine ⟨.keyword name,?_⟩
  rw [List.getElem_dropLast] at same
  simp [keyAt,List.getElem?_eq_getElem within,same,janetCkeywordv]

theorem keyState_named (inside : index < 2) : ∃ name, keyAt wlKeyboardKeyStateDefs index = .ok name := by
  have cases_ : index = 0 ∨ index = 1 := by omega
  rcases cases_ with rfl | rfl
  · exact ⟨.keyword "released",rfl⟩
  · exact ⟨.keyword "pressed",rfl⟩

-- The branches without a NULL check of their own, and those behind one.
theorem core_sheltered (shielded : Shielded env live) (alive : live type obj) (regular : access.regular = true)
    (bare : access.checked = false) (counted : access.counted = true → (type,struct,access) ∈ countedBranches)
    (set : access.exposed = true → env.mem.ptr obj struct access.member ≠ 0) :
    Sheltered env struct obj access := by
  cases access with
  | nilOr inner => cases bare
  | flags member table => simpa [Sheltered,Access.regular,Terminated] using regular
  | enumKey member table guarded =>
      cases guarded with
      | some message =>
          rintro (unguarded | inside)
          · cases unguarded
          · exact guarded_named regular inside
      | none =>
          have listed := counted rfl
          simp only [countedBranches,List.mem_cons,Prod.mk.injEq,Access.enumKey.injEq,reduceCtorEq,and_false,
            or_false,List.not_mem_nil] at listed
          obtain ⟨rfl,rfl,rfl,rfl,_⟩ := listed
          exact fun _ => keyState_named (shielded.keyStates obj alive)
  | wrapElements member count target =>
      have listed := counted rfl
      simp only [countedBranches,List.mem_cons,Prod.mk.injEq,Access.wrapElements.injEq,reduceCtorEq,and_false,
        or_false,false_or,List.not_mem_nil] at listed
      obtain ⟨rfl,rfl,rfl,rfl,_⟩ := listed
      exact ⟨set rfl,shielded.images obj alive (set rfl)⟩
  | bytes member size =>
      have listed := counted rfl
      simp only [countedBranches,List.mem_cons,Prod.mk.injEq,Access.bytes.injEq,reduceCtorEq,and_false,
        or_false,false_or,List.not_mem_nil] at listed
      obtain ⟨rfl,rfl,rfl,rfl⟩ := listed
      exact ⟨set rfl,shielded.keymaps obj alive (set rfl)⟩
  | pixels member width height =>
      have listed := counted rfl
      simp only [countedBranches,List.mem_cons,Prod.mk.injEq,Access.pixels.injEq,reduceCtorEq,and_false,
        or_false,false_or,List.not_mem_nil] at listed
      obtain ⟨rfl,rfl,rfl,rfl,rfl⟩ := listed
      exact ⟨set rfl,shielded.buffers obj alive⟩
  | embeddedWords member count =>
      have listed := counted rfl
      simp only [countedBranches,List.mem_cons,Prod.mk.injEq,Access.embeddedWords.injEq,reduceCtorEq,and_false,
        or_false,false_or,List.not_mem_nil] at listed
      obtain ⟨rfl,rfl,rfl,rfl⟩ := listed
      exact shielded.keycodes obj alive
  | _ => exact set

theorem sheltered_row (shielded : Shielded env live) (found : AbsType.getMethod type = some method)
    (row : (name,access) ∈ method.members) (alive : live type obj) :
    Sheltered env method.struct obj access := by
  have regular := regular_rows type type.mem_all method found _ row
  have counted := counted_rows type type.mem_all method found _ row
  have set := fun exposed =>
    shielded.members _ (exposed_rows type type.mem_all method found _ row exposed) _ alive
  cases access with
  | nilOr inner =>
      obtain ⟨exposed,inside⟩ := Bool.and_eq_true_iff.mp regular
      by_cases unset : env.mem.ptr obj method.struct inner.member = 0
      · exact .inl unset
      · have bare : inner.checked = false := by cases inner <;> first | rfl | cases exposed
        exact .inr (core_sheltered shielded alive inside bare counted fun _ => unset)
  | _ => exact core_sheltered shielded alive regular rfl counted set

-- Values from which only live objects can be reached.
def Holds (live : AbsType → Addr → Prop) (value : Abstract) : Prop := ∀ type method,
  value.type = .own type → type.getMethod = some method → live type (method.object value)

theorem pushBytes_defined {env : Env} (set : source ≠ 0) (size : 0 ≤ length) :
    env.pushBytes source length ≠ .fault kind := by
  unfold Env.pushBytes
  split
  · simp
  · simp [Int.not_lt.mpr size]

theorem branch_defined (objLive : obj ≠ 0) (sheltered : Sheltered env struct obj access) :
    access.read env struct obj ≠ .fault kind := by
  intro faulted
  induction access with
  | nilOr inner ih =>
      simp only [Access.read,Env.readPtr_live _ objLive,Res.bind_ok] at faulted
      split at faulted
      · cases faulted
      · rename_i set
        exact ih (sheltered.resolve_left set) faulted
  | flags member table =>
      simp only [Access.read,Env.readBits_live _ objLive,Res.bind_ok] at faulted
      rcases Res.bind_fault_exact.mp faulted with scanned | ⟨_,_,built⟩
      · exact flagKeys_defined sheltered _ _ scanned
      · cases built
  | enumKey member table guarded =>
      simp only [Access.read,Env.readBits_live _ objLive,Res.bind_ok,panicf] at faulted
      split at faulted
      · split at faulted
        · cases faulted
        · rename_i inside
          obtain ⟨name,named⟩ := sheltered (.inr (Nat.lt_of_not_le inside))
          simp [named] at faulted
      · obtain ⟨name,named⟩ := sheltered (.inl rfl)
        simp [named] at faulted
  | cstring member =>
      simp only [Access.read,Env.readPtr_live _ objLive,Res.bind_ok] at faulted
      exact sheltered rfl (cstringv_faults faulted).2
  | wrapNamed member name =>
      simp only [Access.read,Env.readPtr_live _ objLive,Res.bind_ok,jlPointerToAbsObjByName,
        jlPointerToAbsObjByKey,jlGetAbstractTypeByKey,panicf] at faulted
      split at faulted <;> cases faulted
  | words member count =>
      simp only [Access.read,Env.readPtr_live _ objLive,Env.readBits_live _ objLive,Res.bind_ok] at faulted
      rw [if_neg fun unset => sheltered rfl unset.1] at faulted
      exact pushAll_total faulted
  | wrapElements member count type =>
      simp only [Access.read,Env.readPtr_live _ objLive,Env.readBits_live _ objLive,Res.bind_ok] at faulted
      rw [if_neg fun unset => sheltered.1 unset.1] at faulted
      exact pushAll_total faulted
  | bytes member size =>
      simp only [Access.read,Env.readPtr_live _ objLive,Env.readBits_live _ objLive,Res.bind_ok] at faulted
      exact pushBytes_defined sheltered.1 sheltered.2 faulted
  | pixels member width height =>
      simp only [Access.read,Env.readPtr_live _ objLive,Env.readBits_live _ objLive,Res.bind_ok] at faulted
      rw [if_neg (Int.not_lt.mpr sheltered.2)] at faulted
      exact pushBytes_defined sheltered.1 sheltered.2 faulted
  | embeddedWords member count =>
      simp only [Access.read,Env.readBits_live _ objLive,Res.bind_ok] at faulted
      rw [if_neg (Nat.not_lt.mpr sheltered)] at faulted
      exact pushAll_total faulted
  | _ => simp [Access.read,objLive] at faulted

theorem wrapper_holds {target : AbsType} (regular : target.getMethod.all (fun method => !method.inPlace) = true)
    (alive : live target ptr) : Holds live (jlPointerToAbsObj self ptr target) := by
  intro type method same found
  cases same
  have wrapped : method.inPlace = false := by simpa [found] using regular
  simpa [GetMethod.object,wrapped,jlPointerToAbsObj,Payload.firstWord] using alive

theorem named_holds (regular : (Access.wrapNamed member name).regular = true)
    (made : jlPointerToAbsObjByName registry self ptr name = .ok value) : Holds live value := by
  obtain ⟨type,resolved,built⟩ := Res.bind_exact.mp made
  cases built
  intro own method same found
  simp only at same
  subst same
  unfold jlGetAbstractTypeByKey at resolved
  split at resolved
  · rename_i other looked
    cases resolved
    have named : own.name = name := by simpa [TypeRef.name] using List.find?_some looked
    have plain := List.all_eq_true.mp regular own own.mem_all
    simp [named,found] at plain
  · cases resolved

theorem u64_holds (made : Abstract.type value = .foreign "core/u64") : Holds live value := by
  intro type method same
  rw [made] at same
  cases same

theorem branch_holds (leads : Leads env live struct obj access) (regular : access.regular = true)
    (sheltered : Sheltered env struct obj access) (made : access.Makes env struct obj value) : Holds live value := by
  induction access with
  | nilOr inner ih => exact ih leads (Bool.and_eq_true_iff.mp regular).2 (sheltered.resolve_left made.1) made.2
  | wrap member target =>
      cases made
      exact wrapper_holds regular (leads (sheltered rfl))
  | inner member target =>
      cases made
      exact wrapper_holds regular leads
  | wrapNamed member name => exact named_holds regular made
  | wrapElements member count target =>
      obtain ⟨fits,i,inside,rfl⟩ := made
      exact wrapper_holds regular (leads i inside (sheltered.2 fits i inside))
  | unsigned | words | embeddedWords => exact u64_holds made
  | _ => cases made

-- The types of signals and lists have no get method, so nothing is reached through them.
theorem made_holds (closed : Closed env live) (shielded : Shielded env live) (around : AroundLive live p type method)
    (made : method.Makes env p value) : Holds live value := by
  obtain ⟨_,found,alive⟩ := around
  rcases made with ⟨target,listed,ptr,wrapped⟩ | ⟨row,member,made⟩
  · have plain : ∀ target ∈ [AbsType.jwlAtWlSignal,.jwlAtWlList], ∀ type ∈ AbsType.all,
        type.name ≠ target.name ∨ type.getMethod.isNone = true := by decide
    have regular : (Access.wrapNamed "" target.name).regular = true := by
      simpa [Access.regular] using plain target listed
    exact named_holds regular wrapped
  · have regular := regular_rows type type.mem_all method found row member
    exact branch_holds ((closed _ _ alive).2 method found row member) regular
      (sheltered_row shielded found member alive) made

-- A get method whose tables all end with the sentinel reads past none of them.
theorem run_in_tables (found : AbsType.getMethod type = some method) (other : type ∉ unscannableTypes)
    (kw : String) : method.run env p (.keyword kw) ≠ .fault .offsetTable := by
  have ended : ∀ table ∈ method.tables, OffsetDef.null ∈ table := by
    rcases unterminated_owners type type.mem_all method found with rfl | rfl | ended
    · exact absurd (by decide) other
    · exact absurd (by decide) other
    · exact ended
  intro overran
  rcases (run_overrun_exact method env p kw).mp overran with signals | ⟨_,lists⟩
  · exact terminated_outcome (fun entries member => ended entries (by simp_all [GetMethod.tables])) signals
  · exact terminated_outcome (fun entries member => ended entries (by simp_all [GetMethod.tables])) lists

theorem run_defined (closed : Closed env live) (shielded : Shielded env live)
    (around : AroundLive live p type method) : method.run env p key ≠ .fault kind := by
  obtain ⟨_,found,alive⟩ := around
  intro faulted
  have answer := method.run_answer env p key
  rw [faulted] at answer
  generalize result : Res.fault kind = answered at answer
  cases answer with
  | entry listed => exact method.wrapEntry_defined result.symm
  | branch row =>
      have sheltered := sheltered_row shielded found (GetMethod.branch_row row) alive
      rcases Res.bind_fault_exact.mp result.symm with read | ⟨_,_,built⟩
      · exact branch_defined (closed _ _ alive).1 sheltered read
      · cases built
  | overran =>
      cases result
      cases key with
      | keyword kw => exact run_in_tables found (fun listed => shielded.scans type listed _ alive) kw faulted
      | _ => cases faulted
  | _ => cases result

-- One step along a path from a valid value is defined and ends at a valid value.
theorem get_valid (closed : Closed env live) (shielded : Shielded env live) (valid : Flat (Holds live) value)
    (key : Janet) : (∀ kind, janetGet env value key ≠ .fault kind) ∧
      ∀ next, janetGet env value key = .ok (some next) → Flat (Holds live) next := by
  constructor
  · intro kind
    cases value with
    | abstract wrapper =>
        simp only [janetGet]
        cases type : wrapper.type with
        | foreign name => simp
        | own type_ =>
            cases found : type_.getMethod with
            | none => simp [found]
            | some method =>
                simp only [found]
                exact run_defined closed shielded ⟨type,found,valid type_ method type found⟩
    | _ => simp [janetGet]
  · intro next ran
    refine get_flat valid ?_ ran
    rintro wrapper type method rfl typed found made
    exact made_holds closed shielded ⟨typed,found,valid type method typed found⟩

theorem follow_safe (closed : Closed env live) (shielded : Shielded env live) (valid : Flat (Holds live) value)
    (keys : List Janet) : follow env value keys ≠ .fault kind := by
  induction keys generalizing value with
  | nil => simp [follow]
  | cons key rest ih =>
      obtain ⟨defined,preserved⟩ := get_valid closed shielded valid key
      intro faulted
      rcases Res.bind_fault_exact.mp faulted with here | ⟨result,ran,later⟩
      · exact defined kind here
      · cases result with
        | none => cases later
        | some next => exact ih (preserved next ran) later

theorem paths_safe (closed : Closed env live) (shielded : Shielded env live) : PathsSafe env live := by
  intro p type method around keys kind
  refine follow_safe closed shielded ?_ keys
  intro own other same found
  obtain ⟨typed,known,alive⟩ := around
  rw [typed,TypeRef.own.injEq] at same
  subst same
  rw [known,Option.some.injEq] at found
  exact found ▸ alive

-- The other direction: a NULL in an unshielded member breaks the convention.
theorem breaking_rows : ∀ row ∈ unshieldedMembers, ∃ method ∈ row.1.getMethod,
    method.struct = row.2.1 ∧ method.inPlace = false ∧ ∃ entry ∈ method.members,
      method.branch entry.1 = some entry.2 ∧ entry.2.member = row.2.2 ∧ entry.2.exposed = true ∧
      scanOutcome entry.1 method.signals = .stopped ∧ scanOutcome entry.1 method.lists = .stopped := by
  decide

theorem exposed_never_nil (objLive : obj ≠ 0) (exposed : Access.exposed access = true) :
    access.read env struct obj ≠ .ok .nil := by
  intro read
  cases access with
  | words | wrapElements =>
      simp only [Access.read,Env.readPtr_live _ objLive,Env.readBits_live _ objLive,Res.bind_ok] at read
      split at read
      · cases read
      · cases (pushAll_exact.mp read).2
  | wrapNamed =>
      simp only [Access.read,Env.readPtr_live _ objLive,Res.bind_ok] at read
      obtain ⟨wrapper,_,built⟩ := Res.bind_exact.mp read
      cases built
  | cstring | bytes | pixels =>
      simp only [Access.read,Env.readPtr_live _ objLive,Env.readBits_live _ objLive,Res.bind_ok,
        Env.janetCstringv,Env.pushBytes] at read
      repeat' split at read
      all_goals cases read
  | wrap | pointer =>
      simp only [Access.read,Env.readPtr_live _ objLive,Res.bind_ok] at read
      cases read
  | _ => cases exposed

theorem exposed_pointer {access : Access} (exposed : access.exposed = true) : access.pointerValued = true := by
  cases access with
  | nilOr inner => cases exposed
  | _ => exact exposed

theorem members_needed (closed : Closed env live) (total : NilOnNull env live) (row : AbsType × String × String)
    (listed : row ∈ unshieldedMembers) (alive : live row.1 obj) : env.mem.ptr obj row.2.1 row.2.2 ≠ 0 := by
  intro unset
  obtain ⟨method,found,struct,wrapped,entry,_,branch,member,exposed,signals,lists⟩ := breaking_rows row listed
  have object : method.object ⟨0,.own row.1,.wrapper obj⟩ = obj := by
    simp [GetMethod.object,wrapped,Payload.firstWord]
  have nil := total ⟨0,.own row.1,.wrapper obj⟩ row.1 method ⟨rfl,found,object.symm ▸ alive⟩ entry.1 entry.2
    branch (exposed_pointer exposed) (by rw [object,struct,member]; exact unset)
  rw [GetMethod.run_unscanned method signals lists,branch,object] at nil
  obtain ⟨value,read,built⟩ := Res.bind_exact.mp nil
  cases built
  exact exposed_never_nil (closed _ _ alive).1 exposed read

theorem int32_index {i : Nat} (fits : i ≤ int32Max) : (Number.finite i).int32? = some (i : Int) := by
  have low : int32Min ≤ i := by unfold int32Min; omega
  simp [Number.int32?,low,fits]

theorem follow_step (ran : janetGet env value key = .ok (some next)) :
    follow env value (key :: rest) = follow env next rest := by simp [follow,ran]

theorem follow_faults (ran : janetGet env value key = .fault kind) :
    follow env value (key :: rest) = .fault kind := by simp [follow,ran]

-- `get` with a keyword that only the branches of a get method know.
theorem get_branch {method : GetMethod} (found : type.getMethod = some method)
    (unscanned : scanOutcome kw method.signals = .stopped ∧ scanOutcome kw method.lists = .stopped)
    (branch : method.branch kw = some access) : janetGet env (.abstract ⟨self,.own type,payload⟩) (.keyword kw) =
      (access.read env method.struct (method.object ⟨self,.own type,payload⟩) >>= fun value => .ok (some value)) := by
  simp [janetGet,found,GetMethod.run_unscanned method unscanned.1 unscanned.2,branch]

theorem follow_key {result : Res Janet} (ran : janetGet env value key = (result >>= fun next => .ok (some next)))
    (faulted : result = .fault kind) : follow env value [key] = .fault kind := by
  apply follow_faults
  rw [ran,faulted]
  rfl

theorem keyState_faults (beyond : 2 ≤ index) : ∃ kind, keyAt wlKeyboardKeyStateDefs index = .fault kind := by
  rcases Nat.lt_or_ge index 3 with last | past
  · obtain rfl : index = 2 := by omega
    exact ⟨.nullDeref,rfl⟩
  · have missing : wlKeyboardKeyStateDefs[index]? = none := List.getElem?_eq_none past
    exact ⟨.keyTable,by simp [keyAt,missing]⟩

-- `:tree` is a member of a scene and no key of an xdg-surface; both scans run on.
theorem unscannable_rows : ∀ type ∈ unscannableTypes, ∃ method ∈ type.getMethod, method.inPlace = false ∧
    scanOutcome "tree" method.signals = .stopped ∧ scanOutcome "tree" method.lists = .overrun := by decide

theorem scans_needed (safe : PathsSafe env live) (listed : type ∈ unscannableTypes) : ¬live type obj := by
  intro alive
  obtain ⟨method,found,outside,signals,lists⟩ := unscannable_rows type listed
  refine safe ⟨0,.own type,.wrapper obj⟩ type method ⟨rfl,found,?_⟩ [.keyword "tree"] .offsetTable ?_
  · simpa [GetMethod.object,outside,Payload.firstWord] using alive
  · apply follow_faults
    simpa [janetGet,Option.mem_def.mp found] using (run_overrun_exact method env _ _).mpr (.inr ⟨signals,lists⟩)

section

variable (closed : Closed env live) (safe : PathsSafe env live)
include closed safe

theorem keyStates_needed (alive : live .jwlrAtWlrKeyboardKeyEvent obj) :
    uint32 (env.mem.bits obj "wlr_keyboard_key_event" "state") < 2 := by
  by_contra beyond
  obtain ⟨kind,faulted⟩ := keyState_faults (Nat.le_of_not_lt beyond)
  refine safe ⟨0,.own .jwlrAtWlrKeyboardKeyEvent,.wrapper obj⟩ _ _ ⟨rfl,rfl,alive⟩ [.keyword "state"] kind ?_
  refine follow_key (get_branch rfl ⟨rfl,rfl⟩ rfl) ?_
  change Access.read env "wlr_keyboard_key_event" obj (.enumKey "state" wlKeyboardKeyStateDefs none) = _
  simp [Access.read,(closed _ _ alive).1,faulted]

theorem buffers_needed (alive : live .jwlrAtWlrXcursorImage obj) : 0 ≤ pixelBytes
    (env.mem.bits obj "wlr_xcursor_image" "width") (env.mem.bits obj "wlr_xcursor_image" "height") := by
  by_contra negative
  refine safe ⟨0,.own .jwlrAtWlrXcursorImage,.wrapper obj⟩ _ _ ⟨rfl,rfl,alive⟩ [.keyword "buffer"] .assertion ?_
  refine follow_key (get_branch rfl ⟨rfl,rfl⟩ rfl) ?_
  change Access.read env "wlr_xcursor_image" obj (.pixels "buffer" "width" "height") = _
  simp [Access.read,(closed _ _ alive).1,Int.not_le.mp negative]

theorem keymaps_needed (alive : live .jwlrAtWlrKeyboard obj)
    (set : env.mem.ptr obj "wlr_keyboard" "keymap_string" ≠ 0) :
    0 ≤ CType.toInt32 .size (env.mem.bits obj "wlr_keyboard" "keymap_size") := by
  by_contra negative
  have short := Int.not_le.mp negative
  refine safe ⟨0,.own .jwlrAtWlrKeyboard,.wrapper obj⟩ _ _ ⟨rfl,rfl,alive⟩ [.keyword "keymap-string"] .badRead ?_
  refine follow_key (get_branch rfl ⟨rfl,rfl⟩ rfl) ?_
  change Access.read env "wlr_keyboard" obj (.nilOr (.bytes "keymap_string" "keymap_size")) = _
  simp [Access.read,Access.member,(closed _ _ alive).1,set,Env.pushBytes,short,Int.ne_of_lt short]

theorem keycodes_needed (alive : live .jwlrAtWlrKeyboard obj) :
    env.mem.bits obj "wlr_keyboard" "num_keycodes" ≤ keycodesCap := by
  by_contra beyond
  refine safe ⟨0,.own .jwlrAtWlrKeyboard,.wrapper obj⟩ _ _ ⟨rfl,rfl,alive⟩ [.keyword "keycodes"] .badRead ?_
  refine follow_key (get_branch rfl ⟨rfl,rfl⟩ rfl) ?_
  change Access.read env "wlr_keyboard" obj (.embeddedWords "keycodes" "num_keycodes") = _
  simp [Access.read,(closed _ _ alive).1,Nat.lt_of_not_le beyond]

end

def imageAt (env : Env) (images : Addr) (i : Nat) : Janet :=
  .abstract (jlPointerToAbsObj (env.alloc i) (env.mem.ptrElem images i) .jwlrAtWlrXcursorImage)

theorem images_get (objLive : obj ≠ 0) (set : env.mem.ptr obj "wlr_xcursor" "images" ≠ 0)
    (fits : uint32 (env.mem.bits obj "wlr_xcursor" "image_count") ≤ int32Max) :
    janetGet env (.abstract ⟨self,.own .jwlrAtWlrXcursor,.wrapper obj⟩) (.keyword "images") =
      .ok (some (.array ((List.range (uint32 (env.mem.bits obj "wlr_xcursor" "image_count"))).map
        (imageAt env (env.mem.ptr obj "wlr_xcursor" "images"))))) := by
  rw [get_branch rfl ⟨rfl,rfl⟩ rfl]
  change (Access.read env "wlr_xcursor" obj (.nilOr (.wrapElements "images" "image_count" _)) >>= _) = _
  simp [Access.read,objLive,Access.member,set,pushAll_exact.mpr ⟨fits,rfl⟩,imageAt]

theorem images_needed (closed : Closed env live) (safe : PathsSafe env live) (alive : live .jwlrAtWlrXcursor obj)
    (set : env.mem.ptr obj "wlr_xcursor" "images" ≠ 0)
    (fits : uint32 (env.mem.bits obj "wlr_xcursor" "image_count") ≤ int32Max)
    (inside : i < uint32 (env.mem.bits obj "wlr_xcursor" "image_count")) :
    env.mem.ptrElem (env.mem.ptr obj "wlr_xcursor" "images") i ≠ 0 := by
  intro unset
  have objLive := (closed _ _ alive).1
  have small : (i : Int) ≤ int32Max := by omega
  refine safe ⟨0,.own .jwlrAtWlrXcursor,.wrapper obj⟩ _ _ ⟨rfl,rfl,alive⟩
    [.keyword "images",.number (.finite i),.keyword "width"] .nullDeref ?_
  have selected (items : Nat → Janet) : janetGet env
      (.array ((List.range (uint32 (env.mem.bits obj "wlr_xcursor" "image_count"))).map items))
      (.number (.finite i)) = .ok (some (items i)) := by
    simp [janetGet,janetGetIndex,int32_index small,inside]
  rw [follow_step (images_get objLive set fits),follow_step (selected _)]
  apply follow_faults
  rw [imageAt,unset,jlPointerToAbsObj,get_branch rfl ⟨rfl,rfl⟩ rfl]
  rfl

def NullTotal (env : Env) (live : AbsType → Addr → Prop) : Prop := NilOnNull env live ∧ PathsSafe env live

theorem null_total_exact (closed : Closed env live) : NullTotal env live ↔ Shielded env live := by
  constructor
  · rintro ⟨nils,safe⟩
    exact {
      scans := fun type listed obj => scans_needed safe listed
      members := fun row listed obj alive => members_needed closed nils row listed alive
      keyStates := fun obj alive => keyStates_needed closed safe alive
      images := fun obj alive set fits i inside => images_needed closed safe alive set fits inside
      buffers := fun obj alive => buffers_needed closed safe alive
      keymaps := fun obj alive set => keymaps_needed closed safe alive set
      keycodes := fun obj alive => keycodes_needed closed safe alive }
  · intro shielded
    exact ⟨nil_on_null closed shielded,paths_safe closed shielded⟩

theorem scene_surface_total : NullTotal blankEnv (fun type obj => type = .jwlrAtWlrSceneSurface ∧ obj = 16) := by
  refine (null_total_exact ?_).mpr ⟨?_,?_,?_,?_,?_,?_,?_⟩
  · rintro type obj ⟨rfl,rfl⟩
    refine ⟨by decide,?_⟩
    intro method found row member
    cases found
    simp only [methodWlrSceneSurfaceGet,List.mem_cons,List.not_mem_nil,or_false] at member
    rcases member with rfl | rfl <;> exact fun set => absurd rfl set
  · rintro type listed obj ⟨rfl,_⟩
    revert listed
    decide
  · intro row listed obj alive
    revert listed
    rw [show row = (row.1,row.2) from rfl,alive.1]
    simp [unshieldedMembers]
  all_goals
    intro obj alive
    cases alive.1

-- wlroots leaves `output_name` NULL for a pointer that is bound to no output.
theorem pointer_output_name_faults :
    ¬∀ env live, Loaded env.registry → Closed env live → NullTotal env live := by
  intro claim
  have total := claim blankEnv (fun type obj =>
    (type = .jwlrAtWlrPointer ∨ type = .jwlrAtWlrInputDevice) ∧ obj = 16) modules_load (by
      rintro type obj ⟨rfl | rfl,rfl⟩
      · refine ⟨by decide,?_⟩
        intro method found row member
        cases found
        simp only [methodWlrPointerGet,List.mem_cons,List.not_mem_nil,or_false] at member
        rcases member with rfl | rfl | rfl
        · exact ⟨.inr rfl,rfl⟩
        · trivial
        · trivial
      · refine ⟨by decide,?_⟩
        intro method found row member
        cases found
        simp only [methodWlrInputDeviceGet,List.mem_cons,List.not_mem_nil,or_false] at member
        rcases member with rfl | rfl | rfl | rfl | rfl <;> trivial)
  refine total.2 ⟨0,.own .jwlrAtWlrPointer,.wrapper 16⟩ .jwlrAtWlrPointer _ ⟨rfl,rfl,.inl rfl,rfl⟩
    [.keyword "output-name"] .nullDeref ?_
  apply follow_faults
  rw [get_branch rfl ⟨rfl,rfl⟩ rfl]
  rfl

end Janetland
