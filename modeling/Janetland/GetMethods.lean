import Janetland.OffsetTables
import Janetland.KeyDefs

namespace Janetland

-- The kinds of branch a get method has: which member it reads and what it makes of it.
inductive Access where
  | integer (ctype : CType) (member : String)
  | unsigned (member : String)
  | number (member : String)
  | boolean (member : String)
  | flags (member : String) (table : List KeyDef)
  | enumKey (member : String) (table : List KeyDef) (guarded : Option String)
  | cstring (member : String)
  | pointer (member : String)
  | wrap (member : String) (type : AbsType)
  | wrapNamed (member : String) (name : String)
  | inner (member : String) (type : AbsType)
  | bytes (member size : String)
  | words (member count : String)
  | embeddedWords (member count : String)
  | wrapElements (member count : String) (type : AbsType)
  | pixels (member width height : String)
  -- `if (!(obj->member)) { *out = janet_wrap_nil(); return 1; }` before the rest
  | nilOr (access : Access)
deriving DecidableEq

def Access.member : Access → String
  | .integer _ member | .unsigned member | .number member | .boolean member | .flags member _
  | .enumKey member _ _ | .cstring member | .pointer member | .wrap member _ | .wrapNamed member _
  | .inner member _ | .bytes member _ | .words member _ | .embeddedWords member _
  | .wrapElements member _ _ | .pixels member _ _ => member
  | .nilOr access => access.member

-- A branch whose member is an address, and one that uses that address unchecked.
def Access.exposed : Access → Bool
  | .cstring _ | .pointer _ | .wrap _ _ | .wrapNamed _ _ | .bytes _ _ | .words _ _ | .wrapElements _ _ _
  | .pixels _ _ _ => true
  | _ => false

def Access.pointerValued : Access → Bool
  | .nilOr access => access.pointerValued
  | access => access.exposed

-- xcursor_image: buf_len is a uint32_t product, converted to int32_t.
def pixelBytes (width height : Nat) : Int := CType.toInt32 .uint32 (width * height * 4)

-- WLR_KEYBOARD_KEYS_CAP
def keycodesCap : Nat := 32

def Access.read (env : Env) (struct : String) (obj : Addr) : Access → Res Janet
  | .integer ctype member => do
    let raw ← env.readBits obj struct member
    return janetInteger (ctype.toInt32 raw)
  | .unsigned member => do
    let raw ← env.readBits obj struct member
    return env.janetWrapU64 0 (uint32 raw)
  | .number member => do
    let value ← env.readNum obj struct member
    return .number value
  | .boolean member => do
    let raw ← env.readBits obj struct member
    return .boolean (raw % 256 ≠ 0)
  | .flags member table => do
    let raw ← env.readBits obj struct member
    let keys ← jlGetFlagKeys (BitVec.ofNat 32 raw) table
    return .array keys
  | .enumKey member table guarded => do
    let raw ← env.readBits obj struct member
    match guarded with
    | some message =>
      if keyDefCount table ≤ uint32 raw then panicf message [janetInteger (CType.toInt32 .uint32 raw)]
      else keyAt table (uint32 raw)
    | none => keyAt table (uint32 raw)
  | .cstring member => do
    let text ← env.readPtr obj struct member
    env.janetCstringv text
  | .pointer member => do
    let address ← env.readPtr obj struct member
    return .pointer address
  | .wrap member type => do
    let ptr ← env.readPtr obj struct member
    return .abstract (jlPointerToAbsObj (env.alloc 0) ptr type)
  | .wrapNamed member name => do
    let ptr ← env.readPtr obj struct member
    let value ← jlPointerToAbsObjByName env.registry (env.alloc 0) ptr name
    return .abstract value
  | .inner member type =>
    .ok (.abstract (jlPointerToAbsObj (env.alloc 0) (env.memberAddr obj struct member) type))
  | .bytes member size => do
    let source ← env.readPtr obj struct member
    let raw ← env.readBits obj struct size
    env.pushBytes source (CType.toInt32 .size raw)
  | .words member count => do
    let source ← env.readPtr obj struct member
    let length ← env.readBits obj struct count
    if source = 0 ∧ 0 < length then .fault .nullDeref
    else pushAll length (fun i => env.janetWrapU64 i (uint32 (env.mem.word source i)))
  | .embeddedWords member count => do
    let length ← env.readBits obj struct count
    if keycodesCap < length then .fault .badRead
    else pushAll length (fun i =>
      env.janetWrapU64 i (uint32 (env.mem.word (env.memberAddr obj struct member) i)))
  | .wrapElements member count type => do
    let source ← env.readPtr obj struct member
    let raw ← env.readBits obj struct count
    if source = 0 ∧ 0 < uint32 raw then .fault .nullDeref
    else pushAll (uint32 raw) (fun i =>
      .abstract (jlPointerToAbsObj (env.alloc i) (env.mem.ptrElem source i) type))
  | .pixels member width height => do
    let w ← env.readBits obj struct width
    let h ← env.readBits obj struct height
    if pixelBytes w h < 0 then .fault .assertion
    else do
      let source ← env.readPtr obj struct member
      env.pushBytes source (pixelBytes w h)
  | .nilOr access => do
    let ptr ← env.readPtr obj struct access.member
    if ptr = 0 then return .nil else access.read env struct obj

theorem flagKeys_faults (faulted : jlGetFlagKeys flags table = .fault kind) : kind = .keyTable := by
  induction table with
  | nil => cases faulted; rfl
  | cons entry rest ih =>
      unfold jlGetFlagKeys at faulted
      cases named : entry.name with
      | none => simp [named] at faulted
      | some name =>
          simp only [named,Res.bind_fault_exact] at faulted
          rcases faulted with later | ⟨keys,_,ended⟩
          · exact ih later
          · cases ended

theorem keyAt_faults (faulted : keyAt table index = .fault kind) :
    kind = .keyTable ∨ kind = .nullDeref ∧ ∃ entry, table[index]? = some entry ∧ entry.name = none := by
  unfold keyAt janetCkeywordv at faulted
  split at faulted
  · rename_i entry found
    split at faulted
    · cases faulted
    · rename_i unnamed
      cases faulted
      exact .inr ⟨rfl,entry,found,unnamed⟩
  · cases faulted
    exact .inl rfl

theorem cstringv_faults {env : Env} (faulted : env.janetCstringv text = .fault kind) :
    kind = .nullDeref ∧ text = 0 := by
  unfold Env.janetCstringv at faulted
  split at faulted
  · rename_i unset
    cases faulted
    exact ⟨rfl,unset⟩
  · cases faulted

theorem pushBytes_faults {env : Env} (faulted : env.pushBytes source length = .fault kind) :
    kind = .badRead ∨ kind = .nullDeref ∧ source = 0 := by
  unfold Env.pushBytes at faulted
  split at faulted
  · cases faulted
  · split at faulted
    · rename_i unset
      cases faulted
      exact .inr ⟨rfl,unset⟩
    · split at faulted <;> cases faulted
      exact .inl rfl

theorem pushAll_total : pushAll count item ≠ .fault kind := by
  unfold pushAll panicf
  split <;> simp

-- An enum member whose value leads `table[value].name` to an unnamed entry.
def Access.Unnamed (env : Env) (struct : String) (obj : Addr) : Access → Prop
  | .enumKey member table guarded => ∃ entry, table[uint32 (env.mem.bits obj struct member)]? = some entry ∧
      entry.name = none ∧ (guarded ≠ none → uint32 (env.mem.bits obj struct member) < keyDefCount table)
  | .nilOr access => access.Unnamed env struct obj
  | _ => False

theorem Access.read_null (access : Access) (env : Env) (struct : String)
    (faulted : access.read env struct 0 = .fault kind) : kind = .nullDeref := by
  cases access <;> simp [read,Env.readPtr,Env.readBits,Env.readNum] at faulted <;> exact faulted.symm

theorem enumKey_faults {env : Env} (live : obj ≠ 0)
    (faulted : (Access.enumKey member table guarded).read env struct obj = .fault kind) :
    kind = .keyTable ∨ kind = .nullDeref ∧ (Access.enumKey member table guarded).Unnamed env struct obj := by
  simp only [Access.read,Env.readBits_live _ live,Res.bind_ok] at faulted
  cases guarded with
  | none =>
      rcases keyAt_faults faulted with missing | ⟨unset,entry,found,unnamed⟩
      · exact .inl missing
      · exact .inr ⟨unset,entry,found,unnamed,by simp⟩
  | some message =>
      simp only [panicf] at faulted
      split at faulted
      · cases faulted
      · rename_i inside
        rcases keyAt_faults faulted with missing | ⟨unset,entry,found,unnamed⟩
        · exact .inl missing
        · exact .inr ⟨unset,entry,found,unnamed,fun _ => Nat.lt_of_not_le inside⟩

-- What a branch can run into on an object that is there.
theorem Access.read_faults {env : Env} (access : Access) (live : obj ≠ 0)
    (faulted : access.read env struct obj = .fault kind) : kind ∈ [.keyTable,.badRead,.assertion] ∨
      kind = .nullDeref ∧ (access.exposed = true ∧ env.mem.ptr obj struct access.member = 0 ∨
        access.Unnamed env struct obj) := by
  induction access with
  | nilOr access ih =>
      simp only [read,Env.readPtr_live _ live,Res.bind_ok] at faulted
      split at faulted
      · cases faulted
      · rename_i set
        rcases ih faulted with other | ⟨rfl,unset | unnamed⟩
        · exact .inl other
        · exact absurd unset.2 set
        · exact .inr ⟨rfl,.inr unnamed⟩
  | flags member table =>
      simp only [read,Env.readBits_live _ live,Res.bind_ok,Res.bind_fault_exact] at faulted
      rcases faulted with scanned | ⟨keys,_,ended⟩
      · simp [flagKeys_faults scanned]
      · cases ended
  | enumKey member table guarded =>
      rcases enumKey_faults live faulted with rfl | ⟨rfl,unnamed⟩
      · simp
      · exact .inr ⟨rfl,.inr unnamed⟩
  | cstring member =>
      simp only [read,Env.readPtr_live _ live,Res.bind_ok] at faulted
      obtain ⟨rfl,unset⟩ := cstringv_faults faulted
      exact .inr ⟨rfl,.inl ⟨rfl,unset⟩⟩
  | wrapNamed member name =>
      simp only [read,Env.readPtr_live _ live,Res.bind_ok,jlPointerToAbsObjByName,jlPointerToAbsObjByKey,
        jlGetAbstractTypeByKey,panicf] at faulted
      split at faulted <;> cases faulted
  | bytes member size =>
      simp only [read,Env.readPtr_live _ live,Env.readBits_live _ live,Res.bind_ok] at faulted
      rcases pushBytes_faults faulted with rfl | ⟨rfl,unset⟩
      · simp
      · exact .inr ⟨rfl,.inl ⟨rfl,unset⟩⟩
  | words member count | wrapElements member count type =>
      simp only [read,Env.readPtr_live _ live,Env.readBits_live _ live,Res.bind_ok] at faulted
      split at faulted
      · rename_i unset
        cases faulted
        exact .inr ⟨rfl,.inl ⟨rfl,unset.1⟩⟩
      · exact absurd faulted pushAll_total
  | embeddedWords member count =>
      simp only [read,Env.readBits_live _ live,Res.bind_ok] at faulted
      split at faulted
      · cases faulted; simp
      · exact absurd faulted pushAll_total
  | pixels member width height =>
      simp only [read,Env.readPtr_live _ live,Env.readBits_live _ live,Res.bind_ok] at faulted
      split at faulted
      · cases faulted; simp
      · rcases pushBytes_faults faulted with rfl | ⟨rfl,unset⟩
        · simp
        · exact .inr ⟨rfl,.inl ⟨rfl,unset⟩⟩
  | _ => simp [read,live] at faulted

-- A get method scans its signal and list tables, then compares its own keywords in
-- order. `inPlace` marks the one whose struct lies in the abstract itself.
structure GetMethod where
  struct : String
  inPlace : Bool := false
  signals : Option (List OffsetDef) := none
  lists : Option (List OffsetDef) := none
  members : List (String × Access) := []

def scanTable (find : Env → Addr → String → List OffsetDef → Res (Option Abstract)) (env : Env)
    (obj : Addr) (kw : String) : Option (List OffsetDef) → Res (Option Abstract)
  | none => .ok none
  | some table => find env obj kw table

def scanOutcome (kw : String) : Option (List OffsetDef) → SentinelScan.Outcome OffsetDef
  | none => .stopped
  | some table => scanOffsets kw table

theorem scanOutcome_cString (kw : String) (table : Option (List OffsetDef)) :
    scanOutcome (cString kw) table = scanOutcome kw table := by
  cases table <;> simp [scanOutcome,scanOffsets]

theorem scanTable_stopped (stopped : scanOutcome kw table = .stopped) :
    scanTable (getAbstractStructMember type) env obj kw table = .ok none := by
  cases table with
  | none => rfl
  | some table => simp_all [scanOutcome,scanTable,getAbstractStructMember]

theorem scanTable_overrun (overran : scanOutcome kw table = .overrun) :
    scanTable (getAbstractStructMember type) env obj kw table = .fault .offsetTable := by
  cases table with
  | none => cases overran
  | some table => simp_all [scanOutcome,scanTable,getAbstractStructMember]

theorem scanTable_hit (found : scanOutcome kw table = .hit entry) :
    scanTable (getAbstractStructMember type) env obj kw table =
      (jlPointerToAbsObjByName env.registry (env.alloc 0) (obj + entry.offset env) type.name >>=
        fun value => .ok (some value)) := by
  cases table with
  | none => cases found
  | some table => simp_all [scanOutcome,scanTable,getAbstractStructMember]

namespace GetMethod

def object (method : GetMethod) (p : Abstract) : Addr :=
  if method.inPlace then p.self else p.payload.firstWord

def branch (method : GetMethod) (kw : String) : Option Access :=
  (method.members.find? (fun row => janetCstrcmp kw row.1)).map Prod.snd

-- A zero result, here `none`, tells Janet that the key is unknown.
def run (method : GetMethod) (env : Env) (p : Abstract) : Janet → Res (Option Janet)
  | .keyword kw => do
    match ← scanTable getAbstractStructSignalMember env (method.object p) kw method.signals with
    | some value => return some (.abstract value)
    | none => match ← scanTable getAbstractStructListMember env (method.object p) kw method.lists with
      | some value => return some (.abstract value)
      | none => match method.branch kw with
        | some access => do
          let value ← access.read env method.struct (method.object p)
          return some value
        | none => return none
  | key => panicf "expected keyword, got %v" [key]

theorem branch_row {method : GetMethod} (found : method.branch kw = some access) :
    (cString kw,access) ∈ method.members := by
  obtain ⟨row,member,rfl⟩ := Option.map_eq_some_iff.mp found
  have same : cString kw = row.1 := by simpa [janetCstrcmp] using List.find?_some member
  rw [same]
  exact List.mem_of_find?_eq_some member

-- The wrapper around a signal or list member that a scan found.
def wrapEntry (method : GetMethod) (env : Env) (p : Abstract) (type : AbsType) (entry : OffsetDef) :
    Res (Option Janet) := do
  let value ← jlPointerToAbsObjByName env.registry (env.alloc 0) (method.object p + entry.offset env) type.name
  return some (.abstract value)

theorem wrapEntry_defined (method : GetMethod) : method.wrapEntry env p type entry ≠ .fault kind := by
  unfold wrapEntry jlPointerToAbsObjByName jlPointerToAbsObjByKey jlGetAbstractTypeByKey panicf
  split <;> simp

theorem run_signal (method : GetMethod) (found : scanOutcome kw method.signals = .hit entry) :
    method.run env p (.keyword kw) = method.wrapEntry env p .jwlAtWlSignal entry := by
  simp only [run,wrapEntry,getAbstractStructSignalMember,scanTable_hit found]
  cases jlPointerToAbsObjByName env.registry (env.alloc 0) (method.object p + entry.offset env) _ <;> rfl

theorem run_list (method : GetMethod) (noSignal : scanOutcome kw method.signals = .stopped)
    (found : scanOutcome kw method.lists = .hit entry) :
    method.run env p (.keyword kw) = method.wrapEntry env p .jwlAtWlList entry := by
  simp only [run,wrapEntry,getAbstractStructSignalMember,getAbstractStructListMember,
    scanTable_stopped noSignal,scanTable_hit found,Res.bind_ok]
  cases jlPointerToAbsObjByName env.registry (env.alloc 0) (method.object p + entry.offset env) _ <;> rfl

theorem run_unscanned (method : GetMethod) (noSignal : scanOutcome kw method.signals = .stopped)
    (noList : scanOutcome kw method.lists = .stopped) :
    method.run env p (.keyword kw) = match method.branch kw with
      | some access => access.read env method.struct (method.object p) >>= fun value => .ok (some value)
      | none => .ok none := by
  simp only [run,getAbstractStructSignalMember,getAbstractStructListMember,scanTable_stopped noSignal,
    scanTable_stopped noList,Res.bind_ok]
  cases method.branch kw <;> rfl

-- All that a get method does with a key.
inductive Answer (method : GetMethod) (env : Env) (p : Abstract) : Janet → Res (Option Janet) → Prop
  | refused : Answer method env p key (.panic ⟨"expected keyword, got %v",[key]⟩)
  | overran : Answer method env p key (.fault .offsetTable)
  | entry (listed : type ∈ [AbsType.jwlAtWlSignal,.jwlAtWlList]) :
      Answer method env p key (method.wrapEntry env p type entry)
  | branch (found : method.branch kw = some access) : Answer method env p (.keyword kw)
      (access.read env method.struct (method.object p) >>= fun value => .ok (some value))
  | unknown : Answer method env p key (.ok none)

theorem run_answer (method : GetMethod) (env : Env) (p : Abstract) (key : Janet) :
    method.Answer env p key (method.run env p key) := by
  cases key with
  | keyword kw =>
      cases signals : scanOutcome kw method.signals with
      | overrun =>
          have overran : method.run env p (.keyword kw) = .fault .offsetTable := by
            simp [run,getAbstractStructSignalMember,scanTable_overrun signals]
          exact overran ▸ .overran
      | hit entry => exact run_signal method signals ▸ .entry (by simp)
      | stopped =>
          cases lists : scanOutcome kw method.lists with
          | overrun =>
              have overran : method.run env p (.keyword kw) = .fault .offsetTable := by
                simp [run,getAbstractStructSignalMember,getAbstractStructListMember,
                  scanTable_stopped signals,scanTable_overrun lists]
              exact overran ▸ .overran
          | hit entry => exact run_list method signals lists ▸ .entry (by simp)
          | stopped =>
              rw [run_unscanned method signals lists]
              cases found : method.branch kw with
              | some access => exact .branch found
              | none => exact .unknown
  | _ => exact .refused

end GetMethod

def methodBoxGet : GetMethod where
  struct := "wlr_box"
  inPlace := true
  members := [("x",.integer .int32 "x"),("y",.integer .int32 "y"),("width",.integer .int32 "width"),
    ("height",.integer .int32 "height")]
def methodWlrBackendGet : GetMethod where
  struct := "wlr_backend"
  signals := some wlrBackendSignalOffsets
def methodWlrOutputLayoutGet : GetMethod where
  struct := "wlr_output_layout"
  signals := some wlrOutputLayoutSignalOffsets
  lists := some wlrOutputLayoutListOffsets
def methodWlrSceneGet : GetMethod where
  struct := "wlr_scene"
  lists := some wlrSceneListOffsets
  members := [("tree",.inner "tree" .jwlrAtWlrSceneTree)]
def methodWlrSceneOutputGet : GetMethod where
  struct := "wlr_scene_output"
  signals := some wlrSceneOutputSignalOffsets
  members := [("output",.wrap "output" .jwlrAtWlrOutput),("scene",.wrap "scene" .jwlrAtWlrScene),
    ("x",.integer .int32 "x"),("y",.integer .int32 "y")]
def methodWlrXdgShellGet : GetMethod where
  struct := "wlr_xdg_shell"
  signals := some wlrXdgShellSignalOffsets
def methodWlrXdgPopupGet : GetMethod where
  struct := "wlr_xdg_popup"
  signals := some wlrXdgPopupSignalOffsets
  members := [("parent",.nilOr (.wrap "parent" .jwlrAtWlrSurface))]
def methodWlrXdgToplevelGet : GetMethod where
  struct := "wlr_xdg_toplevel"
  signals := some wlrXdgToplevelSignalOffsets
  members := [("base",.wrap "base" .jwlrAtWlrXdgSurface)]
def methodWlrXdgToplevelResizeEventGet : GetMethod where
  struct := "wlr_xdg_toplevel_resize_event"
  members := [("toplevel",.nilOr (.wrap "toplevel" .jwlrAtWlrXdgToplevel)),
    ("seat",.nilOr (.wrap "seat" .jwlrAtWlrSeatClient)),("serial",.integer .uint32 "serial"),
    ("edges",.flags "edges" wlrEdgesDefs)]
def methodWlrXdgToplevelMoveEventGet : GetMethod where
  struct := "wlr_xdg_toplevel_move_event"
  members := [("toplevel",.nilOr (.wrap "toplevel" .jwlrAtWlrXdgToplevel)),
    ("seat",.nilOr (.wrap "seat" .jwlrAtWlrSeatClient)),("serial",.integer .uint32 "serial")]
def methodWlrXdgSurfaceGet : GetMethod where
  struct := "wlr_xdg_surface"
  signals := some wlrXdgSurfaceSignalOffsets
  lists := some wlrXdgSurfaceListOffsets
  members := [("role",.enumKey "role" wlrXdgSurfaceRoleDefs (some "unknown surface role: %d")),
    ("toplevel",.nilOr (.wrap "toplevel" .jwlrAtWlrXdgToplevel)),
    ("popup",.nilOr (.wrap "popup" .jwlrAtWlrXdgPopup)),
    ("surface",.nilOr (.wrap "surface" .jwlrAtWlrSurface)),("data",.nilOr (.pointer "data"))]
def methodWlrSurfaceGet : GetMethod where
  struct := "wlr_surface"
  signals := some wlrSurfaceSignalOffsets
  members := [("renderer",.nilOr (.wrap "renderer" .jwlrAtWlrRenderer)),("sx",.integer .int32 "sx"),
    ("sy",.integer .int32 "sy"),("current",.inner "current" .jwlrAtWlrSurfaceState),
    ("pending",.inner "current" .jwlrAtWlrSurfaceState),("data",.nilOr (.pointer "data"))]
def methodWlrSurfaceStateGet : GetMethod where
  struct := "wlr_surface_state"
  members := [("committed",.flags "committed" wlrSurfaceStateFieldDefs),("seq",.unsigned "seq"),
    ("dx",.integer .int32 "dx"),("dy",.integer .int32 "dy"),("scale",.integer .int32 "scale"),
    ("width",.integer .int32 "width"),("height",.integer .int32 "height"),
    ("buffer-width",.integer .int32 "buffer_width"),("buffer-height",.integer .int32 "buffer_height")]
def methodWlrCursorGet : GetMethod where
  struct := "wlr_cursor"
  signals := some wlrCursorSignalOffsets
  members := [("x",.number "x"),("y",.number "y"),("data",.nilOr (.pointer "data"))]
def methodWlrXcursorImageGet : GetMethod where
  struct := "wlr_xcursor_image"
  members := [("width",.unsigned "width"),("height",.unsigned "height"),
    ("hotspot-x",.integer .uint32 "hotspot_x"),("hotspot-y",.integer .uint32 "hotspot_y"),
    ("delay",.unsigned "delay"),("buffer",.pixels "buffer" "width" "height")]
def methodWlrXcursorGet : GetMethod where
  struct := "wlr_xcursor"
  members := [("image-count",.unsigned "image_count"),
    ("images",.nilOr (.wrapElements "images" "image_count" .jwlrAtWlrXcursorImage)),
    ("name",.nilOr (.cstring "name")),("total-delay",.unsigned "total_delay")]
def methodWlrSeatGet : GetMethod where
  struct := "wlr_seat"
  signals := some wlrSeatSignalOffsets
  members := [("pointer-state",.inner "pointer_state" .jwlrAtWlrSeatPointerState),
    ("keyboard-state",.inner "keyboard_state" .jwlrAtWlrSeatKeyboardState)]
def methodWlrOutputGet : GetMethod where
  struct := "wlr_output"
  signals := some wlrOutputSignalOffsets
  lists := some wlrOutputListOffsets
  members := [("data",.nilOr (.pointer "data"))]
def methodWlrOutputModeGet : GetMethod where
  struct := "wlr_output_mode"
  members := [("width",.integer .int32 "width"),("height",.integer .int32 "height"),
    ("refresh",.integer .int32 "refresh"),("preferred",.boolean "preferred"),
    ("picture-aspect-ratio",.enumKey "picture_aspect_ratio" wlrOutputModeAspectRatioDefs
      (some "unknown aspect ration from wlroots output mode: %d"))]
def methodWlrSceneTreeGet : GetMethod where
  struct := "wlr_scene_tree"
  lists := some wlrSceneTreeListOffsets
  members := [("node",.inner "node" .jwlrAtWlrSceneNode)]
def methodWlrSceneNodeGet : GetMethod where
  struct := "wlr_scene_node"
  signals := some wlrSceneNodeSignalOffsets
  members := [
    ("type",.enumKey "type" wlrSceneNodeTypeDefs (some "unknown node type from wlroots scene node: %d")),
    ("parent",.nilOr (.wrap "parent" .jwlrAtWlrSceneTree)),("enabled",.boolean "enabled"),
    ("x",.integer .int32 "x"),("y",.integer .int32 "y"),("data",.nilOr (.pointer "data"))]
def methodWlrInputDeviceGet : GetMethod where
  struct := "wlr_input_device"
  signals := some wlrInputDeviceSignalOffsets
  members := [
    ("type",.enumKey "type" wlrInputDeviceDefs (some "unknown device type from wlroots input device: %d")),
    ("vendor",.integer .uint32 "vendor"),("product",.integer .uint32 "product"),
    ("name",.nilOr (.cstring "name")),("data",.nilOr (.pointer "data"))]
def methodWlrPointerGet : GetMethod where
  struct := "wlr_pointer"
  signals := some wlrPointerSignalOffsets
  members := [("base",.inner "base" .jwlrAtWlrInputDevice),("output-name",.cstring "output_name"),
    ("data",.nilOr (.pointer "data"))]
def methodWlrKeyboardModifiersGet : GetMethod where
  struct := "wlr_keyboard_modifiers"
  members := [("depressed",.flags "depressed" wlrKeyboardModifierDefs),
    ("latched",.flags "latched" wlrKeyboardModifierDefs),
    ("locked",.flags "locked" wlrKeyboardModifierDefs),("group",.flags "group" wlrKeyboardModifierDefs)]
def methodWlrKeyboardKeyEventGet : GetMethod where
  struct := "wlr_keyboard_key_event"
  members := [("time-msec",.unsigned "time_msec"),("keycode",.unsigned "keycode"),
    ("update-state",.boolean "update_state"),("state",.enumKey "state" wlKeyboardKeyStateDefs none)]
def methodWlrKeyboardGet : GetMethod where
  struct := "wlr_keyboard"
  signals := some wlrKeyboardSignalOffsets
  members := [("base",.inner "base" .jwlrAtWlrInputDevice),
    ("keymap-string",.nilOr (.bytes "keymap_string" "keymap_size")),
    ("xkb-state",.wrapNamed "xkb_state" "xkb/xkb-state"),
    ("keycodes",.embeddedWords "keycodes" "num_keycodes"),
    ("modifiers",.inner "modifiers" .jwlrAtWlrKeyboardModifiers),("data",.nilOr (.pointer "data"))]
def methodWlrPointerMotionEventGet : GetMethod where
  struct := "wlr_pointer_motion_event"
  members := [("pointer",.nilOr (.wrap "pointer" .jwlrAtWlrPointer)),
    ("time-msec",.unsigned "time_msec"),("delta-x",.number "delta_x"),("delta-y",.number "delta_y"),
    ("unaccel-dx",.number "unaccel_dx"),("unaccel-dy",.number "unaccel_dy")]
def methodWlrPointerMotionAbsoluteEventGet : GetMethod where
  struct := "wlr_pointer_motion_absolute_event"
  members := [("pointer",.nilOr (.wrap "pointer" .jwlrAtWlrPointer)),
    ("time-msec",.unsigned "time_msec"),("x",.number "x"),("y",.number "y")]
def methodWlrPointerButtonEventGet : GetMethod where
  struct := "wlr_pointer_button_event"
  members := [("pointer",.nilOr (.wrap "pointer" .jwlrAtWlrPointer)),
    ("time-msec",.unsigned "time_msec"),("button",.unsigned "button"),
    ("state",.enumKey "state" wlrButtonStateDefs
      (some "unknown button state from wlroots pointer button event: %d"))]
def methodWlrPointerAxisEventGet : GetMethod where
  struct := "wlr_pointer_axis_event"
  members := [("pointer",.nilOr (.wrap "pointer" .jwlrAtWlrPointer)),
    ("time-msec",.unsigned "time_msec"),
    ("source",.enumKey "source" wlrAxisSourceDefs
      (some "unknown axis source from wlroots pointer axis event: %d")),
    ("orientation",.enumKey "orientation" wlrAxisOrientationDefs
      (some "unknown axis orientation from wlroots pointer axis event: %d")),
    ("delta",.number "delta"),("delta-discrete",.integer .int32 "delta_discrete")]
def methodWlrSeatPointerStateGet : GetMethod where
  struct := "wlr_seat_pointer_state"
  signals := some wlrSeatPointerStateSignalOffsets
  members := [("seat",.nilOr (.wrap "seat" .jwlrAtWlrSeat)),
    ("focused-client",.nilOr (.wrap "focused_client" .jwlrAtWlrSeatClient)),
    ("focused-surface",.nilOr (.wrap "focused_surface" .jwlrAtWlrSurface)),("sx",.number "sx"),
    ("sy",.number "sy")]
def methodWlrSeatKeyboardStateGet : GetMethod where
  struct := "wlr_seat_keyboard_state"
  signals := some wlrSeatKeyboardStateSignalOffsets
  members := [("seat",.nilOr (.wrap "seat" .jwlrAtWlrSeat)),
    ("keyboard",.nilOr (.wrap "keyboard" .jwlrAtWlrKeyboard)),
    ("focused-client",.nilOr (.wrap "focused_client" .jwlrAtWlrSeatClient)),
    ("focused-surface",.nilOr (.wrap "focused_surface" .jwlrAtWlrSurface))]
def methodWlrSeatPointerRequestSetCursorEventGet : GetMethod where
  struct := "wlr_seat_pointer_request_set_cursor_event"
  members := [("seat-client",.wrap "seat_client" .jwlrAtWlrSeatClient),
    ("surface",.wrap "surface" .jwlrAtWlrSurface),("serial",.integer .uint32 "serial"),
    ("hotspot-x",.integer .int32 "hotspot_x"),("hotspot-y",.integer .int32 "hotspot_y")]
def methodWlrSeatRequestSetSelectionEventGet : GetMethod where
  struct := "wlr_seat_request_set_selection_event"
  members := [("source",.wrap "source" .jwlrAtWlrDataSource),("serial",.integer .uint32 "serial")]
def methodWlrSceneSurfaceGet : GetMethod where
  struct := "wlr_scene_surface"
  members := [("buffer",.nilOr (.wrap "buffer" .jwlrAtWlrSceneBuffer)),
    ("surface",.nilOr (.wrap "surface" .jwlrAtWlrSurface))]
def methodWlrXwaylandGet : GetMethod where
  struct := "wlr_xwayland"
  signals := some wlrXwaylandSignalOffsets
  members := [("display-name",.nilOr (.cstring "display_name")),
    ("wl-display",.nilOr (.wrapNamed "wl_display" "wl/wl-display")),
    ("compositor",.nilOr (.wrap "compositor" .jwlrAtWlrCompositor)),
    ("seat",.nilOr (.wrap "seat" .jwlrAtWlrSeat)),("data",.nilOr (.pointer "data"))]
def methodWlrXwaylandSurfaceGet : GetMethod where
  struct := "wlr_xwayland_surface"
  signals := some wlrXwaylandSurfaceSignalOffsets
  members := [("surface",.nilOr (.wrap "surface" .jwlrAtWlrSurface)),("x",.integer .int16 "x"),
    ("y",.integer .int16 "y"),("width",.integer .uint16 "width"),("height",.integer .uint16 "height"),
    ("override-redirect",.boolean "override_redirect"),("mapped",.boolean "mapped"),
    ("title",.nilOr (.cstring "title")),("class",.nilOr (.cstring "class")),
    ("instance",.nilOr (.cstring "instance")),("role",.nilOr (.cstring "role")),
    ("startup-id",.nilOr (.cstring "startup_id")),("pid",.integer .int32 "pid"),
    ("parent",.nilOr (.wrap "parent" .jwlrAtWlrXwaylandSurface)),
    ("window-type",.nilOr (.words "window_type" "window_type_len")),
    ("window-type-len",.integer .size "window_type_len"),
    ("protocols",.nilOr (.words "protocols" "protocols_len")),
    ("protocols-len",.integer .size "protocols_len"),
    ("size-hints",.nilOr (.wrapNamed "size_hints" "xkb/xkb-size-hints-t")),("modal",.boolean "modal"),
    ("fullscreen",.boolean "fullscreen"),("maximized-vert",.boolean "maximized_vert"),
    ("maximized-horz",.boolean "maximized_horz"),("minimized",.boolean "minimized"),
    ("has-alpha",.boolean "has_alpha"),("data",.nilOr (.pointer "data"))]
def methodWlrXwaylandSurfaceConfigureEventGet : GetMethod where
  struct := "wlr_xwayland_surface_configure_event"
  members := [("surface",.nilOr (.wrap "surface" .jwlrAtWlrXwaylandSurface)),("x",.integer .int16 "x"),
    ("y",.integer .int16 "y"),("width",.integer .uint16 "width"),("height",.integer .uint16 "height"),
    ("mask",.integer .uint16 "mask")]
def methodWlrXwaylandResizeEventGet : GetMethod where
  struct := "wlr_xwayland_resize_event"
  members := [("surface",.nilOr (.wrap "surface" .jwlrAtWlrXwaylandSurface)),
    ("edges",.flags "edges" wlrEdgesDefs)]
def methodWlrXwaylandMinimizeEventGet : GetMethod where
  struct := "wlr_xwayland_minimize_event"
  members := [("surface",.nilOr (.wrap "surface" .jwlrAtWlrXwaylandSurface)),
    ("minimize",.boolean "minimize")]
def methodWlrLayerShellV1Get : GetMethod where
  struct := "wlr_layer_shell_v1"
  signals := some wlrLayerShellV1SignalOffsets
  members := [("data",.nilOr (.pointer "data"))]
def methodXcbInternAtomReplyTGet : GetMethod where
  struct := "xcb_intern_atom_reply_t"
  members := [("atom",.unsigned "atom")]
def methodXcbGenericErrorTGet : GetMethod where
  struct := "xcb_generic_error_t"
  members := [("error-code",.integer .uint8 "error_code")]
def methodXcbSizeHintsTGet : GetMethod where
  struct := "xcb_size_hints_t"
  members := [("flags",.unsigned "flags"),("x",.integer .int32 "x"),("y",.integer .int32 "y"),
    ("width",.integer .int32 "width"),("height",.integer .int32 "height"),
    ("min-width",.integer .int32 "min_width"),("min-height",.integer .int32 "min_height"),
    ("max-width",.integer .int32 "max_width"),("max-height",.integer .int32 "max_height"),
    ("width-inc",.integer .int32 "width_inc"),("height-inc",.integer .int32 "height_inc"),
    ("min-aspect-num",.integer .int32 "min_aspect_num"),
    ("min-aspect-den",.integer .int32 "min_aspect_den"),
    ("max-aspect-num",.integer .int32 "max_aspect_num"),
    ("max-aspect-den",.integer .int32 "max_aspect_den"),("base-width",.integer .int32 "base_width"),
    ("base-height",.integer .int32 "base_height"),("win-gravity",.unsigned "win_gravity")]

def AbsType.getMethod : AbsType → Option GetMethod
  | .jwlrAtBox => some methodBoxGet
  | .jwlrAtWlrBackend => some methodWlrBackendGet
  | .jwlrAtWlrOutputLayout => some methodWlrOutputLayoutGet
  | .jwlrAtWlrScene => some methodWlrSceneGet
  | .jwlrAtWlrSceneOutput => some methodWlrSceneOutputGet
  | .jwlrAtWlrXdgShell => some methodWlrXdgShellGet
  | .jwlrAtWlrSurface => some methodWlrSurfaceGet
  | .jwlrAtWlrSurfaceState => some methodWlrSurfaceStateGet
  | .jwlrAtWlrXdgPopup => some methodWlrXdgPopupGet
  | .jwlrAtWlrXdgToplevel => some methodWlrXdgToplevelGet
  | .jwlrAtWlrXdgToplevelResizeEvent => some methodWlrXdgToplevelResizeEventGet
  | .jwlrAtWlrXdgToplevelMoveEvent => some methodWlrXdgToplevelMoveEventGet
  | .jwlrAtWlrXdgSurface => some methodWlrXdgSurfaceGet
  | .jwlrAtWlrCursor => some methodWlrCursorGet
  | .jwlrAtWlrXcursorImage => some methodWlrXcursorImageGet
  | .jwlrAtWlrXcursor => some methodWlrXcursorGet
  | .jwlrAtWlrSeat => some methodWlrSeatGet
  | .jwlrAtWlrOutput => some methodWlrOutputGet
  | .jwlrAtWlrOutputMode => some methodWlrOutputModeGet
  | .jwlrAtWlrSceneTree => some methodWlrSceneTreeGet
  | .jwlrAtWlrSceneNode => some methodWlrSceneNodeGet
  | .jwlrAtWlrSceneSurface => some methodWlrSceneSurfaceGet
  | .jwlrAtWlrInputDevice => some methodWlrInputDeviceGet
  | .jwlrAtWlrPointer => some methodWlrPointerGet
  | .jwlrAtWlrPointerMotionEvent => some methodWlrPointerMotionEventGet
  | .jwlrAtWlrPointerMotionAbsoluteEvent => some methodWlrPointerMotionAbsoluteEventGet
  | .jwlrAtWlrPointerButtonEvent => some methodWlrPointerButtonEventGet
  | .jwlrAtWlrPointerAxisEvent => some methodWlrPointerAxisEventGet
  | .jwlrAtWlrSeatPointerState => some methodWlrSeatPointerStateGet
  | .jwlrAtWlrSeatKeyboardState => some methodWlrSeatKeyboardStateGet
  | .jwlrAtWlrSeatPointerRequestSetCursorEvent => some methodWlrSeatPointerRequestSetCursorEventGet
  | .jwlrAtWlrSeatRequestSetSelectionEvent => some methodWlrSeatRequestSetSelectionEventGet
  | .jwlrAtWlrKeyboardModifiers => some methodWlrKeyboardModifiersGet
  | .jwlrAtWlrKeyboardKeyEvent => some methodWlrKeyboardKeyEventGet
  | .jwlrAtWlrKeyboard => some methodWlrKeyboardGet
  | .jwlrAtWlrXwayland => some methodWlrXwaylandGet
  | .jwlrAtWlrXwaylandSurface => some methodWlrXwaylandSurfaceGet
  | .jwlrAtWlrXwaylandResizeEvent => some methodWlrXwaylandResizeEventGet
  | .jwlrAtWlrXwaylandMinimizeEvent => some methodWlrXwaylandMinimizeEventGet
  | .jwlrAtWlrXwaylandSurfaceConfigureEvent => some methodWlrXwaylandSurfaceConfigureEventGet
  | .jwlrAtWlrLayerShellV1 => some methodWlrLayerShellV1Get
  | .jxcbAtXcbInternAtomReplyT => some methodXcbInternAtomReplyTGet
  | .jxcbAtXcbGenericErrorT => some methodXcbGenericErrorTGet
  | .jxcbAtXcbSizeHintsT => some methodXcbSizeHintsTGet
  | _ => none

def janetGetIndex (items : List Janet) : Janet → Option Janet
  | .number index => match index.int32? with
    | some i => if 0 ≤ i then items[i.toNat]? else none
    | none => none
  | _ => none

-- `get` on what a get method can return. Values of Janet's own abstract types answer
-- with their own methods, and tables are the script's; neither is looked into.
def janetGet (env : Env) : Janet → Janet → Res (Option Janet)
  | .abstract value,key => match value.type with
    | .own type => match type.getMethod with
      | some method => method.run env value key
      | none => .ok none
    | .foreign _ => .ok none
  | .array items,key | .tuple items,key => .ok (janetGetIndex items key)
  | .string bytes,key | .buffer bytes,key =>
    .ok (janetGetIndex (bytes.map (fun byte => janetInteger byte.toNat)) key)
  | _,_ => .ok none

theorem janetGet_wrapped {type : AbsType} (gets : type.getMethod = some method) (env : Env) (self p : Addr)
    (key : Janet) : janetGet env (.abstract (jlPointerToAbsObj self p type)) key =
      method.run env (jlPointerToAbsObj self p type) key := by
  simp only [janetGet,jlPointerToAbsObj,gets]

-- A path of keys ends early at an unknown one.
def follow (env : Env) (value : Janet) : List Janet → Res (Option Janet)
  | [] => .ok (some value)
  | key :: rest => do
    match ← janetGet env value key with
    | some next => follow env next rest
    | none => return none

end Janetland
